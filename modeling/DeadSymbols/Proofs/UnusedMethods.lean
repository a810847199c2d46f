import DeadSymbols.Proofs.ByteOrder
import DeadSymbols.Proofs.Findings
import DeadSymbols.Proofs.Resolution

/-!
Contract: which methods an analysis reports.

The report carries signatures only. It holds a signature exactly when some record of the dump gives
a method with that signature whose selector is neither whitelisted nor referenced. A signature
determines its selector, since no selector of a record holds white space, whatever the class is
called. So a whitelisted or referenced selector is never reported under any class, and no entry
stands twice.
-/

namespace DeadSymbols

open DeadSymbols.Dump
open DeadSymbols.Name
open DeadSymbols.Text

variable {σ : Type}

/-- A selector without white space that is whitelisted or referenced is reported for no class. -/
theorem signature_not_mem_unusedMethods {rename : String → String} {whitelist : NameSet}
    {dump selectorText : List Char} {selector : String} (spaceless : Spaceless selector)
    (excluded : selector ∈ whitelist ∨
      selector ∈ referencedSelectors (selectorSource dump selectorText)) (className : String) :
    signature className selector ∉ (analyze rename whitelist dump selectorText).unusedMethods := by
  intro reported
  obtain ⟨token, other, implemented, notWhitelisted, notReferenced, same⟩ :=
    mem_analyze_unusedMethods.mp reported
  obtain ⟨_, rfl⟩ := signature_inj implemented.spaceless.2 spaceless same
  rcases excluded with whitelisted | isReferenced
  · exact notWhitelisted whitelisted
  · exact notReferenced isReferenced

/-- The methods that an analysis reports: strictly ascending in the order of UTF-8 octets, and
exactly the signatures of the parsed methods whose selector is neither whitelisted nor referenced.
No class is reported with an excluded selector, and a dump without metadata, for which the answer
is given early, has the answer of the full comparison. -/
theorem analyzeWith_unusedMethods_exact {demangler : Demangler σ}
    {answer : String → Option String} (answers : AnswersBy demangler answer) (whitelist : NameSet)
    (dump selectorText : List Char) (state : σ) :
    let report := (analyzeWith demangler whitelist dump selectorText state).1
    let referenced := referencedSelectors (if isBlank selectorText then dump else selectorText)
    report.unusedMethods.Pairwise ByteBelow ∧
      (∀ entry, entry ∈ report.unusedMethods ↔
        ∃ record ∈ rawRecords dump, ∃ parsed ∈ (record.parseWith? demangler state).1,
          ∃ method ∈ parsed.methods, method.signature = entry ∧
            method.selector ∉ whitelist ∧ method.selector ∉ referenced) ∧
      (∀ className selector, Spaceless selector → (selector ∈ whitelist ∨ selector ∈ referenced) →
        signature className selector ∉ report.unusedMethods) ∧
      ((Metadata.ofTexts dump selectorText).isEmpty = true → report = Findings.none) ∧
      report = (Metadata.ofTexts dump selectorText).comparison (naming answer) whitelist := by
  dsimp only
  rw [answers.analyzeWith]
  refine ⟨?_, ?_, ?_, ?_, analyze_eq_comparison⟩
  · exact analyze_unusedMethods_ascending.imp byteBelow_iff_lt.mpr
  · intro entry
    simp only [answers.parseWith?]
    exact mem_analyze_unusedMethods_iff_parsed
  · intro className selector spaceless excluded
    exact signature_not_mem_unusedMethods spaceless excluded className
  · intro empty
    rw [analyze, Metadata.findings, if_pos empty]

/-- A class that is renamed to a name with a blank, with one method to report and one that the
whitelist excludes. -/
theorem analyzeWith_unusedMethods_exact_runner :
    let names : NameMap String := NameMap.empty.set "Runner" "My Runner"
    let dump := ("data 0x1 (struct class_ro_t *)\n name 0x2 Runner\n baseMethods 0x3\n" ++
      " name 0x4 run\n imp 0x5 -[Runner run]\n name 0x6 stop\n imp 0x7\n").toList
    let report := (analyzeWith (table names) (NameSet.ofList ["stop"]) dump [] ()).1
    AnswersBy (table names : Demangler Unit) names.get? ∧
      "[My Runner run]" ∈ report.unusedMethods ∧
      ∀ className, signature className "stop" ∉ report.unusedMethods := by
  intro names dump report
  have answers : AnswersBy (table names : Demangler Unit) names.get? := fun _ _ => rfl
  obtain ⟨_, members, excluded, _⟩ :=
    analyzeWith_unusedMethods_exact answers (NameSet.ofList ["stop"]) dump [] ()
  refine ⟨answers, (members _).mpr (by decide +kernel), fun className => ?_⟩
  exact excluded className "stop" (by decide) (Or.inl (by decide))

end DeadSymbols
