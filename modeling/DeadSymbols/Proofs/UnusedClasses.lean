import DeadSymbols.Proofs.ByteOrder
import DeadSymbols.Proofs.Findings
import DeadSymbols.Proofs.References
import DeadSymbols.Proofs.Resolution

/-!
Contract: which classes an analysis reports, read off the lines of the dump.

A class is declared by a name line that is followed by a line of methods once blank lines are
dropped, in the body of the class list. It is referenced by a line of the body of the class
references. Both tokens are renamed before they are compared, so two tokens with one name count
as one class, and a token that is both declared and referenced is never reported.
-/

namespace DeadSymbols

open DeadSymbols.Dump
open DeadSymbols.Name
open DeadSymbols.Text

variable {σ : Type}

/-- The classes that an analysis reports: strictly ascending in the order of UTF-8 octets, and
exactly the names of the tokens that the class list declares, less the names of the tokens that
the class references hold. A token that is both declared and referenced is not reported. -/
theorem analyzeWith_unusedClasses_exact {demangler : Demangler σ}
    {answer : String → Option String} (answers : AnswersBy demangler answer) (whitelist : NameSet)
    (dump selectorText : List Char) (state : σ) :
    let report := (analyzeWith demangler whitelist dump selectorText state).1
    report.unusedClasses.Pairwise ByteBelow ∧
      (∀ name, name ∈ report.unusedClasses ↔
        (∃ body ∈ sectionBody? dump classList, ∃ before first second after token,
          writtenLines body = before ++ first :: second :: after ∧ NameLine first token ∧
            MethodsLine second ∧ naming answer token = name) ∧
          ∀ body ∈ sectionBody? dump classReferences, ∀ line ∈ lines body, ∀ token,
            ClassReferenceLine line token → naming answer token ≠ name) ∧
      ∀ token ∈ declaredClasses dump, token ∈ referencedClasses dump →
        naming answer token ∉ report.unusedClasses := by
  dsimp only
  rw [answers.analyzeWith]
  refine ⟨analyze_unusedClasses_ascending.imp byteBelow_iff_lt.mpr, ?_, ?_⟩
  · intro name
    rw [mem_analyze_unusedClasses]
    refine and_congr ?_ ?_
    · constructor
      · intro declared
        obtain ⟨token, member, same⟩ := declared
        obtain ⟨body, found, before, first, second, after, whole, named, methods⟩ :=
          mem_declaredClasses.mp member
        exact ⟨body, found, before, first, second, after, token, whole, named, methods, same⟩
      · intro adjacent
        obtain ⟨body, found, before, first, second, after, token, whole, named, methods, same⟩ :=
          adjacent
        refine ⟨token, mem_declaredClasses.mpr ?_, same⟩
        exact ⟨body, found, before, first, second, after, whole, named, methods⟩
    · constructor
      · intro apart body found line member token references
        exact apart token (mem_referencedClasses.mpr ⟨body, found, line, member, references⟩)
      · intro apart token isReferenced
        obtain ⟨body, found, line, member, references⟩ := mem_referencedClasses.mp isReferenced
        exact apart body found line member token references
  · intro token _ isReferenced reported
    obtain ⟨_, apart⟩ := mem_analyze_unusedClasses.mp reported
    exact apart token isReferenced rfl

/-- Two declared classes, the first over a blank line and renamed, the second also referenced. -/
theorem analyzeWith_unusedClasses_exact_lost :
    let names : NameMap String := NameMap.empty.set "Lost" "Lost Class"
    let dump := ("Contents of (__DATA_CONST,__objc_classlist) section\n name 0x1 Lost\n\n" ++
      " baseMethods 0x2\n name 0x3 Kept\n baseMethods 0x4\n" ++
      "Contents of (__DATA,__objc_classrefs) section\n00 0x3 _OBJC_CLASS_$_Kept\n").toList
    let report := (analyzeWith (table names) ∅ dump [] ()).1
    AnswersBy (table names : Demangler Unit) names.get? ∧
      "Lost Class" ∈ report.unusedClasses ∧ "Kept" ∉ report.unusedClasses := by
  intro names dump report
  have answers : AnswersBy (table names : Demangler Unit) names.get? := fun _ _ => rfl
  obtain ⟨_, members, both⟩ := analyzeWith_unusedClasses_exact answers ∅ dump [] ()
  have bodies : (sectionBody? dump classList, sectionBody? dump classReferences) =
      (some ("\n name 0x1 Lost\n\n baseMethods 0x2\n name 0x3 Kept\n baseMethods 0x4\n").toList,
        some "\n00 0x3 _OBJC_CLASS_$_Kept\n".toList) := by decide +kernel
  obtain ⟨declaring, referring⟩ := Prod.mk.inj bodies
  have declared : declaredClasses dump = NameSet.ofList ["Lost", "Kept"] := by
    rw [declaredClasses, declaring]
    decide +kernel
  have referenced : referencedClasses dump = NameSet.ofList ["Kept"] := by
    rw [referencedClasses, referring]
    decide +kernel
  refine ⟨answers, (members _).mpr ⟨?_, ?_⟩, both "Kept" ?_ ?_⟩
  · refine ⟨_, declaring, [], " name 0x1 Lost".toList, " baseMethods 0x2".toList,
      [" name 0x3 Kept".toList, " baseMethods 0x4".toList], "Lost", by decide +kernel,
      nameToken?_eq_some_iff.mp (by decide), startsWith_methods_iff.mp (by decide), by decide⟩
  · intro body found line member token references
    have isReferenced := mem_referencedClasses.mpr ⟨body, found, line, member, references⟩
    rw [referenced, NameSet.mem_ofList, List.mem_singleton] at isReferenced
    rw [isReferenced]
    decide
  · rw [declared]
    decide
  · rw [referenced]
    decide

end DeadSymbols
