import DeadSymbols.Proofs.Findings
import DeadSymbols.Proofs.Resolution
import Mathlib.Data.Set.Function

/-!
Contract: renaming classes changes the names in a report and nothing else.

Two analyses of the same texts are compared, one under the naming of a demangler and one that
leaves every name. What the dump implements does not depend on names, so a method is reported
under the naming exactly when its signature with the raw class is reported without it. Classes are
compared by name, so a renaming can only merge classes: a reported class always stems from a class
that is reported without the renaming, and no class is lost when no two tokens share a name.
-/

namespace DeadSymbols

open DeadSymbols.Dump
open DeadSymbols.Name

variable {rename : String → String} {whitelist : NameSet} {dump selectorText : List Char}

/-- The reported methods are those of the plain analysis with the classes renamed. A signature of
the plain report is read back by cutting it at its blank. -/
theorem mem_unusedMethods_renamed {entry : String} :
    entry ∈ (analyze rename whitelist dump selectorText).unusedMethods ↔
      ∃ className selector, Spaceless className ∧ Spaceless selector ∧
        signature className selector ∈ (analyze id whitelist dump selectorText).unusedMethods ∧
        signature (rename className) selector = entry := by
  constructor
  · intro reported
    obtain ⟨token, selector, implemented, notWhitelisted, notReferenced, same⟩ :=
      mem_analyze_unusedMethods.mp reported
    refine ⟨token, selector, implemented.spaceless.1, implemented.spaceless.2, ?_, same⟩
    refine mem_analyze_unusedMethods.mpr ?_
    exact ⟨token, selector, implemented, notWhitelisted, notReferenced, rfl⟩
  · intro plain
    obtain ⟨className, selector, _, spaceless, reported, same⟩ := plain
    obtain ⟨token, other, implemented, notWhitelisted, notReferenced, sameSignature⟩ :=
      mem_analyze_unusedMethods.mp reported
    obtain ⟨rfl, rfl⟩ := signature_inj implemented.spaceless.2 spaceless sameSignature
    refine mem_analyze_unusedMethods.mpr ?_
    exact ⟨token, other, implemented, notWhitelisted, notReferenced, same⟩

/-- A reported class is the name of a class that the plain analysis reports. -/
theorem exists_plain_of_mem_unusedClasses {name : String}
    (reported : name ∈ (analyze rename whitelist dump selectorText).unusedClasses) :
    ∃ token ∈ (analyze id whitelist dump selectorText).unusedClasses, rename token = name := by
  obtain ⟨⟨token, declared, same⟩, apart⟩ := mem_analyze_unusedClasses.mp reported
  refine ⟨token, mem_analyze_unusedClasses.mpr ⟨⟨token, declared, rfl⟩, ?_⟩, same⟩
  intro other isReferenced sameToken
  -- A reference to the token itself would carry its name.
  rw [← sameToken] at same
  exact apart other isReferenced same

/-- When no two compared tokens share a name, the reported classes are the renamed ones. -/
theorem unusedClasses_renamed
    (injective : Set.InjOn rename
      { token | token ∈ declaredClasses dump ∨ token ∈ referencedClasses dump }) :
    (analyze rename whitelist dump selectorText).unusedClasses =
      ((analyze id whitelist dump selectorText).unusedClasses.map rename).mergeSort (· ≤ ·) := by
  have plainDeclared : ∀ token ∈ (analyze id whitelist dump selectorText).unusedClasses,
      token ∈ declaredClasses dump := by
    intro token reported
    obtain ⟨⟨raw, declared, rfl⟩, _⟩ := mem_analyze_unusedClasses.mp reported
    exact declared
  have distinct :
      ((analyze id whitelist dump selectorText).unusedClasses.map rename).Nodup := by
    refine List.Nodup.map_on ?_ analyze_unusedClasses_ascending.nodup
    intro left leftReported right rightReported same
    exact injective (Or.inl (plainDeclared left leftReported))
      (Or.inl (plainDeclared right rightReported)) same
  refine List.Pairwise.eq_of_mem_iff analyze_unusedClasses_ascending
    (mergeSort_ascending distinct) ?_
  intro name
  rw [List.mem_mergeSort, List.mem_map]
  constructor
  · exact exists_plain_of_mem_unusedClasses
  · intro image
    obtain ⟨token, reported, rfl⟩ := image
    have declared := plainDeclared token reported
    refine mem_analyze_unusedClasses.mpr ⟨⟨token, declared, rfl⟩, ?_⟩
    intro other isReferenced same
    have sameToken : other = token := injective (Or.inr isReferenced) (Or.inl declared) same
    exact (mem_analyze_unusedClasses.mp reported).2 other isReferenced sameToken

/-- An analysis with a demangler against one without better names, on the same texts: the methods
are the same with renamed classes, every reported class stems from one that is reported without
the demangler, and where the naming keeps the compared tokens apart the classes are the sorted
images. -/
theorem analyzeWith_only_renames {σ τ : Type} {demangler : Demangler σ}
    {answer : String → Option String} (answers : AnswersBy demangler answer) (whitelist : NameSet)
    (dump selectorText : List Char) (state : σ) (plainState : τ) :
    let renamed := (analyzeWith demangler whitelist dump selectorText state).1
    let plain := (analyzeWith identity whitelist dump selectorText plainState).1
    (∀ entry, entry ∈ renamed.unusedMethods ↔
      ∃ className selector, Spaceless className ∧ Spaceless selector ∧
        signature className selector ∈ plain.unusedMethods ∧
        signature (naming answer className) selector = entry) ∧
      (∀ name ∈ renamed.unusedClasses, ∃ token ∈ plain.unusedClasses,
        naming answer token = name) ∧
      (Set.InjOn (naming answer)
          { token | token ∈ declaredClasses dump ∨ token ∈ referencedClasses dump } →
        renamed.unusedClasses =
          (plain.unusedClasses.map (naming answer)).mergeSort (· ≤ ·)) := by
  dsimp only
  rw [answers.analyzeWith, identity_answersBy.analyzeWith, naming_none]
  refine ⟨fun entry => mem_unusedMethods_renamed, ?_, unusedClasses_renamed⟩
  intro name reported
  exact exists_plain_of_mem_unusedClasses reported

/-- A naming that keeps the tokens of a dump apart, one of them referenced. -/
theorem analyzeWith_only_renames_lost :
    let names : NameMap String := NameMap.empty.set "Lost" "Lost Class"
    let dump := ("Contents of (__DATA,__objc_classlist) section\n name 0x1 Lost\n" ++
      " baseMethods 0x2\n name 0x3 Kept\n baseMethods 0x4\n" ++
      "Contents of (__DATA,__objc_classrefs) section\n00 0x3 _OBJC_CLASS_$_Kept\n").toList
    let plain := (analyzeWith identity ∅ dump [] ()).1
    AnswersBy (table names : Demangler Unit) names.get? ∧
      (analyzeWith (table names) ∅ dump [] ()).1.unusedClasses =
        (plain.unusedClasses.map (naming names.get?)).mergeSort (· ≤ ·) := by
  intro names dump plain
  have answers : AnswersBy (table names : Demangler Unit) names.get? := fun _ _ => rfl
  obtain ⟨_, _, classes⟩ := analyzeWith_only_renames answers ∅ dump [] () ()
  refine ⟨answers, classes ?_⟩
  have tokens : (declaredClasses dump, referencedClasses dump) =
      (NameSet.ofList ["Kept", "Lost"], NameSet.ofList ["Kept"]) := by decide +kernel
  obtain ⟨declared, referenced⟩ := Prod.mk.inj tokens
  intro left leftCompared right rightCompared
  simp only [declared, referenced, NameSet.mem_ofList, Set.mem_ofPred_eq, List.mem_cons,
    List.not_mem_nil, or_false] at leftCompared rightCompared
  rcases leftCompared with (rfl | rfl) | rfl <;> rcases rightCompared with (rfl | rfl) | rfl <;>
    decide

end DeadSymbols
