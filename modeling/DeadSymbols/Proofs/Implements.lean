import DeadSymbols.Analysis
import DeadSymbols.Proofs.Index
import DeadSymbols.Proofs.LineGrammar

/-!
Contract: which class implements which selector, before any class is renamed.

`RawRecord.Implements` says that a record gives a class token a method with a selector. Both are
words of the record's lines, so neither holds white space, and the signature of a method can be
taken apart again: the selector is what stands after its last blank. A renaming of classes acts on
the token alone. The index of a dump therefore holds exactly the renamed signatures of what its
records implement, and each signature stands under one selector only.

Owns: the signature's parts, `Implements`, and the index of a dump in these terms.
Does not own: how methods are compared with references (`Proofs.Findings`).
-/

namespace DeadSymbols

open DeadSymbols.Text

/-! ### Signatures -/

/-- A name without white space. It may be empty. -/
def Spaceless (name : String) : Prop := ∀ c ∈ name.toList, isSpace c = false

instance (name : String) : Decidable (Spaceless name) :=
  decidable_of_iff (name.toList.all (!isSpace ·) = true) (by simp [Spaceless])

theorem spaceless_of_isWord {name : String} (isWord : Run isWordChar name.toList) :
    Spaceless name := by
  intro c member
  exact isWordChar_iff.mp (isWord.2 c member)

theorem Spaceless.blank_not_mem {name : String} (spaceless : Spaceless name) :
    ' ' ∉ name.toList := by
  intro member
  have notSpace := spaceless ' ' member
  exact absurd notSpace (by decide)

theorem toList_signature (className selector : String) :
    (signature className selector).toList =
      '[' :: (className.toList ++ ' ' :: (selector.toList ++ [']'])) := by
  simp only [signature, String.toList_append, List.append_assoc]
  rfl

/-- Two texts cut at a mark that is not in either tail agree in both parts. -/
private theorem append_cons_inj {mark : Char} {front otherFront tail otherTail : List Char}
    (notInTail : mark ∉ tail) (notInOther : mark ∉ otherTail)
    (same : front ++ mark :: tail = otherFront ++ mark :: otherTail) :
    front = otherFront ∧ tail = otherTail := by
  rcases List.append_eq_append_iff.mp same with ⟨extra, frontEq, tailEq⟩ | ⟨extra, frontEq, tailEq⟩
  · cases extra with
    | nil => exact ⟨by simpa using frontEq.symm, (List.cons.inj tailEq).2⟩
    | cons c more =>
        have whole := (List.cons.inj tailEq).2
        exact absurd (by simp [whole]) notInTail
  · cases extra with
    | nil => exact ⟨by simpa using frontEq, ((List.cons.inj tailEq).2).symm⟩
    | cons c more =>
        have whole := (List.cons.inj tailEq).2
        exact absurd (by simp [whole]) notInOther

/-- A signature determines its class and its selector, as long as the selector holds no white
space. The class may hold any characters, blanks too. -/
theorem signature_inj {className otherClass selector otherSelector : String}
    (spaceless : Spaceless selector) (otherSpaceless : Spaceless otherSelector)
    (same : signature className selector = signature otherClass otherSelector) :
    className = otherClass ∧ selector = otherSelector := by
  have lists := congrArg String.toList same
  rw [toList_signature, toList_signature] at lists
  have closed := (List.cons.inj lists).2
  rw [← List.cons_append, ← List.cons_append, ← List.append_assoc, ← List.append_assoc] at closed
  have parts := append_cons_inj spaceless.blank_not_mem otherSpaceless.blank_not_mem
    (List.append_cancel_right closed)
  exact ⟨String.toList_inj.mp parts.1, String.toList_inj.mp parts.2⟩

namespace Dump

/-! ### The steps through a native record -/

section Steps

variable {pending : Option String} {line : List Char} {rest : List (List Char)}

theorem nativeMethods_name {selector : String} (named : nameToken? line = some selector) :
    nativeMethods pending (line :: rest) = nativeMethods (some selector) rest := by
  rw [nativeMethods.eq_def]
  simp only [named]

theorem nativeMethods_other (notName : nameToken? line = none) (notImp : impLine? line = none) :
    nativeMethods pending (line :: rest) = nativeMethods pending rest := by
  rw [nativeMethods.eq_def]
  simp only [notName, notImp]

theorem nativeMethods_symbol {owner selector : String} (notName : nameToken? line = none)
    (isImp : impLine? line = some (.symbol owner selector)) :
    nativeMethods pending (line :: rest) =
      { owner := some owner, selector } :: nativeMethods none rest := by
  rw [nativeMethods.eq_def]
  simp only [notName, isImp]

/-- A stripped implementation uses up the pending selector, if there is one. -/
theorem nativeMethods_stripped (notName : nameToken? line = none)
    (isImp : impLine? line = some .stripped) :
    nativeMethods pending (line :: rest) =
      (pending.map fun selector => { owner := none, selector }).toList ++
        nativeMethods none rest := by
  rw [nativeMethods.eq_def]
  simp only [notName, isImp]
  cases pending with
  | none => rfl
  | some selector => rfl

/-- The line says nothing about methods. -/
def Aside (line : List Char) : Prop := nameToken? line = none ∧ impLine? line = none

theorem nativeMethods_asides {between : List (List Char)} (asides : ∀ line ∈ between, Aside line) :
    nativeMethods pending (between ++ rest) = nativeMethods pending rest := by
  induction between with
  | nil => rfl
  | cons line between inductionHypothesis =>
      obtain ⟨here, later⟩ := List.forall_mem_cons.mp asides
      rw [List.cons_append, nativeMethods_other here.1 here.2, inductionHypothesis later]

theorem classNameLine?_nameless {before : List (List Char)}
    (nameless : ∀ line ∈ before, nameToken? line = none) :
    classNameLine? (before ++ rest) = classNameLine? rest := by
  induction before with
  | nil => rfl
  | cons line before inductionHypothesis =>
      obtain ⟨here, later⟩ := List.forall_mem_cons.mp nameless
      rw [List.cons_append, classNameLine?, here]
      exact inductionHypothesis later

end Steps

/-! ### The words of an outline -/

/-- The names of a method, as words of a line. -/
def MethodToken.Worded (method : MethodToken) : Prop :=
  Run isWordChar method.selector.toList ∧ ∀ owner ∈ method.owner, Run isWordChar owner.toList

/-- A native record's methods hold words, whatever word is pending before its lines. -/
theorem nativeMethods_worded {pending : Option String} {lines : List (List Char)}
    (pendingWord : ∀ selector ∈ pending, Run isWordChar selector.toList) :
    ∀ method ∈ nativeMethods pending lines, method.Worded := by
  -- Along the lines, the pending selector is either none or the token of a name line.
  induction lines generalizing pending with
  | nil =>
      intro method member
      exact nomatch member
  | cons line rest inductionHypothesis =>
      have afterImp : ∀ method ∈ nativeMethods none rest, method.Worded :=
        inductionHypothesis fun _ member => nomatch member
      intro method member
      cases named : nameToken? line with
      | some selector =>
          rw [nativeMethods_name named] at member
          refine inductionHypothesis ?_ method member
          intro other same
          rw [← Option.mem_some_iff.mp same]
          exact nameToken?_isWord named
      | none =>
          cases implemented : impLine? line with
          | none =>
              rw [nativeMethods_other named implemented] at member
              exact inductionHypothesis pendingWord method member
          | some imp =>
              cases imp with
              | symbol owner selector =>
                  have words := impLine?_symbol_isWord implemented
                  rw [nativeMethods_symbol named implemented] at member
                  rcases List.mem_cons.mp member with rfl | later
                  · refine ⟨words.2, ?_⟩
                    intro other same
                    rw [← Option.mem_some_iff.mp same]
                    exact words.1
                  · exact afterImp method later
              | stripped =>
                  rw [nativeMethods_stripped named implemented] at member
                  rcases List.mem_append.mp member with used | later
                  · rw [Option.mem_toList] at used
                    obtain ⟨selector, waiting, rfl⟩ := Option.map_eq_some_iff.mp used
                    exact ⟨pendingWord selector waiting, fun _ same => nomatch same⟩
                  · exact afterImp method later

theorem bridgedMethods_worded {lines : List (List Char)} :
    ∀ method ∈ bridgedMethods lines, method.Worded := by
  intro method member
  obtain ⟨selector, found, rfl⟩ := List.mem_map.mp member
  obtain ⟨line, _, named⟩ := List.mem_filterMap.mp found
  exact ⟨nameToken?_isWord named, fun _ same => nomatch same⟩

theorem classNameLine?_isWord {lines rest : List (List Char)} {className : String}
    (found : classNameLine? lines = some (className, rest)) : Run isWordChar className.toList := by
  induction lines with
  | nil => exact nomatch found
  | cons line later inductionHypothesis =>
      rw [classNameLine?] at found
      cases named : nameToken? line with
      | some name =>
          rw [named] at found
          obtain ⟨rfl, _⟩ := Prod.mk.inj (Option.some.inj found)
          exact nameToken?_isWord named
      | none =>
          rw [named] at found
          exact inductionHypothesis found

/-- The class token and the methods of an outline are words of the record's lines. -/
theorem outline?_worded {record : RawRecord} {outline : Outline}
    (found : record.outline? = some outline) :
    Run isWordChar outline.className.toList ∧ ∀ method ∈ outline.methods, method.Worded := by
  obtain ⟨⟨className, rest⟩, named, rfl⟩ := Option.map_eq_some_iff.mp found
  have isWord := classNameLine?_isWord named
  dsimp only
  cases record.flavor with
  | native => exact ⟨isWord, nativeMethods_worded fun _ same => nomatch same⟩
  | bridged => exact ⟨isWord, bridgedMethods_worded⟩

/-! ### What a record implements -/

/-- The record gives a class token a method with the selector. The teardown hook is not counted. -/
def RawRecord.Implements (record : RawRecord) (token selector : String) : Prop :=
  ∃ outline, record.outline? = some outline ∧ selector ≠ teardownSelector ∧
    ∃ method ∈ outline.methods, method.owner.getD outline.className = token ∧
      method.selector = selector

theorem RawRecord.Implements.isWord {record : RawRecord} {token selector : String}
    (implements : record.Implements token selector) :
    Run isWordChar token.toList ∧ Run isWordChar selector.toList := by
  obtain ⟨outline, found, _, method, member, rfl, rfl⟩ := implements
  obtain ⟨isClass, worded⟩ := outline?_worded found
  refine ⟨?_, (worded method member).1⟩
  cases owned : method.owner with
  | none => exact isClass
  | some owner => exact (worded method member).2 owner owned

/-- A parsed record's methods are what it implements, with the classes renamed. -/
theorem exists_mem_methods_iff {rename : String → String} {record : RawRecord} {method : Method} :
    (∃ parsed, record.parse? rename = some parsed ∧ method ∈ parsed.methods) ↔
      ∃ token selector, record.Implements token selector ∧
        method = Method.of (rename token) selector := by
  constructor
  · intro given
    obtain ⟨parsed, parsedFrom, member⟩ := given
    obtain ⟨outline, found, rfl⟩ := Option.map_eq_some_iff.mp parsedFrom
    obtain ⟨entry, kept, rfl⟩ := List.mem_map.mp member
    rw [List.mem_filter, decide_eq_true_iff] at kept
    exact ⟨_, _, ⟨outline, found, kept.2, entry, kept.1, rfl, rfl⟩, rfl⟩
  · intro implemented
    obtain ⟨token, selector, ⟨outline, found, counted, entry, member, rfl, rfl⟩, rfl⟩ := implemented
    refine ⟨outline.resolve rename, by rw [RawRecord.parse?, found, Option.map_some], ?_⟩
    refine List.mem_map.mpr ⟨entry, List.mem_filter.mpr ⟨member, ?_⟩, rfl⟩
    exact decide_eq_true counted

end Dump

/-! ### The index of a dump -/

open DeadSymbols.Dump

variable {rename : String → String} {dump selectorText : List Char} {selector signature : String}

/-- The dump has a record that gives the class token a method with the selector. -/
def Implemented (dump : List Char) (token selector : String) : Prop :=
  ∃ record ∈ rawRecords dump, record.Implements token selector

theorem Implemented.spaceless {token : String} (implemented : Implemented dump token selector) :
    Spaceless token ∧ Spaceless selector := by
  obtain ⟨record, _, implements⟩ := implemented
  exact ⟨spaceless_of_isWord implements.isWord.1, spaceless_of_isWord implements.isWord.2⟩

theorem holds_indexRecords {records : List RawRecord} :
    (indexRecords rename records).Holds selector signature ↔
      ∃ record ∈ records, ∃ token, record.Implements token selector ∧
        DeadSymbols.signature (rename token) selector = signature := by
  rw [indexRecords, Index.holds_ofClasses]
  constructor
  · intro stored
    obtain ⟨parsed, member, method, inMethods, rfl, rfl⟩ := stored
    obtain ⟨record, inRecords, parsedFrom⟩ := List.mem_filterMap.mp member
    obtain ⟨token, selector, implements, rfl⟩ :=
      exists_mem_methods_iff.mp ⟨parsed, parsedFrom, inMethods⟩
    exact ⟨record, inRecords, token, implements, rfl⟩
  · intro implemented
    obtain ⟨record, inRecords, token, implements, rfl⟩ := implemented
    obtain ⟨parsed, parsedFrom, inMethods⟩ :=
      exists_mem_methods_iff.mpr ⟨token, selector, implements, rfl⟩
    exact ⟨parsed, List.mem_filterMap.mpr ⟨record, inRecords, parsedFrom⟩, _, inMethods, rfl, rfl⟩

/-- The index of a dump holds the renamed signatures of what the dump implements, and no more. -/
theorem holds_index_extract :
    ((Metadata.extract dump selectorText).index rename).Holds selector signature ↔
      ∃ token, Implemented dump token selector ∧
        DeadSymbols.signature (rename token) selector = signature := by
  rw [Metadata.index, Index.holds_merge, holds_indexRecords, holds_indexRecords]
  -- Every record is native or bridged, so the two halves together are all records.
  constructor
  · intro stored
    rcases stored with ⟨record, member, token, implements, same⟩ |
      ⟨record, member, token, implements, same⟩
    · exact ⟨token, ⟨record, (List.mem_filter.mp member).1, implements⟩, same⟩
    · exact ⟨token, ⟨record, (List.mem_filter.mp member).1, implements⟩, same⟩
  · intro implemented
    obtain ⟨token, ⟨record, member, implements⟩, same⟩ := implemented
    cases flavor : record.flavor with
    | native =>
        refine Or.inl ⟨record, List.mem_filter.mpr ⟨member, ?_⟩, token, implements, same⟩
        exact decide_eq_true flavor
    | bridged =>
        refine Or.inr ⟨record, List.mem_filter.mpr ⟨member, ?_⟩, token, implements, same⟩
        exact decide_eq_true flavor

/-- No signature stands under two selectors. -/
theorem holds_index_extract_unique {otherSelector : String}
    (holds : ((Metadata.extract dump selectorText).index rename).Holds selector signature)
    (otherHolds : ((Metadata.extract dump selectorText).index rename).Holds otherSelector signature) :
    selector = otherSelector := by
  obtain ⟨token, implemented, rfl⟩ := holds_index_extract.mp holds
  obtain ⟨otherToken, otherImplemented, same⟩ := holds_index_extract.mp otherHolds
  exact (signature_inj implemented.spaceless.2 otherImplemented.spaceless.2 same.symm).2

end DeadSymbols
