import DeadSymbols.Proofs.Implements
import DeadSymbols.Proofs.Pool

/-!
Contract: what the entries of a dump's index look like, whatever the demangler answers.

A method of a record has a word of the record as its selector, and its class has a name: a token of
the record is a word, and a demangler can replace it by any text but the empty one. The teardown
hook is left out after parsing, wherever it came from. A signature therefore ends in its selector,
which holds no blank, so it tells under which selector it is stored.
-/

namespace DeadSymbols

open DeadSymbols.Dump
open DeadSymbols.Name
open DeadSymbols.Text

/-! ### Methods -/

/-- The selector is a word, and the signature that of a class with a name. -/
def Method.WellFormed (method : Method) : Prop :=
  Run isWordChar method.selector.toList ∧
    ∃ className, className ≠ "" ∧ method = Method.of className method.selector

/-- The index with the selectors as words that are never the teardown hook, each with at least one
signature, and with signatures that name a class and stand under one selector only. -/
structure Index.WellKeyed (index : Index) : Prop where
  nonempty : ∀ selector ∈ index.selectors, selector ≠ ""
  spaceless : ∀ selector ∈ index.selectors, Spaceless selector
  noTeardown : ∀ selector ∈ index.selectors, selector ≠ teardownSelector
  implemented : ∀ selector ∈ index.selectors, ∃ signatures,
    index.signatures? selector = some signatures ∧ ∃ signature, signature ∈ signatures
  signed : ∀ selector signature, index.Holds selector signature →
    ∃ className, className ≠ "" ∧ signature = DeadSymbols.signature className selector
  oneSelector : ∀ selector otherSelector signature, index.Holds selector signature →
    index.Holds otherSelector signature → selector = otherSelector

theorem ne_empty_of_isWord {name : String} (isWord : Run isWordChar name.toList) : name ≠ "" := by
  intro empty
  rw [empty] at isWord
  exact isWord.1 rfl

/-- An index without bare selectors is as its methods are. -/
theorem Index.wellKeyed_of_methods {index : Index} (noBare : index.NoBareSelector)
    (formed : ∀ selector signature, index.Holds selector signature →
      Method.WellFormed { selector, signature } ∧ selector ≠ teardownSelector) :
    index.WellKeyed := by
  have word : ∀ selector ∈ index.selectors, Run isWordChar selector.toList := by
    intro selector stored
    obtain ⟨signature, holds⟩ := noBare.mem_selectors.mp stored
    exact (formed selector signature holds).1.1
  have signed : ∀ selector signature, index.Holds selector signature →
      ∃ className, className ≠ "" ∧ signature = DeadSymbols.signature className selector := by
    intro selector signature holds
    obtain ⟨⟨_, className, named, same⟩, _⟩ := formed selector signature holds
    exact ⟨className, named, (Method.mk.inj same).2⟩
  refine
    { nonempty := fun selector stored => ne_empty_of_isWord (word selector stored)
      spaceless := fun selector stored => spaceless_of_isWord (word selector stored)
      noTeardown := ?_
      implemented := ?_
      signed := signed
      oneSelector := ?_ }
  · intro selector stored
    obtain ⟨signature, holds⟩ := noBare.mem_selectors.mp stored
    exact (formed selector signature holds).2
  · intro selector stored
    obtain ⟨signature, signatures, found, member⟩ := noBare.mem_selectors.mp stored
    exact ⟨signatures, found, signature, member⟩
  · intro selector otherSelector signature holds otherHolds
    obtain ⟨className, _, same⟩ := signed selector signature holds
    obtain ⟨otherClass, _, otherSame⟩ := signed otherSelector signature otherHolds
    have spaceless := spaceless_of_isWord (formed selector signature holds).1.1
    have otherSpaceless := spaceless_of_isWord (formed otherSelector signature otherHolds).1.1
    exact (signature_inj spaceless otherSpaceless (same.symm.trans otherSame)).2

/-! ### Classes under names that are not empty -/

/-- What every demangler keeps: a token that is not empty has a name that is not empty. -/
def NameKept (token name : String) : Prop := token ≠ "" → name ≠ ""

theorem allows_nameKept {σ : Type} (demangler : Demangler σ) : Allows demangler NameKept := by
  intro token state notEmpty
  show orRaw token (demangler token state).1 ≠ ""
  cases (demangler token state).1 with
  | none => exact notEmpty
  | some name =>
      unfold orRaw
      dsimp only
      split
      · exact notEmpty
      · rename_i hasName
        intro empty
        exact hasName (by rw [empty]; rfl)

theorem methodsNamed_wellFormed {className : String} {methods : List MethodToken}
    {names : List String} (hasName : className ≠ "") (namesKept : ∀ name ∈ names, name ≠ "")
    (worded : ∀ method ∈ methods, method.Worded) :
    ∀ method ∈ methodsNamed className methods names, method.WellFormed := by
  fun_induction methodsNamed className methods names with
  | case1 names =>
      intro method member
      exact absurd member List.not_mem_nil
  | case2 selector rest names inductionHypothesis =>
      obtain ⟨here, later⟩ := List.forall_mem_cons.mp worded
      exact List.forall_mem_cons.mpr
        ⟨⟨here.1, className, hasName, rfl⟩, inductionHypothesis namesKept later⟩
  | case3 token selector rest name names inductionHypothesis =>
      obtain ⟨here, later⟩ := List.forall_mem_cons.mp worded
      obtain ⟨nameKept, othersKept⟩ := List.forall_mem_cons.mp namesKept
      exact List.forall_mem_cons.mpr
        ⟨⟨here.1, name, nameKept, rfl⟩, inductionHypothesis othersKept later⟩
  | case4 token selector rest inductionHypothesis =>
      obtain ⟨here, later⟩ := List.forall_mem_cons.mp worded
      have tokenWord := here.2 token rfl
      exact List.forall_mem_cons.mpr
        ⟨⟨here.1, token, ne_empty_of_isWord tokenWord, rfl⟩, inductionHypothesis namesKept later⟩

/-- The class tokens of an outline are words. -/
theorem classTokens_isWord {record : RawRecord} {outline : Outline}
    (found : record.outline? = some outline) :
    ∀ token ∈ outline.classTokens, Run isWordChar token.toList := by
  obtain ⟨isClass, worded⟩ := outline?_worded found
  refine List.forall_mem_cons.mpr ⟨isClass, ?_⟩
  intro owner member
  obtain ⟨method, inMethods, owned⟩ := List.mem_filterMap.mp member
  exact (worded method inMethods).2 owner owned

/-- Names that keep what their tokens have are not empty where the tokens are words. -/
theorem names_ne_empty {tokens names : List String} (given : List.Forall₂ NameKept tokens names)
    (words : ∀ token ∈ tokens, Run isWordChar token.toList) : ∀ name ∈ names, name ≠ "" := by
  induction given with
  | nil => exact fun name member => absurd member List.not_mem_nil
  | cons kept _ inductionHypothesis =>
      obtain ⟨here, later⟩ := List.forall_mem_cons.mp words
      exact List.forall_mem_cons.mpr ⟨kept (ne_empty_of_isWord here), inductionHypothesis later⟩

theorem namedBy_wellFormed {record : RawRecord} {outline : Outline} {parsed : ClassRecord}
    (found : record.outline? = some outline) (named : outline.NamedBy NameKept parsed) :
    ∀ method ∈ parsed.methods, method.WellFormed ∧ method.selector ≠ teardownSelector := by
  obtain ⟨names, given, rfl⟩ := named
  have kept := names_ne_empty given (classTokens_isWord found)
  obtain ⟨isClass, worded⟩ := outline?_worded found
  intro method member
  obtain ⟨inMethods, counted⟩ := List.mem_filter.mp member
  refine ⟨methodsNamed_wellFormed ?_ ?_ worded method inMethods, of_decide_eq_true counted⟩
  · -- The first name is that of the class itself.
    cases names with
    | nil => exact ne_empty_of_isWord isClass
    | cons className owners => exact kept className List.mem_cons_self
  · exact fun name inTail => kept name (List.mem_of_mem_tail inTail)

/-- The methods of all classes that records are parsed to, under any names that are not empty. -/
theorem methods_wellFormed {records : List RawRecord} {classes : List ClassRecord}
    (named : List.Forall₂ (Outline.NamedBy NameKept) (records.filterMap RawRecord.outline?) classes) :
    ∀ parsed ∈ classes, ∀ method ∈ parsed.methods,
      method.WellFormed ∧ method.selector ≠ teardownSelector := by
  have outlines : ∀ outline ∈ records.filterMap RawRecord.outline?,
      ∃ record : RawRecord, record.outline? = some outline := by
    intro outline member
    obtain ⟨record, _, found⟩ := List.mem_filterMap.mp member
    exact ⟨record, found⟩
  generalize records.filterMap RawRecord.outline? = listed at named outlines
  induction named with
  | nil => exact fun parsed member => absurd member List.not_mem_nil
  | cons head _ inductionHypothesis =>
      obtain ⟨⟨record, found⟩, later⟩ := List.forall_mem_cons.mp outlines
      exact List.forall_mem_cons.mpr ⟨namedBy_wellFormed found head, inductionHypothesis later⟩

/-! ### The index of a dump -/

/-- Two lists of classes, merged after indexing, as both ways of indexing a dump end. -/
theorem wellKeyed_merge {native bridged : List RawRecord} {nativeClasses bridgedClasses : List ClassRecord}
    (nativeNamed : List.Forall₂ (Outline.NamedBy NameKept) (native.filterMap RawRecord.outline?)
      nativeClasses)
    (bridgedNamed : List.Forall₂ (Outline.NamedBy NameKept) (bridged.filterMap RawRecord.outline?)
      bridgedClasses) :
    ((Index.ofClasses nativeClasses).merge (Index.ofClasses bridgedClasses)).WellKeyed := by
  apply Index.wellKeyed_of_methods
  · exact (Index.noBareSelector_ofClasses _).merge (Index.noBareSelector_ofClasses _)
  · intro selector signature holds
    rw [Index.holds_merge, Index.holds_ofClasses, Index.holds_ofClasses] at holds
    rcases holds with ⟨parsed, inClasses, method, inMethods, rfl, rfl⟩ |
      ⟨parsed, inClasses, method, inMethods, rfl, rfl⟩
    · exact methods_wellFormed nativeNamed parsed inClasses method inMethods
    · exact methods_wellFormed bridgedNamed parsed inClasses method inMethods

/-- The index of a dump is well keyed, for every demangler in every state: one that answers
differently at each call, and whether its records are parsed in turn or on a pool. -/
theorem dumpIndex_wellKeyed {σ : Type} (demangler : Demangler σ) (dump : List Char) (state : σ) :
    (dumpIndexWith demangler dump state).1.WellKeyed ∧
      ∀ nativeSchedule bridgedSchedule,
        (dumpIndexPooled demangler nativeSchedule bridgedSchedule dump state).1.WellKeyed := by
  have allows := allows_nameKept demangler
  constructor
  · exact wellKeyed_merge (allows.parseRecordsWith _ state) (allows.parseRecordsWith _ _)
  · intro nativeSchedule bridgedSchedule
    have split : (dumpIndexPooled demangler nativeSchedule bridgedSchedule dump state).1 =
        (indexRecordsPooled demangler nativeSchedule (Metadata.extract dump []).native state).1.merge
          (indexRecordsPooled demangler bridgedSchedule (Metadata.extract dump []).bridged
            (indexRecordsPooled demangler nativeSchedule (Metadata.extract dump []).native state).2).1 :=
      rfl
    obtain ⟨nativeClasses, nativeIndexed, nativeNamed⟩ :=
      allows.indexRecordsPooled nativeSchedule (Metadata.extract dump []).native state
    obtain ⟨bridgedClasses, bridgedIndexed, bridgedNamed⟩ :=
      allows.indexRecordsPooled bridgedSchedule (Metadata.extract dump []).bridged _
    rw [split, nativeIndexed, bridgedIndexed]
    exact wellKeyed_merge nativeNamed bridgedNamed

end DeadSymbols
