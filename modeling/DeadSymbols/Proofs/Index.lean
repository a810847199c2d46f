import DeadSymbols.Index
import DeadSymbols.Proofs.Ordered

/-!
Contract: an index is a set of pairs of a selector and a signature.

`Index.Holds` is the view: the pairs that an index stores. Every operation of the index is one
law about them: insertion adds a pair, folding in classes adds the pairs of their methods, and
merging is union. Nothing about the list of entries is needed once these laws are known: an index
in which every stored selector has a signature is determined by its pairs, and every index that is
built from classes and by merging is such a one.

Owns: the view `Holds` with one law per operation, `NoBareSelector`, extensionality.
-/

namespace DeadSymbols.Index

variable {index left right : Index} {selector signature : String}

/-- The index stores the signature under the selector. -/
def Holds (index : Index) (selector signature : String) : Prop :=
  ∃ signatures, index.signatures? selector = some signatures ∧ signature ∈ signatures

theorem holds_iff_mem_entries :
    index.Holds selector signature ↔
      ∃ signatures, (selector, signatures) ∈ index.entries.entries ∧ signature ∈ signatures := by
  simp only [Holds, signatures?, NameMap.mem_entries_iff]

theorem not_holds_empty : ¬ (empty : Index).Holds selector signature := by
  intro stored
  obtain ⟨signatures, found, _⟩ := stored
  exact Option.some_ne_none signatures (found.symm.trans NameMap.get?_empty)

/-- The one law behind insertion and merging: adding signatures under a selector adds exactly
these pairs. -/
theorem holds_modify {name : String} {added : NameSet → NameSet} {new : String → Prop}
    (adds : ∀ stored other, other ∈ added stored ↔ new other ∨ other ∈ stored) :
    Holds ⟨index.entries.modify name ∅ added⟩ selector signature ↔
      (selector = name ∧ new signature) ∨ index.Holds selector signature := by
  by_cases same : selector = name
  · subst same
    simp only [Holds, signatures?, NameMap.get?_modify_same, Option.some.injEq, exists_eq_left',
      adds, true_and]
    cases stored : index.entries.get? selector with
    | none => simp
    | some signatures => simp
  · simp only [Holds, signatures?, NameMap.get?_modify_other same, same, false_and, false_or]

theorem holds_insert {newSelector newSignature : String} :
    (index.insert newSelector newSignature).Holds selector signature ↔
      (selector = newSelector ∧ signature = newSignature) ∨ index.Holds selector signature :=
  holds_modify fun _ _ => NameSet.mem_insert

theorem holds_insertClass {record : ClassRecord} :
    (index.insertClass record).Holds selector signature ↔
      (∃ method ∈ record.methods, method.selector = selector ∧ method.signature = signature) ∨
        index.Holds selector signature := by
  obtain ⟨className, methods⟩ := record
  unfold insertClass
  induction methods generalizing index with
  | nil => simp
  | cons method rest inductionHypothesis =>
      rw [List.foldl_cons, inductionHypothesis, holds_insert]
      simp only [List.exists_mem_cons_iff, or_assoc, or_left_comm, eq_comm]

theorem holds_foldl_insertClass {records : List ClassRecord} :
    (records.foldl insertClass index).Holds selector signature ↔
      (∃ record ∈ records, ∃ method ∈ record.methods,
        method.selector = selector ∧ method.signature = signature) ∨
        index.Holds selector signature := by
  induction records generalizing index with
  | nil => simp
  | cons record rest inductionHypothesis =>
      rw [List.foldl_cons, inductionHypothesis, holds_insertClass]
      simp only [List.exists_mem_cons_iff, or_assoc, or_left_comm]

/-- The pairs of an index of classes are those of the classes' methods. -/
theorem holds_ofClasses {records : List ClassRecord} :
    (ofClasses records).Holds selector signature ↔
      ∃ record ∈ records, ∃ method ∈ record.methods,
        method.selector = selector ∧ method.signature = signature := by
  rw [ofClasses, holds_foldl_insertClass]
  exact or_iff_left not_holds_empty

/-- Folding entries into an index adds the pairs of the entries. -/
theorem holds_foldl_modify {entries : List (String × NameSet)} :
    (entries.foldl (fun index entry => ⟨index.entries.modify entry.1 ∅ (·.union entry.2)⟩)
        index).Holds selector signature ↔
      (∃ signatures, (selector, signatures) ∈ entries ∧ signature ∈ signatures) ∨
        index.Holds selector signature := by
  induction entries generalizing index with
  | nil => simp
  | cons entry rest inductionHypothesis =>
      obtain ⟨name, stored⟩ := entry
      have adds (signatures : NameSet) (other : String) :
          other ∈ signatures.union stored ↔ other ∈ stored ∨ other ∈ signatures := by
        rw [NameSet.mem_union, or_comm]
      rw [List.foldl_cons, inductionHypothesis, holds_modify adds]
      simp only [List.mem_cons, Prod.mk.injEq, or_and_right, exists_or, and_assoc]
      rw [or_left_comm, ← or_assoc]
      simp only [exists_and_left, exists_eq_left]

/-- Merging is the union of the pairs. -/
theorem holds_merge :
    (left.merge right).Holds selector signature ↔
      left.Holds selector signature ∨ right.Holds selector signature := by
  rw [merge, holds_foldl_modify, ← holds_iff_mem_entries, or_comm]

/-! ### Indexes as sets of pairs -/

/-- No selector is stored without a signature. -/
def NoBareSelector (index : Index) : Prop :=
  ∀ selector signatures, index.signatures? selector = some signatures →
    ∃ signature, signature ∈ signatures

theorem noBareSelector_empty : (empty : Index).NoBareSelector := by
  intro selector signatures found
  exact absurd found.symm (Option.some_ne_none signatures)

/-- Adding at least one signature under a selector leaves no selector bare. -/
theorem NoBareSelector.modify {name : String} {added : NameSet → NameSet}
    (noBare : index.NoBareSelector) (adds : ∀ stored, ∃ signature, signature ∈ added stored) :
    NoBareSelector ⟨index.entries.modify name ∅ added⟩ := by
  intro selector signatures found
  by_cases same : selector = name
  · subst same
    rw [signatures?, NameMap.get?_modify_same] at found
    rw [← Option.some.inj found]
    exact adds _
  · rw [signatures?, NameMap.get?_modify_other same] at found
    exact noBare selector signatures found

theorem NoBareSelector.foldl_insert {methods : List Method} (noBare : index.NoBareSelector) :
    (methods.foldl (fun index method => index.insert method.selector method.signature)
      index).NoBareSelector := by
  induction methods generalizing index with
  | nil => exact noBare
  | cons method rest inductionHypothesis =>
      apply inductionHypothesis
      exact noBare.modify fun stored => ⟨method.signature, NameSet.mem_insert.mpr (Or.inl rfl)⟩

theorem NoBareSelector.foldl_insertClass {records : List ClassRecord}
    (noBare : index.NoBareSelector) : (records.foldl insertClass index).NoBareSelector := by
  induction records generalizing index with
  | nil => exact noBare
  | cons record rest inductionHypothesis => exact inductionHypothesis noBare.foldl_insert

theorem noBareSelector_ofClasses (records : List ClassRecord) :
    (ofClasses records).NoBareSelector :=
  noBareSelector_empty.foldl_insertClass

theorem NoBareSelector.foldl_modify {entries : List (String × NameSet)}
    (noBare : index.NoBareSelector) (filled : ∀ entry ∈ entries, ∃ signature, signature ∈ entry.2) :
    (entries.foldl (fun index entry => ⟨index.entries.modify entry.1 ∅ (·.union entry.2)⟩)
      index).NoBareSelector := by
  induction entries generalizing index with
  | nil => exact noBare
  | cons entry rest inductionHypothesis =>
      obtain ⟨⟨signature, member⟩, later⟩ := List.forall_mem_cons.mp filled
      apply inductionHypothesis _ later
      exact noBare.modify fun stored => ⟨signature, NameSet.mem_union.mpr (Or.inr member)⟩

theorem NoBareSelector.merge (leftNoBare : left.NoBareSelector) (rightNoBare : right.NoBareSelector) :
    (left.merge right).NoBareSelector := by
  apply leftNoBare.foldl_modify
  intro entry member
  exact rightNoBare entry.1 entry.2 (NameMap.mem_entries_iff.mp member)

/-- Without bare selectors the pairs determine what a look-up finds. -/
theorem NoBareSelector.signatures?_eq_none_iff (noBare : index.NoBareSelector) :
    index.signatures? selector = none ↔ ∀ signature, ¬ index.Holds selector signature := by
  constructor
  · intro missing signature stored
    obtain ⟨signatures, found, _⟩ := stored
    exact Option.some_ne_none signatures (found.symm.trans missing)
  · intro holdsNothing
    cases found : index.signatures? selector with
    | none => rfl
    | some signatures =>
        obtain ⟨signature, member⟩ := noBare selector signatures found
        exact absurd ⟨signatures, found, member⟩ (holdsNothing signature)

/-- Without bare selectors, a selector is stored exactly when a signature is stored under it. -/
theorem NoBareSelector.mem_selectors (noBare : index.NoBareSelector) :
    selector ∈ index.selectors ↔ ∃ signature, index.Holds selector signature := by
  constructor
  · intro stored
    obtain ⟨⟨key, signatures⟩, member, rfl⟩ := List.mem_map.mp stored
    have found : index.signatures? key = some signatures := NameMap.mem_entries_iff.mp member
    obtain ⟨signature, inSignatures⟩ := noBare key signatures found
    exact ⟨signature, signatures, found, inSignatures⟩
  · intro implemented
    obtain ⟨signature, holds⟩ := implemented
    obtain ⟨signatures, member, _⟩ := holds_iff_mem_entries.mp holds
    exact List.mem_map.mpr ⟨_, member, rfl⟩

theorem mem_iff_holds {signatures : NameSet} (found : index.signatures? selector = some signatures) :
    signature ∈ signatures ↔ index.Holds selector signature := by
  simp [Holds, found]

/-- Two indexes without bare selectors that store the same pairs are equal. -/
theorem ext (leftNoBare : left.NoBareSelector) (rightNoBare : right.NoBareSelector)
    (same : ∀ selector signature, left.Holds selector signature ↔ right.Holds selector signature) :
    left = right := by
  have lookUps : ∀ selector, left.signatures? selector = right.signatures? selector := by
    intro selector
    cases leftFound : left.signatures? selector with
    | none =>
        have rightMissing : right.signatures? selector = none := by
          rw [rightNoBare.signatures?_eq_none_iff]
          intro signature
          rw [← same]
          exact leftNoBare.signatures?_eq_none_iff.mp leftFound signature
        rw [rightMissing]
    | some signatures =>
        obtain ⟨signature, member⟩ := leftNoBare selector signatures leftFound
        obtain ⟨others, rightFound, _⟩ := (same selector signature).mp ⟨signatures, leftFound, member⟩
        have equal : signatures = others := by
          apply NameSet.ext
          intro other
          rw [mem_iff_holds leftFound, mem_iff_holds rightFound, same]
        rw [rightFound, equal]
  have maps : left.entries = right.entries := NameMap.ext lookUps
  cases left
  cases right
  cases maps
  rfl

end DeadSymbols.Index
