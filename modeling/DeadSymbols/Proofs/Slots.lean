import DeadSymbols.Proofs.ByteOrder
import DeadSymbols.Proofs.Index
import DeadSymbols.Slots
import Mathlib.Data.Set.Card

/-!
Contract: an index in a slot is the set of the pairs that were contributed to it.

The sets are run beside the slots, step by step: a cleared slot has no pair, a rebuilt one has the
pairs of its classes' methods, insertions add pairs, and a merge is the union with the set of the
other slot. `Represents` ties an index to its set. It holds of empty slots and every change keeps
it, so it holds after every run. All that an index answers then follows from its set, and two
indexes are equal exactly when their sets are.

Owns: `Represents`, `Answers`, the sets that a run contributes.
-/

namespace DeadSymbols

open DeadSymbols.Text

abbrev PairSet : Type := Set (String × String)

def methodPairs (methods : List Method) : PairSet :=
  {pair | ∃ method ∈ methods, (method.selector, method.signature) = pair}

namespace Index

variable {index left right : Index} {pairs leftPairs rightPairs : PairSet} {selector : String}

/-- The index stores exactly the pairs of the set, and no selector without a pair. -/
structure Represents (index : Index) (pairs : PairSet) : Prop where
  noBare : index.NoBareSelector
  holds_iff : ∀ selector signature, index.Holds selector signature ↔ (selector, signature) ∈ pairs

/-! ### Operations -/

theorem represents_empty : (∅ : Index).Represents ∅ :=
  ⟨noBareSelector_empty, fun _ _ => iff_of_false not_holds_empty (Set.notMem_empty _)⟩

theorem represents_ofClasses (records : List ClassRecord) :
    (ofClasses records).Represents (methodPairs (records.flatMap ClassRecord.methods)) := by
  refine ⟨noBareSelector_ofClasses records, ?_⟩
  intro selector signature
  rw [holds_ofClasses]
  simp only [methodPairs, List.mem_flatMap, Set.mem_ofPred_eq, Prod.mk.injEq]
  grind

theorem Represents.insert (represents : index.Represents pairs) (selector signature : String) :
    (index.insert selector signature).Represents (pairs ∪ {(selector, signature)}) := by
  constructor
  · apply represents.noBare.modify
    intro stored
    exact ⟨signature, NameSet.mem_insert.mpr (Or.inl rfl)⟩
  · intro otherSelector otherSignature
    rw [holds_insert, represents.holds_iff, or_comm, Set.mem_union, Set.mem_singleton_iff,
      Prod.mk.injEq]

theorem Represents.insertClass (represents : index.Represents pairs) (record : ClassRecord) :
    (index.insertClass record).Represents (pairs ∪ methodPairs record.methods) := by
  refine ⟨represents.noBare.foldl_insert, ?_⟩
  intro selector signature
  rw [holds_insertClass, represents.holds_iff, or_comm, Set.mem_union]
  simp only [methodPairs, Set.mem_ofPred_eq, Prod.mk.injEq]

theorem Represents.merge (leftRepresents : left.Represents leftPairs)
    (rightRepresents : right.Represents rightPairs) :
    (left.merge right).Represents (leftPairs ∪ rightPairs) := by
  refine ⟨leftRepresents.noBare.merge rightRepresents.noBare, ?_⟩
  intro selector signature
  rw [holds_merge, leftRepresents.holds_iff, rightRepresents.holds_iff, Set.mem_union]

/-! ### Answers -/

/-- Everything that an index answers, read off a set of pairs. -/
structure Answers (index : Index) (pairs : PairSet) : Prop where
  signatures : ∀ selector, (∃ signature, (selector, signature) ∈ pairs) →
    ∃ signatures, index.signatures? selector = some signatures ∧
      ∀ signature, signature ∈ signatures ↔ (selector, signature) ∈ pairs
  noSignatures : ∀ selector, (¬ ∃ signature, (selector, signature) ∈ pairs) →
    index.signatures? selector = none
  contains : ∀ selector,
    index.contains selector = true ↔ ∃ signature, (selector, signature) ∈ pairs
  ascending : index.selectors.toList.Pairwise ByteBelow
  selectors : ∀ selector,
    selector ∈ index.selectors.toList ↔ ∃ signature, (selector, signature) ∈ pairs
  size : index.size = (Prod.fst '' pairs).ncard
  isEmpty : index.isEmpty = true ↔ pairs = ∅

theorem Represents.mem_selectors (represents : index.Represents pairs) :
    selector ∈ index.selectors ↔ ∃ signature, (selector, signature) ∈ pairs := by
  rw [represents.noBare.mem_selectors]
  simp only [represents.holds_iff]

theorem Represents.contains_iff (represents : index.Represents pairs) :
    index.contains selector = true ↔ ∃ signature, (selector, signature) ∈ pairs := by
  rw [← represents.mem_selectors, contains, Option.isSome_iff_exists]
  exact NameMap.mem_keys.symm

theorem Represents.size_eq (represents : index.Represents pairs) :
    index.size = (Prod.fst '' pairs).ncard := by
  have sameMembers : Prod.fst '' pairs = ↑index.selectors.toList.toFinset := by
    ext selector
    rw [Finset.mem_coe, List.mem_toFinset, NameSet.mem_toList, represents.mem_selectors]
    simp
  rw [sameMembers, Set.ncard_coe_finset]
  exact NameMap.size_eq_card fun selector => List.mem_toFinset.symm

theorem Represents.isEmpty_iff (represents : index.Represents pairs) :
    index.isEmpty = true ↔ pairs = ∅ := by
  have listed : index.isEmpty = true ↔ ∀ selector, selector ∉ index.selectors := by
    rw [Index.isEmpty, NameMap.isEmpty, List.isEmpty_iff, ← List.map_eq_nil_iff (f := Prod.fst),
      List.eq_nil_iff_forall_not_mem]
    rfl
  rw [listed, Set.eq_empty_iff_forall_notMem]
  simp only [represents.mem_selectors, not_exists, Prod.forall]

theorem Represents.answers (represents : index.Represents pairs) : index.Answers pairs where
  signatures := by
    intro selector implemented
    obtain ⟨signature, paired⟩ := implemented
    obtain ⟨signatures, found, _⟩ := (represents.holds_iff selector signature).mpr paired
    refine ⟨signatures, found, ?_⟩
    intro other
    rw [mem_iff_holds found, represents.holds_iff]
  noSignatures := by
    intro selector notImplemented
    rw [represents.noBare.signatures?_eq_none_iff]
    intro signature holds
    exact notImplemented ⟨signature, (represents.holds_iff selector signature).mp holds⟩
  contains := fun _ => represents.contains_iff
  ascending := index.selectors.ascending.imp byteBelow_iff_lt.mpr
  selectors := fun _ => represents.mem_selectors
  size := represents.size_eq
  isEmpty := represents.isEmpty_iff

theorem Represents.eq_iff (leftRepresents : left.Represents leftPairs)
    (rightRepresents : right.Represents rightPairs) : left = right ↔ leftPairs = rightPairs := by
  constructor
  · rintro rfl
    ext ⟨selector, signature⟩
    rw [← leftRepresents.holds_iff, ← rightRepresents.holds_iff]
  · rintro rfl
    apply Index.ext leftRepresents.noBare rightRepresents.noBare
    intro selector signature
    rw [leftRepresents.holds_iff, rightRepresents.holds_iff]

end Index

namespace Slots

variable {slots : Slots} {pairs : String → PairSet} {slot : String}

/-! ### One step -/

theorem index_step_same (step : Step) :
    (slots.step step).index step.slot = slots.changed step.slot step.change := by
  rw [index, Slots.step, NameMap.get?_set_same, Option.getD_some]

/-- A step leaves all slots but its own as they are, the source of a merge too. -/
theorem index_step_other {step : Step} (different : slot ≠ step.slot) :
    (slots.step step).index slot = slots.index slot := by
  rw [index, Slots.step, NameMap.get?_set_other different, index]

/-- The set that a change makes of the one in a slot. -/
def contributed (pairs : String → PairSet) (slot : String) : Change → PairSet
  | .clear => ∅
  | .rebuild records => methodPairs (records.flatMap ClassRecord.methods)
  | .insert selector signature => pairs slot ∪ {(selector, signature)}
  | .insertClass record => pairs slot ∪ methodPairs record.methods
  | .merge source => pairs slot ∪ pairs source

def stepPairs (pairs : String → PairSet) (step : Step) : String → PairSet :=
  Function.update pairs step.slot (contributed pairs step.slot step.change)

def runPairs (steps : List Step) : String → PairSet :=
  steps.foldl stepPairs fun _ => ∅

def Represent (slots : Slots) (pairs : String → PairSet) : Prop :=
  ∀ slot, (slots.index slot).Represents (pairs slot)

theorem Represent.changed (represent : slots.Represent pairs) (slot : String) (change : Change) :
    (slots.changed slot change).Represents (contributed pairs slot change) := by
  cases change with
  | clear => exact Index.represents_empty
  | rebuild records => exact Index.represents_ofClasses records
  | insert selector signature => exact (represent slot).insert selector signature
  | insertClass record => exact (represent slot).insertClass record
  | merge source => exact (represent slot).merge (represent source)

theorem Represent.step (represent : slots.Represent pairs) (step : Step) :
    (slots.step step).Represent (stepPairs pairs step) := by
  intro slot
  by_cases same : slot = step.slot
  · subst same
    rw [index_step_same, stepPairs, Function.update_self]
    exact represent.changed step.slot step.change
  · rw [index_step_other same, stepPairs, Function.update_of_ne same]
    exact represent slot

/-! ### Runs -/

theorem Represent.run (represent : slots.Represent pairs) (steps : List Step) :
    (slots.run steps).Represent (steps.foldl stepPairs pairs) := by
  induction steps generalizing slots pairs with
  | nil => exact represent
  | cons step later inductionHypothesis => exact inductionHypothesis (represent.step step)

theorem represent_runPairs (steps : List Step) : (empty.run steps).Represent (runPairs steps) := by
  have start : empty.Represent fun _ => ∅ := fun _ => Index.represents_empty
  exact start.run steps

/-- After every run of steps on empty slots, each slot answers as the set of the pairs contributed
to it, two slots hold equal indexes exactly when their sets are equal, and one more step leaves all
slots but its own as they are. -/
theorem run_refines_pairs (steps : List Step) :
    let slots := empty.run steps
    (∀ slot, (slots.index slot).Answers (runPairs steps slot)) ∧
      (∀ slot other, slots.index slot = slots.index other ↔ runPairs steps slot = runPairs steps other) ∧
      ∀ step slot, slot ≠ step.slot → (empty.run (steps ++ [step])).index slot = slots.index slot := by
  have represent := represent_runPairs steps
  refine ⟨fun slot => (represent slot).answers, ?_, ?_⟩
  · intro slot other
    exact (represent slot).eq_iff (represent other)
  · intro step slot different
    rw [run, List.foldl_append]
    exact index_step_other different

/-- A slot that is merged with another and then with itself ends up equal to the other, which a
later step on the first one leaves alone. -/
theorem run_refines_pairs_merged :
    let steps : List Step :=
      [⟨"a", .insert "run" "[A run]"⟩,
       ⟨"b", .rebuild [⟨"B", [Method.of "B" "run", Method.of "A" "run"]⟩]⟩,
       ⟨"a", .merge "b"⟩, ⟨"a", .merge "a"⟩]
    let slots := empty.run steps
    slots.index "a" = slots.index "b" ∧ (slots.index "a").contains "run" = true ∧ "b" ≠ "a" ∧
      (empty.run (steps ++ [⟨"a", .clear⟩])).index "b" = slots.index "b" := by
  intro steps slots
  obtain ⟨answers, equal, unchanged⟩ := run_refines_pairs steps
  have different : "b" ≠ "a" := by decide
  have merged : runPairs steps "a" =
      {("run", "[A run]")} ∪ runPairs steps "b" := by
    simp [steps, runPairs, stepPairs, contributed, Function.update]
  have rebuilt : ("run", "[A run]") ∈ runPairs steps "b" := by
    refine ⟨Method.of "A" "run", ?_, by decide⟩
    decide
  have same : runPairs steps "a" = runPairs steps "b" := by
    rw [merged]
    exact Set.union_eq_self_of_subset_left (Set.singleton_subset_iff.mpr rebuilt)
  refine ⟨(equal "a" "b").mpr same, ?_, different, unchanged ⟨"a", .clear⟩ "b" different⟩
  exact ((answers "a").contains "run").mpr ⟨"[A run]", same ▸ rebuilt⟩

end Slots

end DeadSymbols
