import DeadSymbols.Proofs.Implements
import DeadSymbols.Proofs.Pool

/-!
Contract: the index of records does not depend on their order, on how they are grouped, or on who
parses them.

An index of records is determined by the set of the records: it stores what they implement, and
nothing else. Merging the indexes of two lists gives the index of both together. So every way of
cutting records into groups, and of merging the groups' indexes again, ends in the same index. The
index of a dump is one such way, with a group for each flavor, and a pool is another.

Owns: `Grouping`, and the laws of `indexRecords` under permutation, concatenation and merging.
-/

namespace DeadSymbols

open DeadSymbols.Dump
open DeadSymbols.Name

variable {rename : String → String}

/-! ### Sets of records -/

/-- Lists with the same records have the same index. -/
theorem indexRecords_eq_of_mem_iff {records other : List RawRecord}
    (same : ∀ record, record ∈ records ↔ record ∈ other) :
    indexRecords rename records = indexRecords rename other := by
  apply Index.ext (Index.noBareSelector_ofClasses _) (Index.noBareSelector_ofClasses _)
  intro selector signature
  rw [← indexRecords, ← indexRecords, holds_indexRecords, holds_indexRecords]
  simp only [same]

theorem indexRecords_perm {records other : List RawRecord} (permuted : records.Perm other) :
    indexRecords rename records = indexRecords rename other :=
  indexRecords_eq_of_mem_iff fun _ => permuted.mem_iff

/-- Merging the indexes of two lists is indexing both lists. -/
theorem merge_indexRecords (left right : List RawRecord) :
    (indexRecords rename left).merge (indexRecords rename right) =
      indexRecords rename (left ++ right) := by
  have leftNoBare : (indexRecords rename left).NoBareSelector := Index.noBareSelector_ofClasses _
  have rightNoBare : (indexRecords rename right).NoBareSelector := Index.noBareSelector_ofClasses _
  apply Index.ext (leftNoBare.merge rightNoBare) (Index.noBareSelector_ofClasses _)
  intro selector signature
  rw [← indexRecords, Index.holds_merge, holds_indexRecords, holds_indexRecords,
    holds_indexRecords]
  simp only [List.mem_append, or_and_right, exists_or]

/-- The index of a dump, whose flavors are indexed apart, is the index of its records in order. -/
theorem index_extract (dump selectorText : List Char) :
    (Metadata.extract dump selectorText).index rename = indexRecords rename (rawRecords dump) := by
  rw [Metadata.index, merge_indexRecords]
  apply indexRecords_eq_of_mem_iff
  intro record
  simp only [Metadata.extract, List.mem_append, List.mem_filter, decide_eq_true_eq, ← and_or_left]
  apply and_iff_left
  cases record.flavor with
  | native => exact Or.inl rfl
  | bridged => exact Or.inr rfl

/-! ### Groups of records -/

/-- A way of cutting records into groups, and of merging the groups again. -/
inductive Grouping where
  | group (records : List RawRecord)
  | merge (left right : Grouping)

namespace Grouping

/-- The records of all groups together. -/
def records : Grouping → List RawRecord
  | .group records => records
  | .merge left right => left.records ++ right.records

/-- The groups' indexes, merged. -/
def merged (indexOf : List RawRecord → Index) : Grouping → Index
  | .group records => indexOf records
  | .merge left right => (left.merged indexOf).merge (right.merged indexOf)

theorem merged_indexRecords (grouping : Grouping) :
    grouping.merged (indexRecords rename) = indexRecords rename grouping.records := by
  induction grouping with
  | group records => rfl
  | merge left right leftHypothesis rightHypothesis =>
      rw [merged, leftHypothesis, rightHypothesis, merge_indexRecords, records]

end Grouping

/-! ### Indexes with a demangler -/

variable {σ : Type} {demangler : Demangler σ}

/-- Indexing is independent of order and grouping. With a demangler that answers by name, a
permutation of the records has the same index, and so have all groupings of them, however the
groups' indexes are merged; in whatever state the demangler is for each of them. In particular the
index of a dump is the index of its records in order, and records that are parsed on a pool have
the index of records that are parsed in turn, under every schedule. -/
theorem indexRecordsWith_order_free {answer : String → Option String}
    (answers : AnswersBy demangler answer) (records : List RawRecord) (state : σ) :
    let index := (indexRecordsWith demangler records state).1
    (∀ other, other.Perm records → ∀ otherState,
        (indexRecordsWith demangler other otherState).1 = index) ∧
      (∀ grouping : Grouping, grouping.records.Perm records → ∀ stateOf : List RawRecord → σ,
        grouping.merged (fun group => (indexRecordsWith demangler group (stateOf group)).1) =
          index) ∧
      (∀ schedule otherState,
        (indexRecordsPooled demangler schedule records otherState).1 = index) ∧
      ∀ dump, rawRecords dump = records → ∀ otherState,
        (dumpIndexWith demangler dump otherState).1 = index ∧
          ∀ nativeSchedule bridgedSchedule,
            (dumpIndexPooled demangler nativeSchedule bridgedSchedule dump otherState).1 = index := by
  dsimp only
  simp only [answers.indexRecordsWith, answers.indexRecordsPooled]
  refine ⟨?_, ?_, fun _ _ => trivial, ?_⟩
  · intro other permuted _
    exact indexRecords_perm permuted
  · intro grouping permuted _
    exact grouping.merged_indexRecords.trans (indexRecords_perm permuted)
  · intro dump cut otherState
    rw [← cut, ← index_extract dump []]
    exact ⟨answers.indexWith _ otherState, fun _ _ => answers.indexPooled _ _ _ otherState⟩

/-- A native and a bridged record that share a selector, one of them renamed: swapped, merged with
the second group first, and parsed on a pool that starts with the second task. -/
theorem indexRecordsWith_order_free_shared :
    let names : NameMap String := NameMap.empty.set "Panel" "My Panel"
    let native : RawRecord := ⟨.native, " name 0x1 Runner\n imp 0x2 -[Runner run]\n".toList⟩
    let bridged : RawRecord := ⟨.bridged, " name 0x3 Panel\n name 0x4 run\n".toList⟩
    let index := (indexRecordsWith (table names) [native, bridged] ()).1
    index.signatures? "run" = some (NameSet.ofList ["[My Panel run]", "[Runner run]"]) ∧
      (indexRecordsWith (table names) [bridged, native] ()).1 = index ∧
      (indexRecordsWith (table names) [bridged] ()).1.merge
        (indexRecordsWith (table names) [native] ()).1 = index ∧
      (indexRecordsPooled (table names) [1, 0] [native, bridged] ()).1 = index := by
  intro names native bridged index
  have answers : AnswersBy (table names : Demangler Unit) names.get? := fun _ _ => rfl
  obtain ⟨permuted, grouped, pooled, _⟩ :=
    indexRecordsWith_order_free answers [native, bridged] ()
  refine ⟨by decide +kernel, ?_, ?_, pooled [1, 0] ()⟩
  · exact permuted [bridged, native] (List.Perm.swap _ _ _) ()
  · exact grouped (.merge (.group [bridged]) (.group [native])) (List.Perm.swap _ _ _) fun _ => ()

end DeadSymbols
