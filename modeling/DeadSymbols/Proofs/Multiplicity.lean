import DeadSymbols.Proofs.ByteOrder
import DeadSymbols.Proofs.Findings

/-!
Contract: how often a signature stands in the list of unused methods.

An index that was put together by hand may hold one signature under several selectors. Such a
signature is listed once for each of them that is neither referenced nor whitelisted, so excluding
one selector takes away one of its entries and need not take away the last. Membership is too coarse
to say this, and the statements here are about counts.

The two excluding sets play the same part: what matters of a selector is whether it is in either.
-/

namespace DeadSymbols

open DeadSymbols.Text

/-! ### Names chosen from a map -/

theorem NameMap.ascending_filter {β : Type} (map : NameMap β) (test : String × β → Bool) :
    ((map.entries.filter test).map Prod.fst).Pairwise (· < ·) :=
  map.ascending.sublist (List.filter_sublist.map Prod.fst)

/-- The names of the entries that pass a test. -/
def NameMap.namesWhere {β : Type} (map : NameMap β) (test : String × β → Bool) : NameSet :=
  ⟨(map.entries.filter test).map Prod.fst, map.ascending_filter test⟩

theorem NameMap.mem_namesWhere {β : Type} {map : NameMap β} {test : String × β → Bool}
    {name : String} :
    name ∈ map.namesWhere test ↔ ∃ value, map.get? name = some value ∧ test (name, value) := by
  show name ∈ (map.entries.filter test).map Prod.fst ↔ _
  simp [← mem_entries_iff]

theorem NameSet.size_le_of_subset {left right : NameSet}
    (within : ∀ name ∈ left, name ∈ right) : left.size ≤ right.size :=
  (List.subperm_of_subset left.ascending.nodup within).length_le

/-! ### Counting -/

/-- No entry lists a signature twice, so counting the signature counts the entries that have it. -/
theorem count_flatMap_signatures (entries : List (String × NameSet)) (signature : String) :
    (entries.flatMap (·.2.toList)).count signature =
      (entries.filter fun entry => decide (signature ∈ entry.2)).length := by
  induction entries with
  | nil => rfl
  | cons entry rest inductionHypothesis =>
      have once : entry.2.toList.count signature = if signature ∈ entry.2 then 1 else 0 :=
        entry.2.ascending.nodup.count
      rw [List.flatMap_cons, List.count_append, inductionHypothesis, once, List.filter_cons]
      by_cases member : signature ∈ entry.2
      · simp only [member, decide_true, if_true, List.length_cons]
        omega
      · simp [member]

/-- The selectors that list a signature form a set, and the signature is counted by its size. -/
theorem exists_listing_selectors (index : Index) (referenced whitelist : NameSet)
    (signature : String) :
    ∃ selectors : NameSet,
      (∀ selector, selector ∈ selectors ↔
        index.Holds selector signature ∧ selector ∉ referenced ∧ selector ∉ whitelist) ∧
      (unusedMethods index referenced whitelist).count signature = selectors.size := by
  refine ⟨index.entries.namesWhere fun entry => decide (signature ∈ entry.2) &&
    (decide (entry.1 ∉ whitelist) && decide (entry.1 ∉ referenced)), ?_, ?_⟩
  · intro selector
    simp only [NameMap.mem_namesWhere, Index.Holds, Index.signatures?, Bool.and_eq_true,
      decide_eq_true_eq, and_comm (a := selector ∉ referenced), ← and_assoc, exists_and_right]
  · rw [unusedMethods, (List.mergeSort_perm _ _).count_eq, count_flatMap_signatures,
      List.filter_filter]
    exact (List.length_map ..).symm

variable {index : Index} {referenced whitelist otherReferenced otherWhitelist : NameSet}

theorem count_unusedMethods_le (moreReferenced : ∀ selector ∈ referenced, selector ∈ otherReferenced)
    (moreWhitelist : ∀ selector ∈ whitelist, selector ∈ otherWhitelist) (signature : String) :
    (unusedMethods index otherReferenced otherWhitelist).count signature ≤
      (unusedMethods index referenced whitelist).count signature := by
  obtain ⟨fewer, memFewer, countFewer⟩ :=
    exists_listing_selectors index otherReferenced otherWhitelist signature
  obtain ⟨all, memAll, countAll⟩ := exists_listing_selectors index referenced whitelist signature
  rw [countFewer, countAll]
  apply NameSet.size_le_of_subset
  intro selector member
  rw [memFewer] at member
  rw [memAll]
  exact ⟨member.1, mt (moreReferenced selector) member.2.1, mt (moreWhitelist selector) member.2.2⟩

/-! ### One set in place of the other -/

theorem unusedMethods_congr
    (same : ∀ selector, selector ∈ otherReferenced ∨ selector ∈ otherWhitelist ↔
      selector ∈ referenced ∨ selector ∈ whitelist) :
    unusedMethods index otherReferenced otherWhitelist =
      unusedMethods index referenced whitelist := by
  have excluded (entry : String × NameSet) :
      (decide (entry.1 ∉ otherWhitelist) && decide (entry.1 ∉ otherReferenced)) =
        (decide (entry.1 ∉ whitelist) && decide (entry.1 ∉ referenced)) := by
    rw [← Bool.decide_and, ← Bool.decide_and]
    apply decide_eq_decide.mpr
    rw [← not_or, ← not_or, or_comm, same, or_comm]
  simp only [unusedMethods, excluded]

/-- A name that is taken out of one set and put into another is in either all the same. -/
theorem NameSet.mem_moved {source target : NameSet} {moved : String} (member : moved ∈ source)
    (name : String) :
    name ∈ source.diff (ofList [moved]) ∨ name ∈ target.insert moved ↔
      name ∈ source ∨ name ∈ target := by
  by_cases same : name = moved
  · simp [same, member]
  · simp [same]

/-- For any index and any two excluding sets, the list of unused methods ascends in the order of
UTF-8 octets, and a signature stands in it once for each selector that has the signature in the
index and is in neither set. Larger sets leave no signature more often, and a selector may pass from
the one set to the other. -/
theorem unusedMethods_multiplicity (index : Index) (referenced whitelist : NameSet) :
    (unusedMethods index referenced whitelist).Pairwise
        (fun left right => ¬ ByteBelow right left) ∧
      (∀ signature, ∃ selectors : NameSet,
        (∀ selector, selector ∈ selectors ↔
          (∃ signatures, index.signatures? selector = some signatures ∧ signature ∈ signatures) ∧
            selector ∉ referenced ∧ selector ∉ whitelist) ∧
        (unusedMethods index referenced whitelist).count signature = selectors.size) ∧
      (∀ otherReferenced otherWhitelist : NameSet,
        (∀ selector ∈ referenced, selector ∈ otherReferenced) →
        (∀ selector ∈ whitelist, selector ∈ otherWhitelist) →
        ∀ signature, (unusedMethods index otherReferenced otherWhitelist).count signature ≤
          (unusedMethods index referenced whitelist).count signature) ∧
      (∀ selector ∈ referenced,
        unusedMethods index (referenced.diff (.ofList [selector])) (whitelist.insert selector) =
          unusedMethods index referenced whitelist) ∧
      ∀ selector ∈ whitelist,
        unusedMethods index (referenced.insert selector) (whitelist.diff (.ofList [selector])) =
          unusedMethods index referenced whitelist := by
  refine ⟨?_, exists_listing_selectors index referenced whitelist, ?_, ?_, ?_⟩
  · apply (pairwise_mergeSort_le _).imp
    intro left right ordered below
    exact String.not_lt.mpr ordered (byteBelow_iff_lt.mp below)
  · intro otherReferenced otherWhitelist moreReferenced moreWhitelist
    exact count_unusedMethods_le moreReferenced moreWhitelist
  · intro selector member
    exact unusedMethods_congr (NameSet.mem_moved member)
  · intro selector member
    apply unusedMethods_congr
    intro other
    rw [or_comm, NameSet.mem_moved member, or_comm]

-- A signature under two selectors stays listed when one of them is whitelisted.
example :
    let index := (Index.empty.insert "run" "[A run]").insert "start" "[A run]"
    unusedMethods index ∅ ∅ = ["[A run]", "[A run]"] ∧
      unusedMethods index ∅ (.ofList ["run"]) = ["[A run]"] := by
  cbv

end DeadSymbols
