import DeadSymbols.Ordered.NameMap
import Mathlib.Data.Finset.Card
import Mathlib.Data.List.Sort

/-!
Contract: the laws of name sets and name maps, seen through membership and look-up.

Every set operation is described by the members of its result, and `NameSet.ext` says that the
members determine a set. Every map operation is described by the look-ups in its result, an entry
stands in a map exactly when looking up its name finds it, and the look-ups determine a map.

Owns: the membership laws, the look-up laws of `modify`, extensionality of sets and maps.
-/

namespace DeadSymbols

namespace NameSet

variable {name : String} {names left right : NameSet}

@[simp] theorem mem_toList : name ∈ names.toList ↔ name ∈ names := Iff.rfl

@[simp] theorem not_mem_empty : name ∉ (∅ : NameSet) := List.not_mem_nil

@[simp] theorem mem_insert {other : String} :
    name ∈ names.insert other ↔ name = other ∨ name ∈ names :=
  mem_insertName

@[simp] theorem mem_insertAll {more : List String} :
    name ∈ names.insertAll more ↔ name ∈ more ∨ name ∈ names := by
  induction more generalizing names with
  | nil => simp [insertAll]
  | cons head tail inductionHypothesis =>
      have step : names.insertAll (head :: tail) = (names.insert head).insertAll tail := rfl
      rw [step, inductionHypothesis, mem_insert, List.mem_cons, or_left_comm, or_assoc]

@[simp] theorem mem_ofList {members : List String} : name ∈ ofList members ↔ name ∈ members := by
  rw [ofList, mem_insertAll]
  exact or_iff_left not_mem_empty

@[simp] theorem mem_union : name ∈ left.union right ↔ name ∈ left ∨ name ∈ right := by
  rw [union, mem_insertAll, mem_toList, or_comm]

@[simp] theorem mem_diff : name ∈ left.diff right ↔ name ∈ left ∧ name ∉ right := by
  change name ∈ left.toList.filter _ ↔ _
  rw [List.mem_filter, mem_toList, decide_eq_true_iff]

@[simp] theorem mem_image {rename : String → String} :
    name ∈ names.image rename ↔ ∃ raw ∈ names, rename raw = name := by
  rw [image, mem_ofList, List.mem_map]
  rfl

/-- A set is determined by its members. -/
theorem ext (same : ∀ name, name ∈ left ↔ name ∈ right) : left = right := by
  have lists : left.toList = right.toList :=
    List.Pairwise.eq_of_mem_iff left.ascending right.ascending same
  cases left
  cases right
  cases lists
  rfl

theorem isEmpty_iff : names.isEmpty = true ↔ names = ∅ := by
  rw [isEmpty, List.isEmpty_iff]
  constructor
  · intro noMembers
    refine ext fun name => ?_
    rw [← mem_toList, noMembers]
    exact iff_of_false List.not_mem_nil not_mem_empty
  · intro empty
    rw [empty]
    rfl

end NameSet

/-- An ascending list is the list of the set of its members. -/
theorem toList_ofList_of_ascending {names : List String} (ascending : names.Pairwise (· < ·)) :
    (NameSet.ofList names).toList = names := by
  have same : NameSet.ofList names = ⟨names, ascending⟩ :=
    NameSet.ext fun _ => NameSet.mem_ofList
  rw [same]

/-! ### Sorted lists -/

theorem pairwise_mergeSort_le (names : List String) :
    (names.mergeSort (· ≤ ·)).Pairwise (fun left right => left ≤ right) := by
  have ordered := @List.pairwise_mergeSort _ (fun left right : String => decide (left ≤ right))
    (fun _ _ _ first second => by
      simp only [decide_eq_true_eq] at first second ⊢
      exact String.le_trans first second)
    (fun left right => by
      simp only [Bool.or_eq_true, decide_eq_true_eq]
      exact String.le_total left right) names
  simpa only [decide_eq_true_eq] using ordered

theorem mergeSort_ascending {names : List String} (distinct : names.Nodup) :
    (names.mergeSort (· ≤ ·)).Pairwise (· < ·) := by
  have apart : (names.mergeSort (· ≤ ·)).Nodup :=
    (List.mergeSort_perm names _).nodup_iff.mpr distinct
  refine ((pairwise_mergeSort_le names).and apart).imp ?_
  intro left right ordered
  obtain ⟨below, different⟩ := ordered
  apply String.not_le.mp
  intro above
  exact different (String.le_antisymm below above)

/-! ### Maps -/

section Entries

variable {β : Type} {name other : String} {fresh value : β} {f : β → β}

private theorem name_eq_of_not_lt {key : String} (notBelow : ¬ name < key)
    (notAbove : ¬ key < name) : name = key :=
  String.le_antisymm (String.not_lt.mp notAbove) (String.not_lt.mp notBelow)

theorem lookup_modifyEntry_same {entries : List (String × β)}
    (ascending : (entries.map Prod.fst).Pairwise (· < ·)) :
    (modifyEntry name fresh f entries).lookup name =
      some (f ((entries.lookup name).getD fresh)) := by
  induction entries with
  | nil => simp [modifyEntry]
  | cons head tail inductionHypothesis =>
      obtain ⟨key, stored⟩ := head
      simp only [List.map_cons, List.pairwise_cons] at ascending
      obtain ⟨keyBelow, tailAscending⟩ := ascending
      simp only [modifyEntry]
      split
      · rename_i below
        -- The name stands before every key, so it had no value so far.
        have missing : ((key, stored) :: tail).lookup name = none := by
          rw [List.lookup_eq_none_iff]
          intro entry member
          rcases List.mem_cons.mp member with same | inTail
          · rw [same]
            exact bne_iff_ne.mpr (String.ne_of_lt below)
          · have keyBelowEntry := keyBelow entry.1 (List.mem_map_of_mem inTail)
            exact bne_iff_ne.mpr (String.ne_of_lt (String.lt_trans below keyBelowEntry))
        simp [missing]
      · split
        · rename_i above
          have different : (name == key) = false := beq_false_of_ne (String.ne_of_lt above).symm
          rw [List.lookup_cons, List.lookup_cons, different]
          exact inductionHypothesis tailAscending
        · rename_i notBelow notAbove
          have same : name = key := name_eq_of_not_lt notBelow notAbove
          simp [same]

theorem lookup_modifyEntry_other {entries : List (String × β)} (different : other ≠ name) :
    (modifyEntry name fresh f entries).lookup other = entries.lookup other := by
  have notName : (other == name) = false := beq_false_of_ne different
  induction entries with
  | nil => rw [modifyEntry, List.lookup_cons, notName]
  | cons head tail inductionHypothesis =>
      obtain ⟨key, stored⟩ := head
      simp only [modifyEntry]
      split
      · rw [List.lookup_cons, notName]
      · split
        · rw [List.lookup_cons, List.lookup_cons, inductionHypothesis]
        · rename_i notBelow notAbove
          have same : name = key := name_eq_of_not_lt notBelow notAbove
          have notKey : (other == key) = false := by rw [← same]; exact notName
          rw [List.lookup_cons, List.lookup_cons, notKey]

end Entries

namespace NameMap

variable {β : Type} {map : NameMap β} {name other : String} {fresh value : β} {f : β → β}

@[simp] theorem get?_empty : (∅ : NameMap β).get? name = none := rfl

theorem get?_modify_same :
    (map.modify name fresh f).get? name = some (f ((map.get? name).getD fresh)) :=
  lookup_modifyEntry_same map.ascending

theorem get?_modify_other (different : other ≠ name) :
    (map.modify name fresh f).get? other = map.get? other :=
  lookup_modifyEntry_other different

@[simp] theorem get?_set_same : (map.set name value).get? name = some value :=
  get?_modify_same

theorem get?_set_other (different : other ≠ name) :
    (map.set name value).get? other = map.get? other :=
  get?_modify_other different

/-- An entry stands in a map exactly when looking up its name finds it. -/
theorem mem_entries_iff : (name, value) ∈ map.entries ↔ map.get? name = some value := by
  have distinct : (map.entries.map Prod.fst).Nodup := map.ascending.nodup
  rw [get?, List.lookup_eq_some_iff]
  constructor
  · intro member
    obtain ⟨before, after, split⟩ := List.append_of_mem member
    refine ⟨before, after, split, ?_⟩
    intro entry inBefore
    rw [split, List.map_append, List.nodup_append] at distinct
    have different := distinct.2.2 entry.1 (List.mem_map_of_mem inBefore) name (by simp)
    simpa using different.symm
  · intro placed
    obtain ⟨before, after, split, _⟩ := placed
    rw [split]
    simp

theorem mem_keys : name ∈ map.keys ↔ ∃ value, map.get? name = some value := by
  simp only [← mem_entries_iff]
  show name ∈ map.entries.map Prod.fst ↔ _
  simp

theorem size_eq_card {names : Finset String} (same : ∀ name, name ∈ map.keys ↔ name ∈ names) :
    map.size = names.card := by
  have members : map.keys.toList.toFinset = names := by
    ext name
    rw [List.mem_toFinset, NameSet.mem_toList, same]
  rw [← members, List.toFinset_card_of_nodup map.keys.ascending.nodup]
  exact (List.length_map ..).symm

/-- A map is determined by its look-ups. -/
theorem ext {left right : NameMap β} (same : ∀ name, left.get? name = right.get? name) :
    left = right := by
  have members : ∀ entry, entry ∈ left.entries ↔ entry ∈ right.entries := by
    intro entry
    rw [mem_entries_iff, mem_entries_iff, same]
  have leftKeys : left.entries.Pairwise (fun entry later => entry.1 < later.1) :=
    List.pairwise_map.mp left.ascending
  have rightKeys : right.entries.Pairwise (fun entry later => entry.1 < later.1) :=
    List.pairwise_map.mp right.ascending
  have irreflexive : Std.Irrefl fun entry later : String × β => entry.1 < later.1 :=
    ⟨fun entry => String.lt_irrefl entry.1⟩
  have antisymmetric : Std.Antisymm fun entry later : String × β => entry.1 < later.1 :=
    ⟨fun _ _ below above => absurd above (String.lt_asymm below)⟩
  have lists : left.entries = right.entries := List.Pairwise.eq_of_mem_iff leftKeys rightKeys members
  cases left
  cases right
  cases lists
  rfl

end NameMap

end DeadSymbols
