/-!
Contract: finite sets of names, kept as strictly ascending lists.

The order is that of code points, position by position. The list of a set is therefore
determined by its members, and two sets with the same members are equal.

Owns: insertion, construction from a list, union, difference, membership, image.
-/

namespace DeadSymbols

/-- Inserts a name into an ascending list, unless it is there already. -/
def insertName (name : String) : List String → List String
  | [] => [name]
  | head :: tail =>
    if name < head then name :: head :: tail
    else if head < name then head :: insertName name tail
    else head :: tail

theorem mem_insertName {name other : String} {names : List String} :
    other ∈ insertName name names ↔ other = name ∨ other ∈ names := by
  induction names with
  | nil => simp [insertName]
  | cons head tail inductionHypothesis =>
      unfold insertName
      split
      · simp
      · split
        · simp only [List.mem_cons, inductionHypothesis]
          constructor
          · rintro (same | same | member) <;> simp_all
          · rintro (same | same | member) <;> simp_all
        · rename_i notBelow notAbove
          have same : name = head :=
            String.le_antisymm (String.not_lt.mp notAbove) (String.not_lt.mp notBelow)
          simp [same]

theorem insertName_ascending {name : String} {names : List String}
    (ascending : names.Pairwise (· < ·)) : (insertName name names).Pairwise (· < ·) := by
  induction names with
  | nil => simp [insertName]
  | cons head tail inductionHypothesis =>
      obtain ⟨headBelow, tailAscending⟩ := List.pairwise_cons.mp ascending
      unfold insertName
      split
      · rename_i below
        refine List.pairwise_cons.mpr ⟨?_, ascending⟩
        intro other member
        rcases List.mem_cons.mp member with same | inTail
        · exact same ▸ below
        · exact String.lt_trans below (headBelow other inTail)
      · split
        · rename_i above
          refine List.pairwise_cons.mpr ⟨?_, inductionHypothesis tailAscending⟩
          intro other member
          rcases mem_insertName.mp member with same | inTail
          · exact same ▸ above
          · exact headBelow other inTail
        · exact ascending

/-- A finite set of names, as its members in strictly ascending order. -/
structure NameSet where
  toList : List String
  ascending : toList.Pairwise (· < ·)
deriving DecidableEq

namespace NameSet

/-- The set without members. -/
def empty : NameSet := ⟨[], List.Pairwise.nil⟩

instance : Inhabited NameSet := ⟨empty⟩

instance : EmptyCollection NameSet := ⟨empty⟩

instance : Membership String NameSet := ⟨fun names name => name ∈ names.toList⟩

instance (name : String) (names : NameSet) : Decidable (name ∈ names) :=
  inferInstanceAs (Decidable (name ∈ names.toList))

/-- The set with one more member. -/
def insert (names : NameSet) (name : String) : NameSet :=
  ⟨insertName name names.toList, insertName_ascending names.ascending⟩

/-- The set with the members of a list besides its own. -/
def insertAll (names : NameSet) (more : List String) : NameSet :=
  more.foldl insert names

/-- The set of the names in a list. -/
def ofList (names : List String) : NameSet :=
  insertAll empty names

/-- The members of either set. -/
def union (left right : NameSet) : NameSet :=
  left.insertAll right.toList

/-- The members of the first set that are not in the second. -/
def diff (left right : NameSet) : NameSet :=
  ⟨left.toList.filter (fun name => decide (name ∉ right)), left.ascending.filter _⟩

/-- The set of the images of the members. -/
def image (rename : String → String) (names : NameSet) : NameSet :=
  ofList (names.toList.map rename)

/-- The number of members. -/
def size (names : NameSet) : Nat := names.toList.length

/-- Whether there is no member. -/
def isEmpty (names : NameSet) : Bool := names.toList.isEmpty

end NameSet

end DeadSymbols
