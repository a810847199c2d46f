import DeadSymbols.Ordered.NameSet

/-!
Contract: finite maps from names to values, kept as entries with strictly ascending names.

Equal look-ups force equal maps, since the entry list of a map is determined by them.

Owns: look-up, replacement (`set`), and change of a value in place (`modify`, which starts from
a given value for a name that has none).
-/

namespace DeadSymbols

variable {β γ : Type}

/-- Puts `f` of the present value (or of `fresh`) under a name, keeping the order. -/
def modifyEntry (name : String) (fresh : β) (f : β → β) :
    List (String × β) → List (String × β)
  | [] => [(name, f fresh)]
  | (key, value) :: tail =>
    if name < key then (name, f fresh) :: (key, value) :: tail
    else if key < name then (key, value) :: modifyEntry name fresh f tail
    else (key, f value) :: tail

theorem keys_modifyEntry (name : String) (fresh : β) (f : β → β)
    (entries : List (String × β)) :
    (modifyEntry name fresh f entries).map Prod.fst = insertName name (entries.map Prod.fst) := by
  induction entries with
  | nil => rfl
  | cons head tail inductionHypothesis =>
      simp only [modifyEntry, List.map_cons, insertName]
      split
      · rfl
      · split
        · simp [inductionHypothesis]
        · rfl

/-- A finite map from names, as its entries in strictly ascending order of the names. -/
structure NameMap (β : Type) where
  entries : List (String × β)
  ascending : (entries.map Prod.fst).Pairwise (· < ·)
deriving DecidableEq

namespace NameMap

theorem ascending_nil : (([] : List (String × β)).map Prod.fst).Pairwise (· < ·) :=
  List.Pairwise.nil

/-- The map without entries. -/
def empty : NameMap β := ⟨[], ascending_nil⟩

instance : Inhabited (NameMap β) := ⟨empty⟩

instance : EmptyCollection (NameMap β) := ⟨empty⟩

/-- The value under a name. -/
def get? (map : NameMap β) (name : String) : Option β :=
  map.entries.lookup name

/-- The map in which the value under a name is `f` of what it was, or of `fresh`. -/
def modify (map : NameMap β) (name : String) (fresh : β) (f : β → β) : NameMap β :=
  ⟨modifyEntry name fresh f map.entries, by
    rw [keys_modifyEntry]
    exact insertName_ascending map.ascending⟩

/-- The map in which a name has the given value, whatever it had before. -/
def set (map : NameMap β) (name : String) (value : β) : NameMap β :=
  map.modify name value (fun _ => value)

/-- The names that have a value, ascending. -/
def keys (map : NameMap β) : NameSet :=
  ⟨map.entries.map Prod.fst, map.ascending⟩

/-- The number of entries. -/
def size (map : NameMap β) : Nat := map.entries.length

/-- Whether there is no entry. -/
def isEmpty (map : NameMap β) : Bool := map.entries.isEmpty

end NameMap

end DeadSymbols
