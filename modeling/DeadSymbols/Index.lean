import DeadSymbols.Method
import DeadSymbols.Ordered.NameMap

/-!
Contract: the index of implementations, from each selector to the signatures that implement it.

The index is a set of pairs of a selector and a signature, stored by selector. Inserting a pair
twice changes nothing, merging is union, and the order in which classes are folded in leaves no
trace.
-/

namespace DeadSymbols

/-- Every implemented selector with the set of its implementations' signatures. -/
structure Index where
  entries : NameMap NameSet
deriving DecidableEq

namespace Index

/-- The index without implementations. -/
def empty : Index := ⟨∅⟩

instance : Inhabited Index := ⟨empty⟩

instance : EmptyCollection Index := ⟨empty⟩

/-- Records one implementation. -/
def insert (index : Index) (selector signature : String) : Index :=
  ⟨index.entries.modify selector ∅ (·.insert signature)⟩

/-- Records the methods of a class. -/
def insertClass (index : Index) (record : ClassRecord) : Index :=
  record.methods.foldl (fun index method => index.insert method.selector method.signature) index

/-- The index of a list of classes. -/
def ofClasses (records : List ClassRecord) : Index :=
  records.foldl insertClass empty

/-- The implementations of both indexes. -/
def merge (left right : Index) : Index :=
  right.entries.entries.foldl
    (fun index entry => ⟨index.entries.modify entry.1 ∅ (·.union entry.2)⟩) left

/-- Whether a selector is implemented. -/
def contains (index : Index) (selector : String) : Bool :=
  (index.entries.get? selector).isSome

/-- The signatures of a selector's implementations; `none` when it has none. -/
def signatures? (index : Index) (selector : String) : Option NameSet :=
  index.entries.get? selector

/-- The implemented selectors. -/
def selectors (index : Index) : NameSet :=
  index.entries.keys

/-- The number of implemented selectors. -/
def size (index : Index) : Nat :=
  index.entries.size

/-- Whether nothing is implemented. -/
def isEmpty (index : Index) : Bool :=
  index.entries.isEmpty

end Index

end DeadSymbols
