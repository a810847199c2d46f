import DeadSymbols.Index

/-!
Contract: several indexes at work, each in a slot with a name.

A slot that no step has named holds the index without implementations. A step changes the index of
one slot. A merge reads another slot, or the same one, as it stands before the step.

Owns: slots, the changes of one slot, runs of steps.
-/

namespace DeadSymbols

structure Slots where
  indexes : NameMap Index
deriving DecidableEq

namespace Slots

inductive Change where
  | clear
  | rebuild (records : List ClassRecord)
  | insert (selector signature : String)
  | insertClass (record : ClassRecord)
  | merge (source : String)
deriving DecidableEq, Repr

structure Step where
  slot : String
  change : Change
deriving DecidableEq, Repr

def empty : Slots := ⟨∅⟩

def index (slots : Slots) (slot : String) : Index :=
  (slots.indexes.get? slot).getD ∅

/-- The index that a change makes of the one in a slot. -/
def changed (slots : Slots) (slot : String) : Change → Index
  | .clear => ∅
  | .rebuild records => Index.ofClasses records
  | .insert selector signature => (slots.index slot).insert selector signature
  | .insertClass record => (slots.index slot).insertClass record
  | .merge source => (slots.index slot).merge (slots.index source)

def step (slots : Slots) (step : Step) : Slots :=
  ⟨slots.indexes.set step.slot (slots.changed step.slot step.change)⟩

def run (slots : Slots) (steps : List Step) : Slots :=
  steps.foldl step slots

end Slots

end DeadSymbols
