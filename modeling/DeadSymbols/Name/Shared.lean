import DeadSymbols.Name.Resolution

/-!
Contract: a memo that several callers use at the same time.

A call looks its name up and is finished when the memo has an answer to it. Otherwise it asks the
inner demangler, and then writes the answer down, over whatever stands there by now. These are three
steps. Between two of them every other caller may take steps of its own, so two callers may both
miss a name and both ask for it. A caller that wants several names makes one call after another.

A schedule says whose turn it is, as places in the list of callers; a turn without a caller, or of a
caller that has finished all its calls, passes. Records are indexed with one caller per record. What
the schedule leaves open is done in rounds at the end.

Owns: the steps of a call, callers at work, the index of records through a shared memo.
-/

namespace DeadSymbols.Name

variable {σ : Type}

inductive Stage where
  | asked
  | missed
  | answered (answer : Option String)
  | finished (answer : Option String)
deriving DecidableEq, Repr

structure Call where
  name : String
  stage : Stage
deriving DecidableEq, Repr

namespace Call

def ask (name : String) : Call := { name, stage := .asked }

def isFinished (call : Call) : Bool :=
  match call.stage with
  | .finished _ => true
  | _ => false

/-- The name in use once the call is finished; until then the name that was asked for. -/
def resolved (call : Call) : String :=
  match call.stage with
  | .finished answer => orRaw call.name answer
  | _ => call.name

def step (inner : Demangler σ) (call : Call) : StateM (Cache × σ) Call := fun (cache, state) =>
  match call.stage with
  | .asked =>
    match cache.get? call.name with
    | some answer => ({ call with stage := .finished answer }, (cache, state))
    | none => ({ call with stage := .missed }, (cache, state))
  | .missed =>
    let (answer, next) := inner call.name state
    ({ call with stage := .answered answer }, (cache, next))
  | .answered answer =>
    -- Another call may have written the name meanwhile; the last write wins.
    ({ call with stage := .finished answer }, (cache.set call.name answer, state))
  | .finished _ => (call, (cache, state))

end Call

/-- The next step of a caller, which is that of its first call that is not finished. -/
def stepCaller (inner : Demangler σ) : List Call → StateM (Cache × σ) (List Call)
  | [] => return []
  | call :: later => do
    if call.isFinished then return call :: (← stepCaller inner later)
    else return (← call.step inner) :: later

/-- Callers at work, with the memo and the inner demangler that they share. -/
structure Shared (σ : Type) where
  callers : List (List Call)
  cache : Cache
  state : σ

namespace Shared

/-- Callers before their first steps, each with the names that it wants. -/
def start (requests : List (List String)) (cache : Cache) (state : σ) : Shared σ :=
  { callers := requests.map (·.map Call.ask), cache, state }

def turn (inner : Demangler σ) (shared : Shared σ) (place : Nat) : Shared σ :=
  match shared.callers[place]? with
  | none => shared
  | some caller =>
    let (next, cache, state) := stepCaller inner caller (shared.cache, shared.state)
    { callers := shared.callers.set place next, cache, state }

def run (inner : Demangler σ) (shared : Shared σ) (schedule : List Nat) : Shared σ :=
  schedule.foldl (turn inner) shared

def isFinished (shared : Shared σ) : Bool :=
  shared.callers.all (·.all Call.isFinished)

/-- Turns of all callers, round by round, with three rounds for every call. -/
def rounds (shared : Shared σ) : List Nat :=
  (List.replicate (3 * shared.callers.flatten.length) (List.range shared.callers.length)).flatten

end Shared

end DeadSymbols.Name

namespace DeadSymbols

open DeadSymbols.Dump
open DeadSymbols.Name

variable {σ : Type}

/-- The index of the records that name a class, with one caller per record that asks a shared memo
for its class tokens. -/
def indexRecordsShared (inner : Demangler σ) (schedule : List Nat) (records : List RawRecord) :
    StateM (Cache × σ) Index := fun (cache, state) =>
  let outlines := records.filterMap RawRecord.outline?
  let begun := Shared.start (outlines.map Outline.classTokens) cache state
  let ended := begun.run inner (schedule ++ begun.rounds)
  let names := ended.callers.map (·.map Call.resolved)
  (Index.ofClasses (List.zipWith Outline.named outlines names), (ended.cache, ended.state))

end DeadSymbols
