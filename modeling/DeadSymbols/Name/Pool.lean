import DeadSymbols.Name.Resolution

/-!
Contract: indexing on a pool of workers that share one demangler.

Every record that names a class is a task. A task asks for its class tokens one after another, and
between two of its questions the other tasks may ask theirs. A schedule says whose turn it is, as
places in the list of tasks; a turn without a task, or of a task that has no question left, passes.
What a schedule leaves open is asked at the end, task by task, so every schedule leads to an index.
The finished classes are collected in the order of their records.

Owns: tasks, schedules, the index of records and of a dump under a schedule, the analysis with
pools.
-/

namespace DeadSymbols

open DeadSymbols.Dump
open DeadSymbols.Name

variable {σ : Type}

/-- A record at work: its outline, and the names in use for the first of its class tokens. -/
structure Task where
  outline : Outline
  names : List String
deriving DecidableEq, Repr

namespace Task

/-- The class tokens that the task has not asked for. -/
def waiting (task : Task) : List String := task.outline.classTokens.drop task.names.length

/-- The next question of the task, if there is one. -/
def step (demangler : Demangler σ) (task : Task) : StateM σ Task :=
  match task.waiting with
  | [] => return task
  | token :: _ => do
    let name ← resolve demangler token
    return { task with names := task.names ++ [name] }

/-- All questions that are left. -/
def finish (demangler : Demangler σ) (task : Task) : StateM σ Task := do
  let names ← resolveAll demangler task.waiting
  return { task with names := task.names ++ names }

/-- The class of a task under the names it has. -/
def parsed (task : Task) : ClassRecord := task.outline.named task.names

end Task

/-- The tasks of the records that name a class, before any question. -/
def tasksOf (records : List RawRecord) : List Task :=
  (records.filterMap RawRecord.outline?).map fun outline => { outline, names := [] }

/-- The turn of the task at a place. -/
def turn (demangler : Demangler σ) : Nat → List Task → StateM σ (List Task)
  | _, [] => return []
  | 0, task :: rest => return (← task.step demangler) :: rest
  | place + 1, task :: rest => return task :: (← turn demangler place rest)

/-- The turns of a schedule, one after another. -/
def runSchedule (demangler : Demangler σ) : List Nat → List Task → StateM σ (List Task)
  | [], tasks => return tasks
  | place :: later, tasks => do runSchedule demangler later (← turn demangler place tasks)

/-- All questions that the tasks have left, task by task. -/
def finishAll (demangler : Demangler σ) : List Task → StateM σ (List Task)
  | [] => return []
  | task :: rest => do
    let finished ← task.finish demangler
    return finished :: (← finishAll demangler rest)

/-- The index of the records that name a class, with the questions of a schedule. -/
def indexRecordsPooled (demangler : Demangler σ) (schedule : List Nat) (records : List RawRecord) :
    StateM σ Index := do
  let tasks ← runSchedule demangler schedule (tasksOf records)
  let finished ← finishAll demangler tasks
  return Index.ofClasses (finished.map Task.parsed)

/-- The index of all records of the metadata, with one schedule for the native records and one for
the bridged records after them. -/
def Metadata.indexPooled (demangler : Demangler σ) (nativeSchedule bridgedSchedule : List Nat)
    (metadata : Metadata) : StateM σ Index := do
  let native ← indexRecordsPooled demangler nativeSchedule metadata.native
  let bridged ← indexRecordsPooled demangler bridgedSchedule metadata.bridged
  return native.merge bridged

/-- The index of all class records of a dump, with a schedule for each flavor. -/
def dumpIndexPooled (demangler : Demangler σ) (nativeSchedule bridgedSchedule : List Nat)
    (dump : List Char) : StateM σ Index :=
  (Metadata.extract dump []).indexPooled demangler nativeSchedule bridgedSchedule

/-- The classes and methods of a dump that nothing refers to, with its records read by pools. -/
def analyzePooled (demangler : Demangler σ) (nativeSchedule bridgedSchedule : List Nat)
    (whitelist : NameSet) (dump selectorText : List Char) : StateM σ Findings := do
  let metadata := Metadata.ofTexts dump selectorText
  if metadata.isEmpty then return .none
  let index ← metadata.indexPooled demangler nativeSchedule bridgedSchedule
  metadata.compareWith demangler whitelist index

end DeadSymbols
