import DeadSymbols.Proofs.Shared

/-!
Contract: analyses whose demanglers cannot be told apart.

Two computations are alike when they give the same results from related states and lead to related
states again. An analysis does nothing with a demangler but ask it. So if two demanglers give the
same answers from related states, the analyses that ask them are alike, read in turn, on a pool or
through a shared memo. The states may be of different kinds. So a demangler whose answers depend on
the name as long as its state keeps an invariant is alike to one without a state, and an analysis
that asks it is the pure one and keeps the invariant.

Owns: `Alike`, `Yields`, `AnswersWhile`, the analyses under them.
-/

namespace DeadSymbols

open DeadSymbols.Dump
open DeadSymbols.Name

variable {σ τ α β : Type} {related : σ → τ → Prop}

def Alike (related : σ → τ → Prop) (first : StateM σ α) (second : StateM τ α) : Prop :=
  ∀ left right, related left right →
    (first left).1 = (second right).1 ∧ related (first left).2 (second right).2

namespace Alike

protected theorem pure (result : α) : Alike related (pure result) (pure result) :=
  fun _ _ holds => ⟨rfl, holds⟩

protected theorem bind {first : StateM σ α} {second : StateM τ α} {next : α → StateM σ β}
    {following : α → StateM τ β} (begins : Alike related first second)
    (goesOn : ∀ result, Alike related (next result) (following result)) :
    Alike related (first >>= next) (second >>= following) := by
  intro left right holds
  obtain ⟨same, after⟩ := begins left right holds
  have later := goesOn (first left).1 _ _ after
  rw [same] at later
  show (next (first left).1 (first left).2).1 = _ ∧ related (next (first left).1 (first left).2).2 _
  rw [same]
  exact later

/-! ### Questions in turn -/

section Analyses

variable {first : Demangler σ} {second : Demangler τ}

theorem resolveAll (alike : ∀ name, Alike related (first name) (second name))
    (names : List String) : Alike related (resolveAll first names) (resolveAll second names) := by
  induction names with
  | nil => exact Alike.pure []
  | cons name later inductionHypothesis =>
      apply Alike.bind
      · exact (alike name).bind fun answer => Alike.pure (orRaw name answer)
      · intro used
        exact inductionHypothesis.bind fun others => Alike.pure (used :: others)

theorem parseRecordsWith (alike : ∀ name, Alike related (first name) (second name))
    (records : List RawRecord) :
    Alike related (parseRecordsWith first records) (parseRecordsWith second records) := by
  induction records with
  | nil => exact Alike.pure []
  | cons record later inductionHypothesis =>
      apply Alike.bind
      · unfold RawRecord.parseWith?
        cases record.outline? with
        | none => exact Alike.pure none
        | some outline =>
            exact (resolveAll alike _).bind fun names => Alike.pure (some (outline.named names))
      · intro parsed
        exact inductionHypothesis.bind fun others => Alike.pure (parsed.toList ++ others)

theorem indexRecordsWith (alike : ∀ name, Alike related (first name) (second name))
    (records : List RawRecord) :
    Alike related (indexRecordsWith first records) (indexRecordsWith second records) :=
  (parseRecordsWith alike records).bind fun classes => Alike.pure (Index.ofClasses classes)

theorem compareWith (alike : ∀ name, Alike related (first name) (second name))
    (whitelist : NameSet) (index : Index) (metadata : Metadata) :
    Alike related (metadata.compareWith first whitelist index)
      (metadata.compareWith second whitelist index) := by
  have sets (names : NameSet) : Alike related (resolveSet first names) (resolveSet second names) :=
    (resolveAll alike names.toList).bind fun used => Alike.pure (NameSet.ofList used)
  refine (sets metadata.declared).bind fun declared => ?_
  exact (sets metadata.referenced).bind fun referenced => Alike.pure _

theorem analyzeWith (alike : ∀ name, Alike related (first name) (second name))
    (whitelist : NameSet) (dump selectorText : List Char) :
    Alike related (analyzeWith first whitelist dump selectorText)
      (analyzeWith second whitelist dump selectorText) := by
  unfold DeadSymbols.analyzeWith
  generalize Metadata.ofTexts dump selectorText = metadata
  dsimp only
  cases metadata.isEmpty with
  | true => exact Alike.pure Findings.none
  | false =>
      apply Alike.bind
      · refine (indexRecordsWith alike metadata.native).bind fun native => ?_
        exact (indexRecordsWith alike metadata.bridged).bind fun bridged => Alike.pure _
      · exact fun index => compareWith alike whitelist index metadata

/-! ### Questions of a pool -/

theorem turn (alike : ∀ name, Alike related (first name) (second name)) (place : Nat)
    (tasks : List Task) : Alike related (turn first place tasks) (turn second place tasks) := by
  induction tasks generalizing place with
  | nil => cases place <;> exact Alike.pure []
  | cons task later inductionHypothesis =>
      cases place with
      | zero =>
          apply Alike.bind
          · unfold Task.step
            cases task.waiting with
            | nil => exact Alike.pure task
            | cons token left =>
                apply Alike.bind
                · exact (alike token).bind fun answer => Alike.pure (orRaw token answer)
                · exact fun name => Alike.pure _
          · exact fun stepped => Alike.pure (stepped :: later)
      | succ place =>
          exact (inductionHypothesis place).bind fun others => Alike.pure (task :: others)

theorem runSchedule (alike : ∀ name, Alike related (first name) (second name))
    (schedule : List Nat) (tasks : List Task) :
    Alike related (runSchedule first schedule tasks) (runSchedule second schedule tasks) := by
  induction schedule generalizing tasks with
  | nil => exact Alike.pure tasks
  | cons place later inductionHypothesis =>
      exact (turn alike place tasks).bind fun next => inductionHypothesis next

theorem finishAll (alike : ∀ name, Alike related (first name) (second name))
    (tasks : List Task) : Alike related (finishAll first tasks) (finishAll second tasks) := by
  induction tasks with
  | nil => exact Alike.pure []
  | cons task later inductionHypothesis =>
      apply Alike.bind
      · exact (resolveAll alike task.waiting).bind fun names => Alike.pure _
      · intro finished
        exact inductionHypothesis.bind fun others => Alike.pure (finished :: others)

theorem indexRecordsPooled (alike : ∀ name, Alike related (first name) (second name))
    (schedule : List Nat) (records : List RawRecord) :
    Alike related (indexRecordsPooled first schedule records)
      (indexRecordsPooled second schedule records) := by
  refine (runSchedule alike schedule (tasksOf records)).bind fun tasks => ?_
  exact (finishAll alike tasks).bind fun finished => Alike.pure _

/-! ### Questions through a memo -/

/-- The memos are the same, and the states behind them are related. -/
def Beside (related : σ → τ → Prop) (left : Cache × σ) (right : Cache × τ) : Prop :=
  left.1 = right.1 ∧ related left.2 right.2

theorem callStep (alike : ∀ name, Alike related (first name) (second name)) (call : Call) :
    Alike (Beside related) (call.step first) (call.step second) := by
  rintro ⟨cache, left⟩ ⟨_, right⟩ ⟨rfl, holds⟩
  obtain ⟨name, stage⟩ := call
  cases stage with
  | asked =>
      cases found : cache.get? name with
      | some given =>
          rw [step_hit found, step_hit found]
          exact ⟨rfl, rfl, holds⟩
      | none =>
          rw [step_miss found, step_miss found]
          exact ⟨rfl, rfl, holds⟩
  | missed =>
      obtain ⟨same, after⟩ := alike name left right holds
      rw [step_missed, step_missed, same]
      exact ⟨rfl, rfl, after⟩
  | answered given => exact ⟨rfl, rfl, holds⟩
  | finished given => exact ⟨rfl, rfl, holds⟩

theorem stepCaller (alike : ∀ name, Alike related (first name) (second name))
    (caller : List Call) :
    Alike (Beside related) (stepCaller first caller) (stepCaller second caller) := by
  induction caller with
  | nil => exact Alike.pure []
  | cons call later inductionHypothesis =>
      unfold Name.stepCaller
      cases call.isFinished with
      | true => exact inductionHypothesis.bind fun others => Alike.pure (call :: others)
      | false => exact (callStep alike call).bind fun stepped => Alike.pure (stepped :: later)

/-- The callers and the memo are the same, and the states behind the memo are related. -/
def Sharing (related : σ → τ → Prop) (left : Shared σ) (right : Shared τ) : Prop :=
  left.callers = right.callers ∧ left.cache = right.cache ∧ related left.state right.state

theorem sharedRun (alike : ∀ name, Alike related (first name) (second name))
    (schedule : List Nat) (left : Shared σ) (right : Shared τ)
    (sharing : Sharing related left right) :
    Sharing related (left.run first schedule) (right.run second schedule) := by
  induction schedule generalizing left right with
  | nil => exact sharing
  | cons place later inductionHypothesis =>
      apply inductionHypothesis
      obtain ⟨callers, cache, state⟩ := left
      obtain ⟨_, _, other⟩ := right
      obtain ⟨rfl, rfl, holds⟩ := sharing
      cases found : callers[place]? with
      | none =>
          rw [Shared.turn_none found, Shared.turn_none found]
          exact ⟨rfl, rfl, holds⟩
      | some caller =>
          obtain ⟨same, sameCache, after⟩ :=
            stepCaller alike caller (cache, state) (cache, other) ⟨rfl, holds⟩
          rw [Shared.turn_some found, Shared.turn_some found]
          exact ⟨congrArg (callers.set place) same, sameCache, after⟩

theorem indexRecordsShared (alike : ∀ name, Alike related (first name) (second name))
    (schedule : List Nat) (records : List RawRecord) :
    Alike (Beside related) (indexRecordsShared first schedule records)
      (indexRecordsShared second schedule records) := by
  rintro ⟨cache, left⟩ ⟨_, right⟩ ⟨rfl, holds⟩
  unfold DeadSymbols.indexRecordsShared
  dsimp only
  generalize records.filterMap RawRecord.outline? = outlines
  generalize outlines.map Outline.classTokens = requests
  -- The rounds depend on the calls alone, so both sides go through the same ones.
  obtain ⟨callers, sameCache, after⟩ :=
    sharedRun alike (schedule ++ (Shared.start requests cache left).rounds)
      (Shared.start requests cache left) (Shared.start requests cache right) ⟨rfl, rfl, holds⟩
  refine ⟨?_, sameCache, after⟩
  rw [callers]
  rfl

end Analyses

end Alike

/-! ### Answers by name under an invariant -/

variable {kept : σ → Prop}

/-- From states with the invariant, the computation gives the value and keeps the invariant. -/
def Yields (kept : σ → Prop) (action : StateM σ α) (value : α) : Prop :=
  ∀ state, kept state → (action state).1 = value ∧ kept (action state).2

theorem yields_pure (value : α) : Yields kept (pure value) value := fun _ holds => ⟨rfl, holds⟩

theorem Yields.bind {action : StateM σ α} {next : α → StateM σ β} {value : α} {result : β}
    (first : Yields kept action value) (second : Yields kept (next value) result) :
    Yields kept (action >>= next) result := by
  intro state holds
  obtain ⟨rfl, after⟩ := first state holds
  exact second _ after

def Keeps (kept : σ → Prop) (action : StateM σ α) : Prop :=
  ∀ state, kept state → kept (action state).2

/-- A result on which nothing depends leaves the value as it is. -/
theorem Keeps.bind {action : StateM σ α} {next : α → StateM σ β} {result : β}
    (first : Keeps kept action) (second : ∀ value, Yields kept (next value) result) :
    Yields kept (action >>= next) result :=
  fun state holds => second _ _ (first state holds)

/-- A computation that is alike to one without a state gives that one's value. -/
theorem Alike.yields {action : StateM σ α} {stateless : StateM Unit α}
    (alike : Alike (fun state _ => kept state) action stateless) :
    Yields kept action (stateless ()).1 :=
  fun state holds => alike state () holds

namespace Name

variable {demangler : Demangler σ} {answer : String → Option String}

/-- As long as its state keeps the invariant, the demangler's answer to a name is the given one. -/
def AnswersWhile (kept : σ → Prop) (demangler : Demangler σ) (answer : String → Option String) :
    Prop :=
  ∀ name, Yields kept (demangler name) (answer name)

/-- The demangler that has the given answers and no state. -/
def fixed (answer : String → Option String) : Demangler Unit := fun name => pure (answer name)

theorem fixed_answersBy (answer : String → Option String) : AnswersBy (fixed answer) answer :=
  fun _ _ => rfl

/-- The memo holds right answers only, and the state behind it keeps the invariant. -/
def Memoized (answer : String → Option String) (kept : σ → Prop) (state : Cache × σ) : Prop :=
  Right answer state.1 ∧ kept state.2

namespace AnswersWhile

theorem alike (answers : AnswersWhile kept demangler answer) (name : String) :
    Alike (fun state _ => kept state) (demangler name) (fixed answer name) :=
  fun state _ holds => answers name state holds

theorem indexRecordsWith (answers : AnswersWhile kept demangler answer)
    (records : List RawRecord) :
    Yields kept (indexRecordsWith demangler records) (indexRecords (naming answer) records) := by
  rw [← (fixed_answersBy answer).indexRecordsWith records ()]
  exact (Alike.indexRecordsWith answers.alike records).yields

theorem indexRecordsPooled (answers : AnswersWhile kept demangler answer) (schedule : List Nat)
    (records : List RawRecord) :
    Yields kept (indexRecordsPooled demangler schedule records)
      (indexRecords (naming answer) records) := by
  rw [← (fixed_answersBy answer).indexRecordsPooled schedule records ()]
  exact (Alike.indexRecordsPooled answers.alike schedule records).yields

theorem compareWith (answers : AnswersWhile kept demangler answer) (whitelist : NameSet)
    (index : Index) (metadata : Metadata) :
    Yields kept (metadata.compareWith demangler whitelist index)
      { unusedClasses := unusedClasses (metadata.declared.image (naming answer))
          (metadata.referenced.image (naming answer))
        unusedMethods := unusedMethods index metadata.selectors whitelist } := by
  rw [← (fixed_answersBy answer).compareWith whitelist index metadata ()]
  exact (Alike.compareWith answers.alike whitelist index metadata).yields

theorem analyzeWith (answers : AnswersWhile kept demangler answer) (whitelist : NameSet)
    (dump selectorText : List Char) :
    Yields kept (analyzeWith demangler whitelist dump selectorText)
      (analyze (naming answer) whitelist dump selectorText) := by
  rw [← (fixed_answersBy answer).analyzeWith whitelist dump selectorText ()]
  exact (Alike.analyzeWith answers.alike whitelist dump selectorText).yields

/-- A memo with right answers in it gives the answers of the demangler behind it. -/
theorem memo (answers : AnswersWhile kept demangler answer) :
    AnswersWhile (Memoized answer kept) (memo demangler) answer := by
  rintro name ⟨cache, state⟩ ⟨right, holds⟩
  obtain ⟨given, after⟩ := answers name state holds
  cases found : cache.get? name with
  | some remembered =>
      have hit : Name.memo demangler name (cache, state) = (remembered, (cache, state)) := by
        simp only [Name.memo, found]
      rw [hit]
      exact ⟨right name remembered found, right, holds⟩
  | none =>
      have miss : Name.memo demangler name (cache, state) =
          (answer name, (cache.set name (answer name), (demangler name state).2)) := by
        simp only [Name.memo, found]
        rw [← given]
        rfl
      have noted : Noted answer [name] cache (cache.set name (answer name)) :=
        Or.inr ⟨name, List.mem_singleton_self name, rfl⟩
      rw [miss]
      exact ⟨rfl, noted.right right, after⟩

theorem indexRecordsShared (answers : AnswersWhile kept demangler answer) (schedule : List Nat)
    (records : List RawRecord) :
    Yields (Memoized answer kept) (indexRecordsShared demangler schedule records)
      (indexRecords (naming answer) records) := by
  rintro ⟨cache, state⟩ ⟨right, holds⟩
  obtain ⟨same, sameCache, after⟩ :=
    Alike.indexRecordsShared answers.alike schedule records (cache, state) (cache, ()) ⟨rfl, holds⟩
  obtain ⟨index, rightAfter⟩ :=
    (fixed_answersBy answer).indexRecordsShared right schedule records ()
  exact ⟨same.trans index, sameCache ▸ rightAfter, after⟩

end AnswersWhile

end Name

end DeadSymbols
