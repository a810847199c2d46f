import DeadSymbols.Name.Shared
import DeadSymbols.Proofs.Ordered
import DeadSymbols.Proofs.Pool

/-!
Contract: what callers of a shared memo get, under every schedule.

One step of a call does one of two things to the memo: nothing, or it writes the inner demangler's
answer under the call's own name. When the inner demangler answers by name, such a write never
changes an answer that is there, however many callers missed the name before. So the memo holds
right answers only, and a finished call has the right one, which the memo holds as well. Each step
keeps that, hence every turn and every schedule does. A step also brings its call nearer to its end,
so a caller is finished once it had three turns for each of its calls.

Owns: `Sound`, the steps left, the laws of runs, the index through a shared memo.
-/

namespace DeadSymbols.Name

open DeadSymbols.Dump

variable {σ : Type} {inner : Demangler σ} {answer : String → Option String} {cache after : Cache}
  {state : σ}

/-! ### Right answers -/

def Right (answer : String → Option String) (cache : Cache) : Prop :=
  ∀ name given, cache.get? name = some given → given = answer name

/-- The memo is as before, or one of the names has been written down with its answer. -/
def Noted (answer : String → Option String) (names : List String) (cache after : Cache) : Prop :=
  after = cache ∨ ∃ name ∈ names, after = cache.set name (answer name)

theorem right_empty : Right answer ∅ := by
  intro name given found
  exact absurd found.symm (Option.some_ne_none given)

theorem get?_set_answer {name other : String} {given : Option String}
    (found : (cache.set name (answer name)).get? other = some given) :
    (other = name ∧ given = answer name) ∨ cache.get? other = some given := by
  by_cases same : other = name
  · subst same
    rw [NameMap.get?_set_same] at found
    exact Or.inl ⟨rfl, (Option.some.inj found).symm⟩
  · rw [NameMap.get?_set_other same] at found
    exact Or.inr found

theorem Noted.right {names : List String} (noted : Noted answer names cache after)
    (right : Right answer cache) : Right answer after := by
  rcases noted with rfl | ⟨name, _, rfl⟩
  · exact right
  · intro other given found
    rcases get?_set_answer found with ⟨rfl, given⟩ | before
    · exact given
    · exact right other given before

/-- An answer that is written down stays, since it can only be written over by itself. -/
theorem Noted.keeps {names : List String} {name : String} (noted : Noted answer names cache after)
    (found : cache.get? name = some (answer name)) : after.get? name = some (answer name) := by
  rcases noted with rfl | ⟨other, _, rfl⟩
  · exact found
  · by_cases same : name = other
    · subst same
      exact NameMap.get?_set_same
    · rw [NameMap.get?_set_other same]
      exact found

theorem Noted.mem_keys {names : List String} {name : String}
    (noted : Noted answer names cache after) (member : name ∈ after.keys) :
    name ∈ names ∨ name ∈ cache.keys := by
  rcases noted with rfl | ⟨other, requested, rfl⟩
  · exact Or.inr member
  · obtain ⟨given, found⟩ := NameMap.mem_keys.mp member
    rcases get?_set_answer found with ⟨rfl, _⟩ | before
    · exact Or.inl requested
    · exact Or.inr (NameMap.mem_keys.mpr ⟨given, before⟩)

theorem Noted.mono {names more : List String} (noted : Noted answer names cache after)
    (within : ∀ name ∈ names, name ∈ more) : Noted answer more cache after := by
  rcases noted with same | ⟨name, member, written⟩
  · exact Or.inl same
  · exact Or.inr ⟨name, within name member, written⟩

/-! ### One call -/

section Steps

variable {name : String} {given : Option String}

theorem step_hit (found : cache.get? name = some given) :
    Call.step inner ⟨name, .asked⟩ (cache, state) = (⟨name, .finished given⟩, (cache, state)) := by
  simp only [Call.step, found]

theorem step_miss (absent : cache.get? name = none) :
    Call.step inner ⟨name, .asked⟩ (cache, state) = (⟨name, .missed⟩, (cache, state)) := by
  simp only [Call.step, absent]

theorem step_missed :
    Call.step inner ⟨name, .missed⟩ (cache, state) =
      (⟨name, .answered (inner name state).1⟩, (cache, (inner name state).2)) := rfl

theorem step_answered :
    Call.step inner ⟨name, .answered given⟩ (cache, state) =
      (⟨name, .finished given⟩, (cache.set name given, state)) := rfl

theorem step_finished :
    Call.step inner ⟨name, .finished given⟩ (cache, state) =
      (⟨name, .finished given⟩, (cache, state)) := rfl

end Steps

/-- What a call knows at its stage is right, and once it is finished the memo knows it too. -/
def Call.Sound (answer : String → Option String) (cache : Cache) (call : Call) : Prop :=
  match call.stage with
  | .asked => True
  | .missed => True
  | .answered given => given = answer call.name
  | .finished given => given = answer call.name ∧ cache.get? call.name = some (answer call.name)

theorem Call.Sound.noted {names : List String} {call : Call} (sound : call.Sound answer cache)
    (noted : Noted answer names cache after) : call.Sound answer after := by
  obtain ⟨name, stage⟩ := call
  cases stage with
  | asked => trivial
  | missed => trivial
  | answered given => exact sound
  | finished given => exact ⟨sound.1, noted.keeps sound.2⟩

theorem Call.step_sound {call : Call} (answers : AnswersBy inner answer)
    (right : Right answer cache) (sound : call.Sound answer cache) (state : σ) :
    (call.step inner (cache, state)).1.name = call.name ∧
      (call.step inner (cache, state)).1.Sound answer (call.step inner (cache, state)).2.1 ∧
      Noted answer [call.name] cache (call.step inner (cache, state)).2.1 := by
  obtain ⟨name, stage⟩ := call
  cases stage with
  | asked =>
      cases found : cache.get? name with
      | some given =>
          have known := right name given found
          rw [step_hit found]
          exact ⟨rfl, ⟨known, known ▸ found⟩, Or.inl rfl⟩
      | none =>
          rw [step_miss found]
          exact ⟨rfl, trivial, Or.inl rfl⟩
  | missed =>
      rw [step_missed]
      exact ⟨rfl, answers name state, Or.inl rfl⟩
  | answered given =>
      -- The only step that writes. What it writes is right, so it may hide an earlier write.
      have known : given = answer name := sound
      subst known
      rw [step_answered]
      exact ⟨rfl, ⟨rfl, NameMap.get?_set_same⟩, Or.inr ⟨name, List.mem_singleton_self name, rfl⟩⟩
  | finished given =>
      rw [step_finished]
      exact ⟨rfl, sound, Or.inl rfl⟩

theorem Call.isFinished_iff {call : Call} :
    call.isFinished = true ↔ ∃ given, call.stage = .finished given := by
  obtain ⟨name, stage⟩ := call
  cases stage <;> simp [Call.isFinished]

theorem Call.Sound.of_finished {call : Call} {given : Option String}
    (sound : call.Sound answer cache) (finished : call.stage = .finished given) :
    given = answer call.name ∧ cache.get? call.name = some (answer call.name) := by
  rw [Call.Sound, finished] at sound
  exact sound

theorem Call.Sound.resolved {call : Call} (sound : call.Sound answer cache)
    (finished : call.isFinished = true) : call.resolved = naming answer call.name := by
  obtain ⟨given, stage⟩ := Call.isFinished_iff.mp finished
  simp only [Call.resolved, stage, (sound.of_finished stage).1, naming]

/-! ### One caller -/

theorem stepCaller_finished {call : Call} {later : List Call} (finished : call.isFinished = true) :
    stepCaller inner (call :: later) (cache, state) =
      (call :: (stepCaller inner later (cache, state)).1,
        (stepCaller inner later (cache, state)).2) := by
  rw [stepCaller, if_pos finished]
  rfl

theorem stepCaller_unfinished {call : Call} {later : List Call}
    (unfinished : call.isFinished = false) :
    stepCaller inner (call :: later) (cache, state) =
      ((call.step inner (cache, state)).1 :: later, (call.step inner (cache, state)).2) := by
  rw [stepCaller, if_neg (by rw [unfinished]; exact Bool.false_ne_true)]
  rfl

theorem stepCaller_sound {caller : List Call} (answers : AnswersBy inner answer)
    (right : Right answer cache) (sound : ∀ call ∈ caller, call.Sound answer cache) (state : σ) :
    (stepCaller inner caller (cache, state)).1.map Call.name = caller.map Call.name ∧
      (∀ call ∈ (stepCaller inner caller (cache, state)).1,
        call.Sound answer (stepCaller inner caller (cache, state)).2.1) ∧
      Noted answer (caller.map Call.name) cache (stepCaller inner caller (cache, state)).2.1 := by
  induction caller with
  | nil => exact ⟨rfl, sound, Or.inl rfl⟩
  | cons call later inductionHypothesis =>
      obtain ⟨here, others⟩ := List.forall_mem_cons.mp sound
      cases finished : call.isFinished with
      | true =>
          obtain ⟨names, soundLater, noted⟩ := inductionHypothesis others
          rw [stepCaller_finished finished]
          refine ⟨?_, ?_, noted.mono fun name member => List.mem_cons_of_mem _ member⟩
          · rw [List.map_cons, names, List.map_cons]
          · exact List.forall_mem_cons.mpr ⟨here.noted noted, soundLater⟩
      | false =>
          obtain ⟨name, soundHere, noted⟩ := call.step_sound answers right here state
          rw [stepCaller_unfinished finished]
          refine ⟨?_, ?_, noted.mono ?_⟩
          · rw [List.map_cons, name, List.map_cons]
          · refine List.forall_mem_cons.mpr ⟨soundHere, ?_⟩
            intro other member
            exact (others other member).noted noted
          · intro name member
            rw [List.mem_singleton.mp member]
            exact List.mem_cons_self

/-! ### All callers -/

namespace Shared

variable {shared : Shared σ}

def requests (shared : Shared σ) : List (List String) := shared.callers.map (·.map Call.name)

structure Sound (answer : String → Option String) (shared : Shared σ) : Prop where
  right : Right answer shared.cache
  calls : ∀ caller ∈ shared.callers, ∀ call ∈ caller, call.Sound answer shared.cache

theorem requests_start (requests : List (List String)) (cache : Cache) (state : σ) :
    (start requests cache state).requests = requests := by
  have named : Call.name ∘ Call.ask = id := rfl
  simp [start, Shared.requests, named]

theorem sound_start (requests : List (List String)) (state : σ) (right : Right answer cache) :
    (start requests cache state).Sound answer := by
  refine ⟨right, ?_⟩
  intro caller member call inCaller
  obtain ⟨names, _, rfl⟩ := List.mem_map.mp member
  obtain ⟨name, _, rfl⟩ := List.mem_map.mp inCaller
  trivial

theorem turn_none {place : Nat} (absent : shared.callers[place]? = none) :
    shared.turn inner place = shared := by
  rw [turn, absent]

theorem turn_some {place : Nat} {caller : List Call}
    (found : shared.callers[place]? = some caller) :
    shared.turn inner place =
      { callers := shared.callers.set place
          (stepCaller inner caller (shared.cache, shared.state)).1
        cache := (stepCaller inner caller (shared.cache, shared.state)).2.1
        state := (stepCaller inner caller (shared.cache, shared.state)).2.2 } := by
  rw [turn, found]
  rfl

theorem Sound.turn (sound : shared.Sound answer) (answers : AnswersBy inner answer) (place : Nat) :
    (shared.turn inner place).Sound answer ∧
      (shared.turn inner place).requests = shared.requests ∧
      Noted answer shared.requests.flatten shared.cache (shared.turn inner place).cache := by
  cases found : shared.callers[place]? with
  | none =>
      rw [turn_none found]
      exact ⟨sound, rfl, Or.inl rfl⟩
  | some caller =>
      have inCallers := List.mem_of_getElem? found
      obtain ⟨names, soundCaller, noted⟩ :=
        stepCaller_sound answers sound.right (sound.calls caller inCallers) shared.state
      rw [turn_some found]
      refine ⟨⟨noted.right sound.right, ?_⟩, ?_, noted.mono ?_⟩
      · intro other member call inOther
        rcases List.mem_or_eq_of_mem_set member with before | rfl
        · exact (sound.calls other before call inOther).noted noted
        · exact soundCaller call inOther
      · -- The caller's names are those it had, so the list of requests has nothing to set.
        have unchanged : shared.requests[place]? = some (caller.map Call.name) := by
          rw [requests, List.getElem?_map, found, Option.map_some]
        show (shared.callers.set place _).map _ = shared.requests
        obtain ⟨_, value⟩ := List.getElem?_eq_some_iff.mp unchanged
        rw [List.map_set, names, ← value]
        exact List.set_getElem_self _
      · intro name member
        exact List.mem_flatten.mpr ⟨_, List.mem_map_of_mem inCallers, member⟩

theorem Sound.run (sound : shared.Sound answer) (answers : AnswersBy inner answer)
    (schedule : List Nat) :
    (shared.run inner schedule).Sound answer ∧
      (shared.run inner schedule).requests = shared.requests := by
  induction schedule generalizing shared with
  | nil => exact ⟨sound, rfl⟩
  | cons place later inductionHypothesis =>
      obtain ⟨soundNext, same, _⟩ := sound.turn answers place
      obtain ⟨soundEnd, sameLater⟩ := inductionHypothesis soundNext
      exact ⟨soundEnd, sameLater.trans same⟩

/-- A name comes into the memo only by being asked for. -/
theorem Sound.mem_keys_run {name : String} (sound : shared.Sound answer)
    (answers : AnswersBy inner answer) (schedule : List Nat)
    (member : name ∈ (shared.run inner schedule).cache.keys) :
    name ∈ shared.requests.flatten ∨ name ∈ shared.cache.keys := by
  induction schedule generalizing shared with
  | nil => exact Or.inr member
  | cons place later inductionHypothesis =>
      obtain ⟨soundNext, same, noted⟩ := sound.turn answers place
      rcases inductionHypothesis soundNext member with requested | inNext
      · exact Or.inl (same ▸ requested)
      · exact noted.mem_keys inNext

theorem isFinished_of_mem {caller : List Call} {call : Call} (finished : shared.isFinished = true)
    (inCallers : caller ∈ shared.callers) (inCaller : call ∈ caller) : call.isFinished = true := by
  have finishedCaller := List.all_eq_true.mp finished caller inCallers
  exact List.all_eq_true.mp finishedCaller call inCaller

/-- Once all calls are finished, the memo holds every name that was asked for. -/
theorem Sound.mem_keys_of_finished {name : String} (sound : shared.Sound answer)
    (finished : shared.isFinished = true) (requested : name ∈ shared.requests.flatten) :
    name ∈ shared.cache.keys := by
  obtain ⟨names, inRequests, inNames⟩ := List.mem_flatten.mp requested
  obtain ⟨caller, inCallers, rfl⟩ := List.mem_map.mp inRequests
  obtain ⟨call, inCaller, rfl⟩ := List.mem_map.mp inNames
  obtain ⟨given, stage⟩ := Call.isFinished_iff.mp (isFinished_of_mem finished inCallers inCaller)
  have known := (sound.calls caller inCallers call inCaller).of_finished stage
  exact NameMap.mem_keys.mpr ⟨answer call.name, known.2⟩

theorem Sound.resolved_of_finished (sound : shared.Sound answer)
    (finished : shared.isFinished = true) :
    shared.callers.map (·.map Call.resolved) = shared.requests.map (·.map (naming answer)) := by
  rw [requests, List.map_map]
  apply List.map_congr_left
  intro caller inCallers
  rw [Function.comp_apply, List.map_map]
  apply List.map_congr_left
  intro call inCaller
  apply (sound.calls caller inCallers call inCaller).resolved
  exact isFinished_of_mem finished inCallers inCaller

/-- From an empty memo, the names in it at the end are those that were asked for. -/
theorem mem_keys_run_start_iff {requests : List (List String)} {schedule : List Nat} {name : String}
    (answers : AnswersBy inner answer)
    (finished : ((start requests ∅ state).run inner schedule).isFinished = true) :
    name ∈ ((start requests ∅ state).run inner schedule).cache.keys ↔ name ∈ requests.flatten := by
  have nothing : Right answer ∅ := right_empty
  have begun := sound_start requests state nothing
  have asked := requests_start requests ∅ state
  obtain ⟨sound, same⟩ := begun.run answers schedule
  constructor
  · intro member
    rcases begun.mem_keys_run answers schedule member with requested | inEmpty
    · exact asked ▸ requested
    · exact absurd inEmpty List.not_mem_nil
  · intro requested
    apply sound.mem_keys_of_finished finished
    rw [same, asked]
    exact requested

end Shared

/-! ### Steps left -/

def Stage.left : Stage → Nat
  | .asked => 3
  | .missed => 2
  | .answered _ => 1
  | .finished _ => 0

def stepsLeft : List Call → Nat
  | [] => 0
  | call :: later => call.stage.left + stepsLeft later

theorem Call.left_eq_zero_iff {call : Call} : call.stage.left = 0 ↔ call.isFinished = true := by
  obtain ⟨name, stage⟩ := call
  cases stage <;> simp [Stage.left, Call.isFinished]

theorem Call.left_step (inner : Demangler σ) (call : Call) (cache : Cache) (state : σ) :
    (call.step inner (cache, state)).1.stage.left ≤ call.stage.left - 1 := by
  obtain ⟨name, stage⟩ := call
  cases stage with
  | asked =>
      cases found : cache.get? name with
      | some given => simp [step_hit found, Stage.left]
      | none => simp [step_miss found, Stage.left]
  | missed => simp [step_missed, Stage.left]
  | answered given => simp [step_answered, Stage.left]
  | finished given => simp [step_finished, Stage.left]

theorem stepsLeft_stepCaller (inner : Demangler σ) (caller : List Call) (cache : Cache) (state : σ) :
    stepsLeft (stepCaller inner caller (cache, state)).1 ≤ stepsLeft caller - 1 := by
  induction caller with
  | nil => exact Nat.le_refl 0
  | cons call later inductionHypothesis =>
      cases finished : call.isFinished with
      | true =>
          have nothingHere := Call.left_eq_zero_iff.mpr finished
          rw [stepCaller_finished finished]
          simp only [stepsLeft]
          omega
      | false =>
          have unfinishedHere : call.stage.left ≠ 0 := by
            rw [ne_eq, Call.left_eq_zero_iff, finished]
            exact Bool.false_ne_true
          have next := call.left_step inner cache state
          rw [stepCaller_unfinished finished]
          simp only [stepsLeft]
          omega

theorem stepsLeft_le (caller : List Call) : stepsLeft caller ≤ 3 * caller.length := by
  induction caller with
  | nil => exact Nat.le_refl 0
  | cons call later inductionHypothesis =>
      have here : call.stage.left ≤ 3 := by cases call.stage <;> simp [Stage.left]
      simp only [stepsLeft, List.length_cons]
      omega

theorem all_isFinished_of_stepsLeft {caller : List Call} (nothing : stepsLeft caller = 0) :
    caller.all Call.isFinished = true := by
  induction caller with
  | nil => rfl
  | cons call later inductionHypothesis =>
      rw [stepsLeft, Nat.add_eq_zero_iff] at nothing
      rw [List.all_cons, Call.left_eq_zero_iff.mp nothing.1, inductionHypothesis nothing.2]
      rfl

namespace Shared

variable {shared : Shared σ}

def leftAt (shared : Shared σ) (place : Nat) : Nat :=
  stepsLeft (shared.callers[place]?.getD [])

theorem leftAt_turn (inner : Demangler σ) (shared : Shared σ) (place other : Nat) :
    (shared.turn inner place).leftAt other ≤
      shared.leftAt other - (if place = other then 1 else 0) := by
  cases found : shared.callers[place]? with
  | none =>
      rw [turn_none found]
      by_cases same : place = other
      · subst same
        simp [leftAt, found, stepsLeft]
      · simp [same]
  | some caller =>
      rw [turn_some found]
      by_cases same : place = other
      · subst same
        obtain ⟨bound, _⟩ := List.getElem?_eq_some_iff.mp found
        have next := stepsLeft_stepCaller inner caller shared.cache shared.state
        simpa only [leftAt, List.getElem?_set_self bound, found, Option.getD_some, if_pos] using next
      · simp [leftAt, same]

/-- Every turn of a caller is a step less, whatever the others do in between. -/
theorem leftAt_run (inner : Demangler σ) (shared : Shared σ) (schedule : List Nat) (place : Nat) :
    (shared.run inner schedule).leftAt place ≤ shared.leftAt place - schedule.count place := by
  induction schedule generalizing shared with
  | nil => exact Nat.le_refl _
  | cons first later inductionHypothesis =>
      have next := leftAt_turn inner shared first place
      have rest := inductionHypothesis (shared.turn inner first)
      rw [List.count_cons]
      simp only [beq_iff_eq]
      exact rest.trans (by omega)

theorem isFinished_run {schedule : List Nat}
    (enough : ∀ place, shared.leftAt place ≤ schedule.count place) :
    (shared.run inner schedule).isFinished = true := by
  apply List.all_eq_true.mpr
  intro caller member
  obtain ⟨place, found⟩ := List.mem_iff_getElem?.mp member
  have left := leftAt_run inner shared schedule place
  have turns := enough place
  apply all_isFinished_of_stepsLeft
  rw [leftAt, found, Option.getD_some] at left
  omega

theorem leftAt_le_rounds (place : Nat) : shared.leftAt place ≤ shared.rounds.count place := by
  cases found : shared.callers[place]? with
  | none => simp [leftAt, found, stepsLeft]
  | some caller =>
      obtain ⟨bound, _⟩ := List.getElem?_eq_some_iff.mp found
      have once : (List.range shared.callers.length).count place = 1 :=
        List.count_eq_one_of_mem List.nodup_range (List.mem_range.mpr bound)
      have shorter : caller.length ≤ shared.callers.flatten.length :=
        (List.sublist_flatten_of_mem (List.mem_of_getElem? found)).length_le
      have left := stepsLeft_le caller
      rw [leftAt, found, Option.getD_some, rounds, List.count_flatten, List.map_replicate, once,
        List.sum_replicate_nat]
      omega

/-- Every run can be brought to an end, by the rounds behind its schedule. -/
theorem isFinished_run_rounds (schedule : List Nat) :
    (shared.run inner (schedule ++ shared.rounds)).isFinished = true := by
  apply isFinished_run
  intro place
  rw [List.count_append]
  exact (leftAt_le_rounds place).trans (Nat.le_add_left _ _)

theorem turn_single (call : Call) (cache : Cache) (state : σ) :
    turn inner ⟨[[call]], cache, state⟩ 0 =
      ⟨[[(call.step inner (cache, state)).1]], (call.step inner (cache, state)).2.1,
        (call.step inner (cache, state)).2.2⟩ := by
  obtain ⟨name, stage⟩ := call
  cases stage <;> rfl

/-- A call that nothing interrupts is a call of the memo. -/
theorem run_alone (name : String) (cache : Cache) (state : σ) :
    (start [[name]] cache state).run inner [0, 0, 0] =
      { callers := [[{ name, stage := .finished (memo inner name (cache, state)).1 }]]
        cache := (memo inner name (cache, state)).2.1
        state := (memo inner name (cache, state)).2.2 } := by
  have turns : (start [[name]] cache state).run inner [0, 0, 0] =
      turn inner (turn inner (turn inner ⟨[[⟨name, .asked⟩]], cache, state⟩ 0) 0) 0 := rfl
  cases found : cache.get? name with
  | some given =>
      rw [turns, turn_single, step_hit found, turn_single, step_finished, turn_single,
        step_finished]
      simp only [memo, found]
  | none =>
      rw [turns, turn_single, step_miss found, turn_single, step_missed, turn_single, step_answered]
      simp only [memo, found]
      rfl

end Shared

/-! ### Records -/

/-- Through a shared memo, with right answers in it from before, records have the index of the
renamed records under every schedule, and the answers in the memo stay right. -/
theorem AnswersBy.indexRecordsShared (answers : AnswersBy inner answer) (right : Right answer cache)
    (schedule : List Nat) (records : List RawRecord) (state : σ) :
    (indexRecordsShared inner schedule records (cache, state)).1 =
        indexRecords (naming answer) records ∧
      Right answer (indexRecordsShared inner schedule records (cache, state)).2.1 := by
  unfold DeadSymbols.indexRecordsShared
  dsimp only
  generalize outlined : records.filterMap RawRecord.outline? = outlines
  generalize begins : Shared.start (outlines.map Outline.classTokens) cache state = begun
  have begunSound : begun.Sound answer := begins ▸ Shared.sound_start _ state right
  have begunRequests : begun.requests = outlines.map Outline.classTokens :=
    begins ▸ Shared.requests_start _ cache state
  obtain ⟨sound, same⟩ := begunSound.run answers (schedule ++ begun.rounds)
  refine ⟨?_, sound.right⟩
  rw [sound.resolved_of_finished (Shared.isFinished_run_rounds schedule), same, begunRequests,
    List.map_map, List.zipWith_map_right, List.zipWith_self]
  simp only [Function.comp_apply, Outline.named_map]
  rw [← outlined, map_resolve_outlines, indexRecords]

/-! ### Transparency -/

/-- Callers share an empty memo around a demangler that answers by name. After every schedule the
finished calls have the answers to their names, which lead to the names in use that the inner
demangler gives when it is asked directly, and the memo holds right answers only. Once all calls are
finished, and every run can get there, the names in the memo are those that were asked for. Records
that are indexed through a memo with right answers have the index of records that ask the inner
demangler directly, in turn or on a pool, and leave right answers behind. -/
theorem shared_memo_transparent (answers : AnswersBy inner answer) (requests : List (List String))
    (schedule : List Nat) (state : σ) :
    let after := (Shared.start requests ∅ state).run inner schedule
    after.requests = requests ∧
      (∀ caller ∈ after.callers, ∀ call ∈ caller, ∀ given, call.stage = .finished given →
        given = answer call.name ∧
          ∀ other, orRaw call.name given = (resolve inner call.name other).1) ∧
      (∀ name given, after.cache.get? name = some given → given = answer name) ∧
      (after.isFinished = true →
        (∀ name, name ∈ after.cache.keys ↔ name ∈ requests.flatten) ∧
          after.cache.size = requests.flatten.toFinset.card) ∧
      (∃ later, (after.run inner later).isFinished = true) ∧
      ∀ cache, Right answer cache → ∀ records other,
        let indexed := indexRecordsShared inner schedule records (cache, state)
        indexed.1 = (indexRecordsWith inner records other).1 ∧
          (∀ otherSchedule, indexed.1 = (indexRecordsPooled inner otherSchedule records other).1) ∧
          Right answer indexed.2.1 := by
  have nothing : Right answer ∅ := right_empty
  obtain ⟨sound, same⟩ := (Shared.sound_start requests state nothing).run answers schedule
  refine ⟨same.trans (Shared.requests_start requests ∅ state), ?_, sound.right, ?_, ?_, ?_⟩
  · intro caller inCallers call inCaller given finished
    obtain ⟨known, _⟩ := (sound.calls caller inCallers call inCaller).of_finished finished
    refine ⟨known, ?_⟩
    intro other
    rw [known]
    exact answers.allows call.name other
  · intro finished
    refine ⟨fun name => Shared.mem_keys_run_start_iff answers finished, NameMap.size_eq_card ?_⟩
    intro name
    rw [Shared.mem_keys_run_start_iff answers finished, List.mem_toFinset]
  · exact ⟨_, Shared.isFinished_run_rounds []⟩
  · intro cache right records other
    obtain ⟨shared, rightLeft⟩ := answers.indexRecordsShared right schedule records state
    refine ⟨?_, ?_, rightLeft⟩
    · rw [answers.indexRecordsWith]
      exact shared
    · intro otherSchedule
      rw [answers.indexRecordsPooled]
      exact shared

/-- Two callers that both miss a name and both ask for it, before one of them goes on to a name
without an answer. The inner demangler keeps the names that it is asked for. -/
theorem shared_memo_transparent_overlap :
    let names : NameMap String := NameMap.empty.set "_TtA" "A"
    let inner : Demangler (List String) := fun name asked => (names.get? name, asked ++ [name])
    let requests := [["_TtA"], ["_TtA", "B"]]
    let after := (Shared.start requests ∅ []).run inner [0, 1, 0, 1, 1, 0, 1, 1, 1]
    AnswersBy inner names.get? ∧ after.isFinished = true ∧ after.state = ["_TtA", "_TtA", "B"] ∧
      (∀ name, name ∈ after.cache.keys ↔ name ∈ requests.flatten) ∧ after.cache.size = 2 ∧
      after.cache.get? "B" = some none := by
  intro names inner requests after
  have answers : AnswersBy inner names.get? := fun _ _ => rfl
  have finished : after.isFinished = true := by decide
  obtain ⟨_, _, _, atEnd, _⟩ :=
    shared_memo_transparent answers requests [0, 1, 0, 1, 1, 0, 1, 1, 1] []
  obtain ⟨keys, size⟩ := atEnd finished
  exact ⟨answers, finished, by decide, keys, size.trans (by decide), by decide⟩

end DeadSymbols.Name
