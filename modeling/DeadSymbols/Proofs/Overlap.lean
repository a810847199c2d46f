import DeadSymbols.Proofs.Shared
import Mathlib.Order.Bounds.Basic

/-!
Contract: how often the callers of a shared memo ask the inner demangler.

A call is open from the moment it misses its name until it has written the answer down. Nothing is
locked in between, so any number of calls on one name may be open at the same time, and each of them
asks. Until the first answer is written, the calls that have missed the name are those that are open;
afterwards no call misses it any more. So the inner demangler is asked for a name exactly as often as
calls on it were open at the same time at the worst moment. A caller has one open call at most, hence
a name is asked for once per caller at most, and once at all only when its calls never overlap.

Owns: the record of questions, open calls, one turn as seen from a name, the number of questions.
-/

namespace DeadSymbols.Name

variable {σ : Type} {inner : Demangler σ} {cache : Cache} {state : σ} {name : String}

/-- A demangler that also keeps the names that it is asked for, in order. -/
def recording (inner : Demangler σ) : Demangler (σ × List String) := fun name (state, asked) =>
  ((inner name state).1, ((inner name state).2, asked ++ [name]))

/-! ### Open calls -/

def Stage.isOpen : Stage → Bool
  | .asked => false
  | .missed => true
  | .answered _ => true
  | .finished _ => false

/-- The call has missed the name, and its answer is not written down yet. -/
def Call.opens (name : String) (call : Call) : Bool := call.name = name && call.stage.isOpen

/-- The call has missed the name and is about to ask for it. -/
def Call.waits (name : String) (call : Call) : Bool := call.name = name && call.stage = .missed

namespace Shared

/-- How many calls on a name are open. -/
def openCalls (name : String) (shared : Shared σ) : Nat :=
  shared.callers.flatten.countP (Call.opens name)

/-- How many calls are about to ask for a name. -/
def waitingCalls (name : String) (shared : Shared σ) : Nat :=
  shared.callers.flatten.countP (Call.waits name)

/-- How often a name has been asked for. -/
def questions (name : String) (shared : Shared (σ × List String)) : Nat :=
  shared.state.2.count name

/-- How many calls have missed a name so far: they have asked for it, or are about to. -/
def misses (name : String) (shared : Shared (σ × List String)) : Nat :=
  shared.questions name + shared.waitingCalls name

end Shared

/-! ### Which call moves -/

theorem Call.step_name (inner : Demangler σ) (call : Call) (cache : Cache) (state : σ) :
    (call.step inner (cache, state)).1.name = call.name := by
  obtain ⟨own, stage⟩ := call
  cases stage with
  | asked =>
      cases found : cache.get? own with
      | some given => rw [step_hit found]
      | none => rw [step_miss found]
  | missed => rfl
  | answered given => rfl
  | finished given => rfl

/-- A caller is through with its calls, or its first call that is not finished takes a step. -/
theorem stepCaller_cases (inner : Demangler σ) (caller : List Call) (cache : Cache) (state : σ) :
    stepCaller inner caller (cache, state) = (caller, (cache, state)) ∨
      ∃ ended call later, caller = ended ++ call :: later ∧
        (∀ other ∈ ended, other.isFinished = true) ∧ call.isFinished = false ∧
        stepCaller inner caller (cache, state) =
          (ended ++ (call.step inner (cache, state)).1 :: later,
            (call.step inner (cache, state)).2) := by
  induction caller with
  | nil => exact Or.inl rfl
  | cons head tail inductionHypothesis =>
      cases finished : head.isFinished with
      | false =>
          refine Or.inr ⟨[], head, tail, rfl, ?_, finished, stepCaller_unfinished finished⟩
          exact fun other member => absurd member List.not_mem_nil
      | true =>
          rw [stepCaller_finished finished]
          rcases inductionHypothesis with same | ⟨ended, call, later, rfl, done, unfinished, moved⟩
          · rw [same]
            exact Or.inl rfl
          · rw [moved]
            refine Or.inr ⟨head :: ended, call, later, rfl, ?_, unfinished, rfl⟩
            exact List.forall_mem_cons.mpr ⟨finished, done⟩

namespace Shared

/-- A turn passes, or one call of one caller takes a step, behind calls that are finished. -/
theorem turn_cases (inner : Demangler σ) (shared : Shared σ) (place : Nat) :
    shared.turn inner place = shared ∨
      ∃ front ended call later back,
        shared.callers = front ++ (ended ++ call :: later) :: back ∧
        (∀ other ∈ ended, other.isFinished = true) ∧ call.isFinished = false ∧
        shared.turn inner place =
          { callers := front ++
              (ended ++ (call.step inner (shared.cache, shared.state)).1 :: later) :: back
            cache := (call.step inner (shared.cache, shared.state)).2.1
            state := (call.step inner (shared.cache, shared.state)).2.2 } := by
  cases found : shared.callers[place]? with
  | none => exact Or.inl (turn_none found)
  | some caller =>
      obtain ⟨bound, here⟩ := List.getElem?_eq_some_iff.mp found
      have split : shared.callers =
          shared.callers.take place ++ caller :: shared.callers.drop (place + 1) := by
        rw [← here, List.getElem_cons_drop, List.take_append_drop]
      rw [turn_some found]
      rcases stepCaller_cases inner caller shared.cache shared.state with
        same | ⟨ended, call, later, rfl, done, unfinished, moved⟩
      · refine Or.inl ?_
        rw [same, ← here, List.set_getElem_self]
      · refine Or.inr ⟨_, ended, call, later, _, split, done, unfinished, ?_⟩
        rw [moved, List.set_eq_take_append_cons_drop, if_pos bound]

end Shared

/-! ### One turn, seen from a name -/

/-- What a step of a call means for a name: nothing, or the call misses the name, which the memo does
not hold, or it writes the name down. The counts are of this call alone. -/
theorem Call.step_effect (inner : Demangler σ) (name : String) (cache : Cache) (state : σ)
    (asked : List String) {call : Call} (unfinished : call.isFinished = false) :
    let next := call.step (recording inner) (cache, (state, asked))
    let before := asked.count name + (call.waits name).toNat
    let after := next.2.2.2.count name + (next.1.waits name).toNat
    (after = before ∧ (next.1.opens name).toNat = (call.opens name).toNat ∧
        next.2.1.get? name = cache.get? name) ∨
      (after = before + 1 ∧ (next.1.opens name).toNat = (call.opens name).toNat + 1 ∧
        cache.get? name = none ∧ next.2.1.get? name = none) ∨
      (after = before ∧ (next.1.opens name).toNat + 1 = (call.opens name).toNat ∧
        next.2.1.get? name ≠ none) := by
  obtain ⟨own, stage⟩ := call
  by_cases same : own = name
  · subst same
    cases stage with
    | asked =>
        cases found : cache.get? own with
        | some given =>
            left
            simp [step_hit found, found, Call.waits, Call.opens, Stage.isOpen]
        | none =>
            right; left
            simp [step_miss found, found, Call.waits, Call.opens, Stage.isOpen]
    | missed =>
        -- The step that ends the waiting is the one that is recorded.
        left
        simp [step_missed, recording, Call.waits, Call.opens, Stage.isOpen]
    | answered given =>
        right; right
        simp [step_answered, Call.waits, Call.opens, Stage.isOpen]
    | finished given => exact absurd unfinished Bool.noConfusion
  · left
    cases stage with
    | asked =>
        cases found : cache.get? own with
        | some given => simp [step_hit found, Call.waits, Call.opens, same]
        | none => simp [step_miss found, Call.waits, Call.opens, same]
    | missed => simp [step_missed, recording, Call.waits, Call.opens, same]
    | answered given =>
        simp [step_answered, Call.waits, Call.opens, same, NameMap.get?_set_other (Ne.symm same)]
    | finished given => exact absurd unfinished Bool.noConfusion

/-- A count over all calls, with one of them counted apart. -/
theorem countP_flatten_split (test : Call → Bool) (front back : List (List Call))
    (ended later : List Call) (call : Call) :
    (front ++ (ended ++ call :: later) :: back).flatten.countP test =
      (test call).toNat + (front.flatten ++ ended ++ later ++ back.flatten).countP test := by
  simp only [List.flatten_append, List.flatten_cons, List.countP_append, List.countP_cons]
  cases test call <;> simp <;> omega

namespace Shared

/-- One turn, seen from a name: nothing happens, or a call misses the name, which the memo does not
hold, or an open call writes it down. -/
theorem turn_effect (inner : Demangler σ) (name : String) (shared : Shared (σ × List String))
    (place : Nat) :
    let next := shared.turn (recording inner) place
    (next.misses name = shared.misses name ∧ next.openCalls name = shared.openCalls name ∧
        next.cache.get? name = shared.cache.get? name) ∨
      (next.misses name = shared.misses name + 1 ∧
        next.openCalls name = shared.openCalls name + 1 ∧ shared.cache.get? name = none ∧
        next.cache.get? name = none) ∨
      (next.misses name = shared.misses name ∧ next.openCalls name + 1 = shared.openCalls name ∧
        next.cache.get? name ≠ none) := by
  intro next
  rcases turn_cases (recording inner) shared place with
    same | ⟨front, ended, call, later, back, callers, _, unfinished, moved⟩
  · left
    rw [show next = shared from same]
    exact ⟨rfl, rfl, rfl⟩
  · obtain ⟨_, cache, state, asked⟩ := shared
    subst callers
    rw [show next = _ from moved]
    simp only [misses, questions, waitingCalls, openCalls, countP_flatten_split]
    -- The counts over the other calls are the same on both sides.
    rcases Call.step_effect inner name cache state asked unfinished with
      ⟨count, opens, known⟩ | ⟨count, opens, known⟩ | ⟨count, opens, known⟩
    · left
      exact ⟨by omega, by omega, known⟩
    · right; left
      exact ⟨by omega, by omega, known⟩
    · right; right
      exact ⟨by omega, by omega, known⟩

/-! ### The number of questions -/

/-- Before a name is in the memo, the calls that have missed it are all open; at no time are more of
them open. -/
def Tallied (name : String) (shared : Shared (σ × List String)) : Prop :=
  shared.openCalls name ≤ shared.misses name ∧
    (shared.cache.get? name = none → shared.misses name = shared.openCalls name)

theorem Tallied.turn {shared : Shared (σ × List String)} (tallied : shared.Tallied name)
    (inner : Demangler σ) (place : Nat) : (shared.turn (recording inner) place).Tallied name := by
  obtain ⟨bound, early⟩ := tallied
  rcases turn_effect inner name shared place with
    ⟨misses, opens, known⟩ | ⟨misses, opens, absent, _⟩ | ⟨misses, opens, present⟩
  · refine ⟨by omega, ?_⟩
    intro absent
    rw [misses, opens, early (known ▸ absent)]
  · have level := early absent
    exact ⟨by omega, fun _ => by omega⟩
  · exact ⟨by omega, fun absent => absurd absent present⟩

theorem openCalls_start (requests : List (List String)) (cache : Cache) (state : σ) :
    (start requests cache state).openCalls name = 0 := by
  rw [openCalls, List.countP_eq_zero]
  intro call member
  obtain ⟨caller, inCallers, inCaller⟩ := List.mem_flatten.mp member
  obtain ⟨names, _, rfl⟩ := List.mem_map.mp inCallers
  obtain ⟨own, _, rfl⟩ := List.mem_map.mp inCaller
  simp [Call.opens, Call.ask, Stage.isOpen]

theorem waitingCalls_le_openCalls (name : String) (shared : Shared σ) :
    shared.waitingCalls name ≤ shared.openCalls name := by
  apply List.countP_mono_left
  intro call _ waits
  simp only [Call.waits, Call.opens, Bool.and_eq_true, decide_eq_true_eq] at waits ⊢
  exact ⟨waits.1, by rw [waits.2]; rfl⟩

theorem misses_start (requests : List (List String)) (cache : Cache) (state : σ) :
    (start requests cache (state, [])).misses name = 0 := by
  have waiting := waitingCalls_le_openCalls name (start requests cache (state, ([] : List String)))
  rw [openCalls_start] at waiting
  rw [misses, Nat.le_zero.mp waiting]
  rfl

theorem tallied_start (requests : List (List String)) (cache : Cache) (state : σ) :
    (start requests cache (state, [])).Tallied name := by
  rw [Tallied, misses_start, openCalls_start]
  exact ⟨Nat.le_refl 0, fun _ => rfl⟩

theorem run_concat (inner : Demangler σ) (shared : Shared σ) (schedule : List Nat) (place : Nat) :
    shared.run inner (schedule ++ [place]) = (shared.run inner schedule).turn inner place := by
  rw [run, run, List.foldl_append]
  rfl

/-- At the worst moment of a run, as many calls on a name are open as miss it in the whole run. -/
theorem misses_run_isGreatest (inner : Demangler σ) (name : String) (requests : List (List String))
    (state : σ) (schedule : List Nat) :
    let begun := start requests ∅ (state, [])
    (begun.run (recording inner) schedule).Tallied name ∧
      IsGreatest { count | ∃ earlier, earlier <+: schedule ∧
          count = (begun.run (recording inner) earlier).openCalls name }
        ((begun.run (recording inner) schedule).misses name) := by
  intro begun
  induction schedule using List.reverseRecOn with
  | nil =>
      refine ⟨tallied_start requests ∅ state, ?_, ?_⟩
      · exact ⟨[], List.prefix_rfl, (misses_start requests ∅ state).trans
          (openCalls_start requests ∅ (state, [])).symm⟩
      · rintro _ ⟨earlier, front, rfl⟩
        rw [List.prefix_nil.mp front]
        exact (tallied_start requests ∅ state).1
  | append_singleton schedule place inductionHypothesis =>
      obtain ⟨tallied, ⟨worst, worstFront, reached⟩, bound⟩ := inductionHypothesis
      have talliedNext := tallied.turn inner place
      rw [run_concat]
      refine ⟨talliedNext, ?_, ?_⟩
      · -- A further miss is a new worst moment: the name is not in the memo, so nothing has closed.
        rcases turn_effect inner name (begun.run (recording inner) schedule) place with
          ⟨misses, _, _⟩ | ⟨_, _, _, absent⟩ | ⟨misses, _, _⟩
        · exact ⟨worst, worstFront.trans (List.prefix_append _ _), misses.trans reached⟩
        · refine ⟨schedule ++ [place], List.prefix_rfl, ?_⟩
          rw [run_concat]
          exact talliedNext.2 absent
        · exact ⟨worst, worstFront.trans (List.prefix_append _ _), misses.trans reached⟩
      · rintro _ ⟨earlier, front, rfl⟩
        rcases List.prefix_concat_iff.mp front with rfl | inside
        · rw [run_concat]
          exact talliedNext.1
        · have within := bound ⟨earlier, inside, rfl⟩
          rcases turn_effect inner name (begun.run (recording inner) schedule) place with
            ⟨misses, _, _⟩ | ⟨misses, _, _, _⟩ | ⟨misses, _, _⟩ <;> omega

/-! ### Calls of one caller -/

/-- Of any two calls of a caller, the earlier is finished or the later has not begun. -/
def InTurn (caller : List Call) : Prop :=
  caller.Pairwise fun earlier later => earlier.isFinished = true ∨ later.stage = .asked

theorem opens_eq_false_of_asked {call : Call} (asked : call.stage = .asked) :
    call.opens name = false := by
  rw [Call.opens, asked, Stage.isOpen, Bool.and_false]

theorem opens_eq_false_of_finished {call : Call} (finished : call.isFinished = true) :
    call.opens name = false := by
  obtain ⟨given, stage⟩ := Call.isFinished_iff.mp finished
  rw [Call.opens, stage, Stage.isOpen, Bool.and_false]

/-- A caller has one open call at most, and none on a name that it does not want. -/
theorem InTurn.countP_opens {caller : List Call} (inTurn : InTurn caller) (name : String) :
    caller.countP (Call.opens name) ≤ if name ∈ caller.map Call.name then 1 else 0 := by
  induction caller with
  | nil => exact Nat.zero_le _
  | cons head tail inductionHypothesis =>
      obtain ⟨headBefore, tailInTurn⟩ := List.pairwise_cons.mp inTurn
      cases opens : head.opens name with
      | true =>
          have noOther : tail.countP (Call.opens name) = 0 := by
            rw [List.countP_eq_zero]
            intro other member
            rcases headBefore other member with finished | asked
            · rw [opens_eq_false_of_finished finished] at opens
              exact absurd opens Bool.noConfusion
            · rw [opens_eq_false_of_asked asked]
              exact Bool.false_ne_true
          have own : head.name = name := by
            rw [Call.opens, Bool.and_eq_true, decide_eq_true_eq] at opens
            exact opens.1
          rw [List.countP_cons_of_pos opens, noOther, List.map_cons, own,
            if_pos List.mem_cons_self]
      | false =>
          rw [List.countP_cons_of_neg (by rw [opens]; exact Bool.false_ne_true)]
          refine (inductionHypothesis tailInTurn).trans ?_
          rw [List.map_cons]
          by_cases member : name ∈ tail.map Call.name
          · rw [if_pos member, if_pos (List.mem_cons_of_mem _ member)]
          · rw [if_neg member]
            exact Nat.zero_le _

/-- The callers' calls are in turn, and the callers want what they have always wanted. -/
def Orderly (requests : List (List String)) (shared : Shared σ) : Prop :=
  shared.requests = requests ∧ ∀ caller ∈ shared.callers, InTurn caller

theorem orderly_start (requests : List (List String)) (cache : Cache) (state : σ) :
    (start requests cache state).Orderly requests := by
  refine ⟨requests_start requests cache state, ?_⟩
  intro caller member
  obtain ⟨names, _, rfl⟩ := List.mem_map.mp member
  exact List.pairwise_map.mpr (List.pairwise_of_forall fun _ _ => Or.inr rfl)

theorem Orderly.turn {requests : List (List String)} {shared : Shared σ}
    (orderly : shared.Orderly requests) (inner : Demangler σ) (place : Nat) :
    (shared.turn inner place).Orderly requests := by
  obtain ⟨wanted, inTurn⟩ := orderly
  rcases turn_cases inner shared place with
    same | ⟨front, ended, call, later, back, callers, done, unfinished, moved⟩
  · rw [same]
    exact ⟨wanted, inTurn⟩
  · rw [Shared.requests, callers] at wanted
    rw [callers] at inTurn
    rw [moved]
    refine ⟨?_, ?_⟩
    · rw [← wanted]
      simp [Shared.requests, Call.step_name]
    · intro caller member
      rcases List.mem_append.mp member with before | here
      · exact inTurn caller (List.mem_append_left _ before)
      · rcases List.mem_cons.mp here with rfl | after
        · -- The call that moves stands behind finished calls and before calls that have not begun.
          have old := inTurn _ (List.mem_append_right front List.mem_cons_self)
          obtain ⟨endedInTurn, restInTurn, _⟩ := List.pairwise_append.mp old
          obtain ⟨notBegun, laterInTurn⟩ := List.pairwise_cons.mp restInTurn
          refine List.pairwise_append.mpr ⟨endedInTurn, List.pairwise_cons.mpr ⟨?_, laterInTurn⟩, ?_⟩
          · intro other inLater
            rcases notBegun other inLater with finished | asked
            · rw [unfinished] at finished
              exact absurd finished Bool.noConfusion
            · exact Or.inr asked
          · intro earlier inEnded other _
            exact Or.inl (done earlier inEnded)
        · exact inTurn caller (List.mem_append_right _ (List.mem_cons_of_mem _ after))

theorem Orderly.run {requests : List (List String)} {shared : Shared σ}
    (orderly : shared.Orderly requests) (inner : Demangler σ) (schedule : List Nat) :
    (shared.run inner schedule).Orderly requests := by
  induction schedule generalizing shared with
  | nil => exact orderly
  | cons place later inductionHypothesis => exact inductionHypothesis (orderly.turn inner place)

/-- At most one call per caller that wants the name is open. -/
theorem Orderly.openCalls_le {requests : List (List String)} {shared : Shared σ}
    (orderly : shared.Orderly requests) (name : String) :
    shared.openCalls name ≤ requests.countP (name ∈ ·) := by
  obtain ⟨rfl, inTurn⟩ := orderly
  rw [openCalls, Shared.requests]
  generalize shared.callers = callers at inTurn
  induction callers with
  | nil => exact Nat.le_refl 0
  | cons caller others inductionHypothesis =>
      obtain ⟨here, elsewhere⟩ := List.forall_mem_cons.mp inTurn
      have one := here.countP_opens name
      have rest := inductionHypothesis elsewhere
      rw [List.flatten_cons, List.countP_append, List.map_cons, List.countP_cons]
      simp only [decide_eq_true_eq]
      omega

theorem waitingCalls_of_finished {shared : Shared σ} (finished : shared.isFinished = true) :
    shared.waitingCalls name = 0 := by
  rw [waitingCalls, List.countP_eq_zero]
  intro call member
  obtain ⟨caller, inCallers, inCaller⟩ := List.mem_flatten.mp member
  obtain ⟨given, stage⟩ := Call.isFinished_iff.mp (isFinished_of_mem finished inCallers inCaller)
  simp [Call.waits, stage]

end Shared

/-! ### Once, or as often as calls overlap -/

/-- Callers share an empty memo around any demangler. At every moment of every run, the calls that
have asked for a name or are about to are as many as calls on it were open at the worst moment so
far, which is at most one per caller that wants it. Once all calls are finished, the name has been
asked for that often; so it was asked for at most once exactly when no two calls on it were ever open
at the same time, as it is for every run of a single caller. -/
theorem shared_memo_questions (inner : Demangler σ) (requests : List (List String))
    (schedule : List Nat) (state : σ) (name : String) :
    let begun := Shared.start requests ∅ (state, [])
    let after := begun.run (recording inner) schedule
    let openAfter := fun earlier => (begun.run (recording inner) earlier).openCalls name
    IsGreatest { count | ∃ earlier, earlier <+: schedule ∧ count = openAfter earlier }
        (after.questions name + after.waitingCalls name) ∧
      after.questions name ≤ requests.countP (name ∈ ·) ∧
      (after.isFinished = true →
        after.waitingCalls name = 0 ∧
          (after.questions name ≤ 1 ↔ ∀ earlier, earlier <+: schedule → openAfter earlier ≤ 1)) := by
  intro begun after openAfter
  obtain ⟨_, ⟨worst, front, reached⟩, bound⟩ :=
    Shared.misses_run_isGreatest inner name requests state schedule
  have perCaller : openAfter worst ≤ requests.countP (name ∈ ·) :=
    ((Shared.orderly_start requests ∅ (state, [])).run (recording inner) worst).openCalls_le name
  have total : after.questions name + after.waitingCalls name = openAfter worst := reached
  refine ⟨⟨⟨worst, front, reached⟩, bound⟩, by omega, ?_⟩
  intro finished
  have nothing : after.waitingCalls name = 0 := Shared.waitingCalls_of_finished finished
  refine ⟨nothing, ?_, ?_⟩
  · intro once earlier inside
    have within : openAfter earlier ≤ after.questions name + after.waitingCalls name :=
      bound ⟨earlier, inside, rfl⟩
    omega
  · intro apart
    have alone := apart worst front
    omega

/-- Two callers that want one name, first one after the other and then with their calls mixed: the
inner demangler is asked once in the first run and twice in the second. -/
theorem shared_memo_questions_mixed :
    let begun := Shared.start [["_TtA"], ["_TtA"]] ∅ ((), [])
    let apart := begun.run (recording identity) [0, 0, 0, 1]
    let mixed := begun.run (recording identity) [0, 1, 0, 1, 0, 1]
    apart.isFinished = true ∧ apart.questions "_TtA" = 1 ∧
      (∀ earlier, earlier <+: [0, 0, 0, 1] →
        (begun.run (recording identity) earlier).openCalls "_TtA" ≤ 1) ∧
      mixed.isFinished = true ∧ mixed.questions "_TtA" = 2 ∧
      ¬ ∀ earlier, earlier <+: [0, 1, 0, 1, 0, 1] →
        (begun.run (recording identity) earlier).openCalls "_TtA" ≤ 1 := by
  intro begun apart mixed
  have apartFinished : apart.isFinished = true := by decide
  have apartOnce : apart.questions "_TtA" = 1 := by decide
  have mixedFinished : mixed.isFinished = true := by decide
  have mixedTwice : mixed.questions "_TtA" = 2 := by decide
  obtain ⟨_, _, atEnd⟩ :=
    shared_memo_questions identity [["_TtA"], ["_TtA"]] [0, 0, 0, 1] () "_TtA"
  obtain ⟨_, _, mixedAtEnd⟩ :=
    shared_memo_questions identity [["_TtA"], ["_TtA"]] [0, 1, 0, 1, 0, 1] () "_TtA"
  refine ⟨apartFinished, apartOnce, (atEnd apartFinished).2.mp (by rw [apartOnce]), mixedFinished,
    mixedTwice, ?_⟩
  intro never
  have once : mixed.questions "_TtA" ≤ 1 := (mixedAtEnd mixedFinished).2.mpr never
  omega

/-- The memo does not keep callers from asking for one name twice. -/
theorem shared_memo_asks_twice :
    ¬ ∀ (requests : List (List String)) (schedule : List Nat) (name : String),
      ((Shared.start requests ∅ ((), [])).run (recording identity) schedule).questions name ≤ 1 := by
  intro once
  have here := once [["_TtA"], ["_TtA"]] [0, 1, 0, 1] "_TtA"
  exact absurd here (by decide)

end DeadSymbols.Name
