import DeadSymbols.Proofs.Simulation

/-!
Contract: what a memo answers and what it asks, over calls that are made one after another.

A call on a name that the memo holds is answered from it and changes nothing. Any other call asks the
inner demangler and writes the answer down. So over a sequence of calls the inner demangler is asked for
the names that the memo does not hold, each where it occurs first, and for nothing else. It may answer a
name differently each time it is asked; only the first of these answers ever shows, also when it was that
there is no better name.

A memo around a memo holds nothing that the inner one does not hold, so it only answers earlier what the
inner one would have answered.

Owns: calls in turn, the transcript of a demangler, the names that a memo passes on, memos in memos.
Does not own: calls that overlap (`Proofs.Overlap`).
-/

namespace DeadSymbols.Name

variable {σ τ : Type} {inner : Demangler σ} {cache : Cache} {state : σ} {name : String}
  {given : Option String} {names later : List String}

/-! ### Calls in turn -/

/-- The answers to names that are asked for one after another. -/
def askAll (demangler : Demangler σ) : List String → StateM σ (List (Option String))
  | [] => return []
  | name :: later => do
    let answer ← demangler name
    return answer :: (← askAll demangler later)

theorem askAll_nil (demangler : Demangler σ) : askAll demangler [] state = ([], state) := rfl

theorem askAll_cons (demangler : Demangler σ) :
    askAll demangler (name :: later) state =
      ((demangler name state).1 :: (askAll demangler later (demangler name state).2).1,
        (askAll demangler later (demangler name state).2).2) := rfl

theorem length_askAll (demangler : Demangler σ) (names : List String) (state : σ) :
    (askAll demangler names state).1.length = names.length := by
  induction names generalizing state with
  | nil => rfl
  | cons name later inductionHypothesis => simp [askAll_cons, inductionHypothesis]

theorem askAll_append (demangler : Demangler σ) (names later : List String) (state : σ) :
    (askAll demangler (names ++ later) state).2 =
      (askAll demangler later (askAll demangler names state).2).2 := by
  induction names generalizing state with
  | nil => rfl
  | cons name names inductionHypothesis =>
      simp only [List.cons_append, askAll_cons, inductionHypothesis]

/-- A demangler that also keeps the questions it is asked and the answers it gives, in order. -/
def transcribing (inner : Demangler σ) : Demangler (σ × List (String × Option String)) :=
  fun name (state, transcript) =>
    ((inner name state).1, ((inner name state).2, transcript ++ [(name, (inner name state).1)]))

/-- The transcript grows by the questions and their answers, and does not show otherwise. -/
theorem askAll_transcribing (inner : Demangler σ) (names : List String) (state : σ)
    (transcript : List (String × Option String)) :
    askAll (transcribing inner) names (state, transcript) =
      ((askAll inner names state).1,
        ((askAll inner names state).2, transcript ++ names.zip (askAll inner names state).1)) := by
  induction names generalizing state transcript with
  | nil => simp [askAll_nil]
  | cons name later inductionHypothesis =>
      simp [askAll_cons, transcribing, inductionHypothesis]

/-! ### One call -/

theorem memo_hit (found : cache.get? name = some given) :
    memo inner name (cache, state) = (given, (cache, state)) := by
  simp only [memo, found]

theorem memo_miss (absent : cache.get? name = none) :
    memo inner name (cache, state) =
      ((inner name state).1, (cache.set name (inner name state).1, (inner name state).2)) := by
  simp only [memo, absent]
  rfl

/-! ### What is passed on -/

/-- The names that a memo does not hold, each where it occurs first. -/
def unseen (cache : Cache) (names : List String) : List String :=
  (names.filter fun name => (cache.get? name).isNone).eraseDups

theorem unseen_empty (names : List String) : unseen ∅ names = names.eraseDups := by
  simp [unseen]

theorem unseen_hit (found : cache.get? name = some given) :
    unseen cache (name :: later) = unseen cache later := by
  simp [unseen, found]

theorem unseen_miss (absent : cache.get? name = none) (given : Option String) :
    unseen cache (name :: later) = name :: unseen (cache.set name given) later := by
  have rest : (later.filter fun other => (cache.get? other).isNone).filter (fun other => !other == name) =
      later.filter fun other => ((cache.set name given).get? other).isNone := by
    rw [List.filter_filter]
    apply List.filter_congr
    intro other _
    by_cases same : other = name
    · simp [same]
    · simp [same, NameMap.get?_set_other same]
  rw [unseen, List.filter_cons_of_pos (by simp [absent]), List.eraseDups_cons, rest, unseen]

theorem mem_unseen : name ∈ unseen cache names ↔ name ∈ names ∧ cache.get? name = none := by
  simp [unseen, List.mem_eraseDups, List.mem_filter]

theorem nodup_unseen (cache : Cache) (names : List String) : (unseen cache names).Nodup := by
  induction names generalizing cache with
  | nil => exact List.nodup_nil
  | cons name later inductionHypothesis =>
      cases found : cache.get? name with
      | some given =>
          rw [unseen_hit found]
          exact inductionHypothesis cache
      | none =>
          rw [unseen_miss found none]
          refine List.nodup_cons.mpr ⟨?_, inductionHypothesis _⟩
          simp [mem_unseen]

/-- Each call is answered from the memo, or as the inner demangler answers when it is asked for the
unseen names alone; and that is all that the inner demangler is asked. -/
theorem askAll_memo (inner : Demangler σ) (names : List String) (cache : Cache) (state : σ) :
    let direct := askAll inner (unseen cache names) state
    let through := askAll (memo inner) names (cache, state)
    through.1.map some = names.map (fun name =>
        (cache.get? name).or (((unseen cache names).zip direct.1).lookup name)) ∧
      through.2.2 = direct.2 := by
  induction names generalizing cache state with
  | nil => exact ⟨rfl, rfl⟩
  | cons name later inductionHypothesis =>
      cases found : cache.get? name with
      | some given =>
          obtain ⟨answers, ends⟩ := inductionHypothesis cache state
          rw [unseen_hit found, askAll_cons (memo inner), memo_hit found]
          refine ⟨?_, ends⟩
          rw [List.map_cons, List.map_cons, answers, found, Option.some_or]
      | none =>
          obtain ⟨answers, ends⟩ :=
            inductionHypothesis (cache.set name (inner name state).1) (inner name state).2
          rw [unseen_miss found (inner name state).1, askAll_cons (memo inner), memo_miss found]
          refine ⟨?_, ends⟩
          rw [List.map_cons, List.map_cons, answers, found, askAll_cons, List.zip_cons_cons,
            List.lookup_cons_self, Option.none_or]
          refine congrArg (some (inner name state).1 :: ·) (List.map_congr_left fun other _ => ?_)
          -- A later call on the name finds it written down; for other names nothing has changed.
          by_cases same : other = name
          · simp [same, found]
          · rw [NameMap.get?_set_other same, List.lookup_cons, beq_false_of_ne same]

theorem mem_keys_askAll_memo (inner : Demangler σ) (names : List String) (cache : Cache) (state : σ) :
    name ∈ (askAll (memo inner) names (cache, state)).2.1.keys ↔
      name ∈ names ∨ name ∈ cache.keys := by
  induction names generalizing cache state with
  | nil => simp [askAll_nil]
  | cons head later inductionHypothesis =>
      cases found : cache.get? head with
      | some given =>
          have held : head ∈ cache.keys := NameMap.mem_keys.mpr ⟨given, found⟩
          rw [askAll_cons, memo_hit found, inductionHypothesis, List.mem_cons]
          grind
      | none =>
          rw [askAll_cons, memo_miss found, inductionHypothesis, List.mem_cons, NameMap.mem_keys,
            NameMap.mem_keys]
          by_cases same : name = head
          · simp [same]
          · simp [same, NameMap.get?_set_other same]

/-! ### Memos in memos -/

theorem askAll_alike {first : Demangler σ} {second : Demangler τ} {related : σ → τ → Prop}
    (alike : ∀ name, Alike related (first name) (second name)) (names : List String) :
    Alike related (askAll first names) (askAll second names) := by
  induction names with
  | nil => exact Alike.pure []
  | cons name later inductionHypothesis =>
      refine (alike name).bind fun answer => ?_
      exact inductionHypothesis.bind fun answers => Alike.pure (answer :: answers)

/-- What the outer memo holds, the inner one holds too; the rest is the same. -/
def Within (nested : Cache × (Cache × σ)) (plain : Cache × σ) : Prop :=
  nested.2 = plain ∧ ∀ name given, nested.1.get? name = some given → plain.1.get? name = some given

theorem memo_memo_alike (inner : Demangler σ) (name : String) :
    Alike Within (memo (memo inner) name) (memo inner name) := by
  rintro ⟨outer, memory⟩ ⟨cache, state⟩ ⟨same, within⟩
  subst same
  -- Whatever the outer memo writes down has just been read from the inner one or written there.
  have noted {after : Cache} {answer : Option String} (grown : ∀ other given,
      cache.get? other = some given → after.get? other = some given)
      (known : after.get? name = some answer) :
      ∀ other given, (outer.set name answer).get? other = some given →
        after.get? other = some given := by
    intro other given held
    by_cases isName : other = name
    · subst isName
      rw [NameMap.get?_set_same] at held
      rw [known, held]
    · rw [NameMap.get?_set_other isName] at held
      exact grown other given (within other given held)
  cases outerFound : outer.get? name with
  | some given =>
      rw [memo_hit outerFound, memo_hit (within name given outerFound)]
      exact ⟨rfl, rfl, within⟩
  | none =>
      rw [memo_miss outerFound]
      cases found : cache.get? name with
      | some given =>
          rw [memo_hit found]
          exact ⟨rfl, rfl, noted (fun _ _ held => held) found⟩
      | none =>
          rw [memo_miss found]
          refine ⟨rfl, rfl, noted ?_ NameMap.get?_set_same⟩
          intro other given held
          have different : other ≠ name := by
            intro isName
            rw [isName, found] at held
            exact absurd held.symm (Option.some_ne_none given)
          rw [NameMap.get?_set_other different]
          exact held

/-! ### First occurrences -/

/-- A memo that is called for names one after another, around any demangler. The inner demangler is
asked for the first occurrences of the names, in their order, and answers as it does when nothing else is
asked. Each call returns the answer to the first call on its name. After each call, the memo holds as
many names as were different so far. A further memo around it, whatever the first one holds already,
changes neither the answers nor what the inner demangler is asked. -/
theorem memo_asks_for_first_occurrences (inner : Demangler σ) (names : List String) (state : σ) :
    let through := askAll (memo inner) names (∅, state)
    let transcript := (askAll (memo (transcribing inner)) names (∅, (state, []))).2.2.2
    transcript.map Prod.fst = names.eraseDups ∧
      askAll inner names.eraseDups state = (transcript.map Prod.snd, through.2.2) ∧
      through.1.map some = names.map (fun name => transcript.lookup name) ∧
      (∀ count, (askAll (memo inner) (names.take count) (∅, state)).2.1.size =
        (names.take count).toFinset.card) ∧
      ∀ memory,
        let nested := askAll (memo (memo (transcribing inner))) names (∅, memory)
        let plain := askAll (memo (transcribing inner)) names memory
        nested.1 = plain.1 ∧ nested.2.2 = plain.2 := by
  intro through transcript
  obtain ⟨answers, ends⟩ := askAll_memo inner names ∅ state
  have written := (askAll_memo (transcribing inner) names ∅ (state, [])).2
  have long := length_askAll inner names.eraseDups state
  simp only [unseen_empty, NameMap.get?_empty, Option.none_or, askAll_transcribing] at answers ends written
  have calls : transcript = names.eraseDups.zip (askAll inner names.eraseDups state).1 :=
    congrArg Prod.snd written
  refine ⟨?_, ?_, ?_, ?_, ?_⟩
  · rw [calls, List.map_fst_zip long.ge]
  · rw [calls, List.map_snd_zip long.le]
    exact congrArg (Prod.mk _) ends.symm
  · rw [calls]
    exact answers
  · intro count
    apply NameMap.size_eq_card
    intro name
    rw [mem_keys_askAll_memo, List.mem_toFinset]
    simp [NameMap.mem_keys]
  · intro memory nested plain
    have within : Within (∅, memory) memory :=
      ⟨rfl, fun _ given held => absurd held.symm (Option.some_ne_none given)⟩
    obtain ⟨same, after, _⟩ :=
      askAll_alike (memo_memo_alike (transcribing inner)) names _ _ within
    exact ⟨same, after⟩

end DeadSymbols.Name
