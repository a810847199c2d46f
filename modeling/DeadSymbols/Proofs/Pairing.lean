import DeadSymbols.Proofs.ClassNames

/-!
Contract: the methods of a native record, line by line and without a state.

The reader of a native record goes through the lines with a selector pending. Here each line is
looked at on its own. An implementation line with a symbol gives the method of the symbol. One
without a symbol gives a method of the record's class if a name line waits for it: the last name line
before it, with no other implementation line in between. `waiting?` finds that name by looking back,
and `nativeMethods_eq_filterMap` says that the pending selector is nothing else.

A name line waits for one implementation line only, since the next one ends the wait, whether it has
a symbol or not.

Owns: `Waits`, `Yields`, and the reader's agreement with them.
-/

namespace DeadSymbols

open DeadSymbols.Name
open DeadSymbols.Text

namespace Dump

variable {texts : List (List Char)} {line : List Char} {token : String} {imp : ImpLine}
  {place name stop : Nat}

/-! ### Lines at places -/

/-- The line at a place is a name line with the token. -/
def NameAt (texts : List (List Char)) (place : Nat) (token : String) : Prop :=
  ∃ line, texts[place]? = some line ∧ NameLine line token

/-- The line at a place is an implementation line that says the given. -/
def ImpAt (texts : List (List Char)) (place : Nat) (imp : ImpLine) : Prop :=
  ∃ line, texts[place]? = some line ∧ imp.Spelled line

/-- A name line waits from its place on: up to `stop` there is no later name line and no
implementation line. It is the last name line before `stop`, and it stands behind the nearest
implementation line before `stop`, if there is one. -/
structure Waits (texts : List (List Char)) (stop name : Nat) (token : String) : Prop where
  before : name < stop
  named : NameAt texts name token
  lastName : ∀ place, name < place → place < stop → ∀ other, ¬ NameAt texts place other
  noImp : ∀ place, name < place → place < stop → ∀ imp, ¬ ImpAt texts place imp

/-- What the line at a place gives, as the record spells it. -/
inductive Yields (texts : List (List Char)) (place : Nat) : MethodToken → Prop where
  | symbol {owner selector : String} (isImp : ImpAt texts place (.symbol owner selector)) :
      Yields texts place { owner := some owner, selector }
  | stripped {name : Nat} {selector : String} (isImp : ImpAt texts place .stripped)
      (waits : Waits texts place name selector) : Yields texts place { owner := none, selector }

theorem nameAt_iff (here : texts[place]? = some line) :
    NameAt texts place token ↔ nameToken? line = some token := by
  simp [NameAt, here, nameToken?_eq_some_iff]

theorem impAt_iff (here : texts[place]? = some line) :
    ImpAt texts place imp ↔ impLine? line = some imp := by
  simp [ImpAt, here, impLine?_eq_some_iff_spelled]

/-! ### Who waits -/

/-- One line more: it starts a wait of its own, or it leaves the wait before it as it is. -/
theorem waits_succ (here : texts[stop]? = some line) :
    Waits texts (stop + 1) name token ↔
      (name = stop ∧ nameToken? line = some token) ∨
        (Waits texts stop name token ∧ Aside line) := by
  constructor
  · rintro ⟨before, named, lastName, noImp⟩
    by_cases last : name = stop
    · subst last
      exact Or.inl ⟨rfl, (nameAt_iff here).mp named⟩
    · have earlier : name < stop := by omega
      refine Or.inr ⟨⟨earlier, named, ?_, ?_⟩, ?_, ?_⟩
      · intro place above below
        exact lastName place above (by omega)
      · intro place above below
        exact noImp place above (by omega)
      · have noName := lastName stop earlier (by omega)
        simpa [nameAt_iff here, ← Option.eq_none_iff_forall_ne_some] using noName
      · have notImp := noImp stop earlier (by omega)
        simpa [impAt_iff here, ← Option.eq_none_iff_forall_ne_some] using notImp
  · rintro (⟨rfl, named⟩ | ⟨⟨before, named, lastName, noImp⟩, noName, notImp⟩)
    · refine ⟨by omega, (nameAt_iff here).mpr named, ?_, ?_⟩
      · intro place above below
        omega
      · intro place above below
        omega
    · refine ⟨by omega, named, ?_, ?_⟩
      · intro place above below other
        by_cases last : place = stop
        · simp [last, nameAt_iff here, noName]
        · exact lastName place above (by omega) other
      · intro place above below imp
        by_cases last : place = stop
        · simp [last, impAt_iff here, notImp]
        · exact noImp place above (by omega) imp

/-- The name that waits behind some lines, found by looking back to the last implementation line. -/
def waiting? (front : List (List Char)) : Option String :=
  (front.reverse.takeWhile fun line => (impLine? line).isNone).findSome? nameToken?

/-- What a line is to the wait: a name, an implementation or neither. -/
theorem line_cases (line : List Char) :
    (∃ token, nameToken? line = some token ∧ impLine? line = none) ∨
      (∃ imp, nameToken? line = none ∧ impLine? line = some imp) ∨ Aside line := by
  cases isImp : impLine? line with
  | some imp => exact Or.inr (Or.inl ⟨imp, nameToken?_eq_none_of_imp isImp, rfl⟩)
  | none =>
      cases named : nameToken? line with
      | some token => exact Or.inl ⟨token, rfl, rfl⟩
      | none => exact Or.inr (Or.inr ⟨named, isImp⟩)

section Front

variable {front : List (List Char)}

theorem waiting?_name (named : nameToken? line = some token) (notImp : impLine? line = none) :
    waiting? (front ++ [line]) = some token := by
  simp [waiting?, named, notImp]

theorem waiting?_imp (isImp : impLine? line = some imp) : waiting? (front ++ [line]) = none := by
  simp [waiting?, isImp]

theorem waiting?_aside (aside : Aside line) : waiting? (front ++ [line]) = waiting? front := by
  simp [waiting?, aside.1, aside.2]

end Front

/-- Looking back finds the name line that waits. -/
theorem waiting?_take_eq_some_iff (inside : stop ≤ texts.length) :
    waiting? (texts.take stop) = some token ↔ ∃ name, Waits texts stop name token := by
  induction stop with
  | zero =>
      refine iff_of_false (Option.some_ne_none token).symm ?_
      rintro ⟨name, waits⟩
      exact Nat.not_lt_zero name waits.before
  | succ stop inductionHypothesis =>
      have here : texts[stop]? = some texts[stop] := List.getElem?_eq_getElem inside
      have shorter := inductionHypothesis (by omega)
      rw [← List.take_concat_get' texts stop inside]
      simp only [waits_succ here]
      generalize texts[stop] = line
      rcases line_cases line with ⟨other, named, notImp⟩ | ⟨imp, notName, isImp⟩ | aside
      · simp [waiting?_name named notImp, named, Aside]
      · simp [waiting?_imp isImp, notName, isImp, Aside]
      · simp [waiting?_aside aside, shorter, aside, aside.1]

/-- Two implementation lines for which one name line waits are the same. -/
theorem Waits.imp_unique {first second : Nat} {other : String} {firstImp secondImp : ImpLine}
    (waits : Waits texts first name token) (isImp : ImpAt texts first firstImp)
    (otherWaits : Waits texts second name other) (otherImp : ImpAt texts second secondImp) :
    first = second := by
  by_contra different
  rcases Nat.lt_or_gt_of_ne different with earlier | later
  · exact otherWaits.noImp first waits.before earlier firstImp isImp
  · exact waits.noImp second otherWaits.before later secondImp otherImp

/-! ### The reader -/

/-- The method of an implementation line, given the name that waits for it. -/
def ImpLine.yield? (waiting : Option String) : ImpLine → Option MethodToken
  | .symbol owner selector => some { owner := some owner, selector }
  | .stripped => waiting.map fun selector => { owner := none, selector }

/-- The method that the line at a place gives. -/
def methodAt? (texts : List (List Char)) (place : Nat) : Option MethodToken :=
  texts[place]?.bind fun line =>
    (impLine? line).bind (ImpLine.yield? (waiting? (texts.take place)))

theorem methodAt?_eq_some_iff {method : MethodToken} :
    methodAt? texts place = some method ↔ Yields texts place method := by
  simp only [methodAt?, Option.bind_eq_some_iff]
  constructor
  · rintro ⟨line, here, imp, isImp, given⟩
    have spelled : ImpAt texts place imp := (impAt_iff here).mpr isImp
    cases imp with
    | symbol owner selector =>
        rw [← Option.some.inj given]
        exact .symbol spelled
    | stripped =>
        obtain ⟨selector, waiting, rfl⟩ := Option.map_eq_some_iff.mp given
        have inside := (List.getElem?_eq_some_iff.mp here).1
        obtain ⟨name, waits⟩ := (waiting?_take_eq_some_iff (by omega)).mp waiting
        exact .stripped spelled waits
  · intro yields
    cases yields with
    | symbol isImp =>
        obtain ⟨line, here, spelled⟩ := isImp
        exact ⟨line, here, _, impLine?_eq_some_iff_spelled.mpr spelled, rfl⟩
    | stripped isImp waits =>
        obtain ⟨line, here, spelled⟩ := isImp
        have inside := (List.getElem?_eq_some_iff.mp here).1
        refine ⟨line, here, _, impLine?_eq_some_iff_spelled.mpr spelled, ?_⟩
        rw [ImpLine.yield?, (waiting?_take_eq_some_iff (by omega)).mpr ⟨_, waits⟩]
        rfl

/-- The reader's pending selector is the name that waits behind the lines read so far. -/
theorem nativeMethods_eq_filterMap (front rest : List (List Char)) :
    nativeMethods (waiting? front) rest =
      (List.range' front.length rest.length).filterMap (methodAt? (front ++ rest)) := by
  -- The lines read so far grow by one line in each step, and the list of all lines stays the same.
  induction rest generalizing front with
  | nil => rfl
  | cons line rest inductionHypothesis =>
      have later := inductionHypothesis (front ++ [line])
      rw [List.append_assoc, List.singleton_append, List.length_append, List.length_singleton] at later
      have here : methodAt? (front ++ line :: rest) front.length =
          (impLine? line).bind (ImpLine.yield? (waiting? front)) := by
        simp [methodAt?]
      rw [List.length_cons, List.range'_succ, List.filterMap_cons, here, ← later]
      rcases line_cases line with ⟨token, named, notImp⟩ | ⟨imp, notName, isImp⟩ | aside
      · rw [nativeMethods_name named, waiting?_name named notImp, notImp]
        rfl
      · rw [waiting?_imp isImp, isImp]
        cases imp with
        | symbol owner selector => exact nativeMethods_symbol notName isImp
        | stripped =>
            rw [nativeMethods_stripped notName isImp]
            cases waiting? front with
            | none => rfl
            | some selector => rfl
      · rw [nativeMethods_other aside.1 aside.2, waiting?_aside aside, aside.2]
        rfl

theorem nativeMethods_eq_range (texts : List (List Char)) :
    nativeMethods none texts = (List.range texts.length).filterMap (methodAt? texts) := by
  rw [List.range_eq_range']
  exact nativeMethods_eq_filterMap [] texts

/-- The method of a class that a token of its record stands for; the teardown hook for none. -/
def MethodToken.method? (rename : String → String) (className : String) (token : MethodToken) :
    Option Method :=
  if token.selector = teardownSelector then none
  else some (Method.of (rename (token.owner.getD className)) token.selector)

theorem Outline.resolve_eq (rename : String → String) (outline : Outline) :
    outline.resolve rename =
      ⟨rename outline.className,
        outline.methods.filterMap (MethodToken.method? rename outline.className)⟩ := by
  rw [Outline.resolve, ← List.filterMap_eq_map, List.filterMap_filter]
  congr 2
  funext token
  by_cases hook : token.selector = teardownSelector
  · simp [MethodToken.method?, hook]
  · simp [MethodToken.method?, hook]

end Dump

open DeadSymbols.Dump

variable {σ : Type}

/-- A native record with a class name gives one method for each implementation line behind it that
yields one, in the order of the lines. A symbol yields its own owner and selector. A line without
one yields the record's class and the last name between it and the implementation line before it,
and nothing if there is no such name. The teardown hook is dropped.

A name is paired with one implementation line at most, and none behind an implementation line uses a
name before that line. -/
theorem native_methods_line_by_line {demangler : Demangler σ} {answer : String → Option String}
    (answers : AnswersBy demangler answer) {body line : List Char}
    {before rest : List (List Char)} {className : String}
    (whole : lines body = before ++ line :: rest) (nameless : ∀ other ∈ before, Nameless other)
    (named : NameLine line className) (state : σ) :
    (∃ given : Nat → Option Method,
      (∀ place method, given place = some method ↔
        ∃ token, Yields rest place token ∧ token.selector ≠ teardownSelector ∧
          Method.of (naming answer (token.owner.getD className)) token.selector = method) ∧
      (RawRecord.parseWith? demangler ⟨.native, body⟩ state).1 =
        some ⟨naming answer className, (List.range rest.length).filterMap given⟩) ∧
      (∀ name first second firstToken secondToken firstImp secondImp,
        Waits rest first name firstToken → ImpAt rest first firstImp →
        Waits rest second name secondToken → ImpAt rest second secondImp → first = second) ∧
      ∀ place imp, ImpAt rest place imp → ∀ name later token, name < place → place < later →
        ¬ Waits rest later name token := by
  refine ⟨⟨fun place => (methodAt? rest place).bind
    (MethodToken.method? (naming answer) className), ?_, ?_⟩, ?_, ?_⟩
  · intro place method
    simp only [Option.bind_eq_some_iff, methodAt?_eq_some_iff, MethodToken.method?,
      Option.ite_none_left_eq_some, Option.some.injEq, ne_eq]
  · have outlined : RawRecord.outline? ⟨.native, body⟩ =
        some ⟨className, nativeMethods none rest⟩ := by
      rw [RawRecord.outline?, whole, classNameLine?_named nameless named]
      rfl
    rw [answers.parseWith?, RawRecord.parse?, outlined, Option.map_some, Outline.resolve_eq,
      nativeMethods_eq_range, List.filterMap_filterMap]
  · intro name first second firstToken secondToken firstImp secondImp waits isImp otherWaits otherImp
    exact waits.imp_unique isImp otherWaits otherImp
  · intro place imp isImp name later token above below waits
    exact waits.noImp place above below imp isImp

/-- Two names before one stripped line, an orphan behind it, a symbol under another selector than the
name before it, an orphan behind the symbol, and the teardown hook. -/
theorem native_methods_line_by_line_mixed :
    let names : NameMap String := NameMap.empty.set "_TtC3App5Panel" "App.Panel"
    let rest := [" name 0x2 run".toList, " name 0x3 walk".toList, " imp 0x4".toList,
      " imp 0x5".toList, " name 0x6 stop".toList, " imp 0x7 -[Base halt]".toList,
      " imp 0x8".toList, " name 0x9 .cxx_destruct".toList, " imp 0xa".toList]
    let body := "flags 0x80\n name 0x1 _TtC3App5Panel\n".toList ++ unlines rest
    lines body = ["flags 0x80".toList] ++ " name 0x1 _TtC3App5Panel".toList :: rest ∧
      (RawRecord.parseWith? (table names) ⟨.native, body⟩ ()).1 =
        some ⟨"App.Panel", [Method.of "App.Panel" "walk", Method.of "Base" "halt"]⟩ ∧
      (∃ given : Nat → Option Method,
        given 2 = some (Method.of "App.Panel" "walk") ∧
        (RawRecord.parseWith? (table names) ⟨.native, body⟩ ()).1 =
          some ⟨"App.Panel", (List.range rest.length).filterMap given⟩) ∧
      ∀ token, ¬ Waits rest 6 4 token := by
  intro names rest body
  have answers : AnswersBy (table names : Demangler Unit) names.get? := fun _ _ => rfl
  have whole : lines body = ["flags 0x80".toList] ++ " name 0x1 _TtC3App5Panel".toList :: rest := by
    decide +kernel
  have nameless : ∀ other ∈ ["flags 0x80".toList], Nameless other :=
    List.forall_mem_singleton.mpr (nameToken?_eq_none_iff.mp (by decide))
  have named : NameLine " name 0x1 _TtC3App5Panel".toList "_TtC3App5Panel" :=
    nameToken?_eq_some_iff.mp (by decide)
  obtain ⟨⟨given, gives, parsed⟩, _, ended⟩ :=
    native_methods_line_by_line answers whole nameless named ()
  have walked : Yields rest 2 { owner := none, selector := "walk" } :=
    methodAt?_eq_some_iff.mp (by decide +kernel)
  have halted : ImpAt rest 5 (.symbol "Base" "halt") := (impAt_iff rfl).mpr (by decide)
  refine ⟨whole, by decide +kernel, ⟨given, ?_, parsed⟩, ?_⟩
  · exact (gives 2 _).mpr ⟨_, walked, by decide, rfl⟩
  · intro token
    exact ended 5 _ halted 4 6 token (by omega) (by omega)

end DeadSymbols
