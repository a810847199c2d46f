import DeadSymbols.Proofs.Implements
import DeadSymbols.Proofs.Lines
import DeadSymbols.Proofs.Resolution

/-!
Contract: where the two ways of reading a record agree.

A native record is read with a selector pending until an implementation uses it, a bridged one by
its names alone. When every name is followed by its implementation, before the next name, the
native reading finds one method per name, and so does the bridged one. The methods are the same if
each symbol repeats the name before it and has an owner that goes by the name of the class. A
record names its class in the first name line in either reading, so both fail on the same texts.

Owns: `Alternates`, the methods of alternating lines in both readings.
-/

namespace DeadSymbols

open DeadSymbols.Name
open DeadSymbols.Text

namespace Dump

/-! ### Names and implementations in turn -/

/-- The lines give names and implementations in turn, each name with the implementation that
follows it; any other lines may stand before, between and behind them. -/
inductive Alternates : List (List Char) → List (String × ImpLine) → Prop where
  | nil : Alternates [] []
  | aside {line rest pairs} (isAside : Aside line) (later : Alternates rest pairs) :
      Alternates (line :: rest) pairs
  | pair {nameLine between impLine rest pairs selector imp}
      (named : nameToken? nameLine = some selector) (asides : ∀ line ∈ between, Aside line)
      (implemented : impLine? impLine = some imp) (later : Alternates rest pairs) :
      Alternates (nameLine :: (between ++ impLine :: rest)) ((selector, imp) :: pairs)

variable {line : List Char} {rest : List (List Char)} {pairs : List (String × ImpLine)}

/-- The method of an implementation, given the name before it. -/
def ImpLine.method (selector : String) : ImpLine → MethodToken
  | .stripped => { owner := none, selector }
  | .symbol owner named => { owner := some owner, selector := named }

theorem Alternates.nativeMethods (alternates : Alternates rest pairs) :
    nativeMethods none rest = pairs.map fun pair => pair.2.method pair.1 := by
  induction alternates with
  | nil => rfl
  | aside isAside _ inductionHypothesis =>
      rw [nativeMethods_other isAside.1 isAside.2, inductionHypothesis]
  | @pair nameLine between impLine rest pairs selector imp named asides implemented _
      inductionHypothesis =>
      have notName := nameToken?_eq_none_of_imp implemented
      rw [nativeMethods_name named, nativeMethods_asides asides, List.map_cons,
        ← inductionHypothesis]
      cases imp with
      | stripped => exact nativeMethods_stripped notName implemented
      | symbol owner named => exact nativeMethods_symbol notName implemented

theorem Alternates.bridgedMethods (alternates : Alternates rest pairs) :
    bridgedMethods rest = pairs.map fun pair => { owner := none, selector := pair.1 } := by
  have names : rest.filterMap nameToken? = pairs.map Prod.fst := by
    induction alternates with
    | nil => rfl
    | aside isAside _ inductionHypothesis =>
        rw [List.filterMap_cons_none isAside.1, inductionHypothesis]
    | @pair nameLine between impLine rest pairs selector imp named asides implemented _
        inductionHypothesis =>
        have noNames : between.filterMap nameToken? = [] :=
          List.filterMap_eq_nil_iff.mpr fun line member => (asides line member).1
        rw [List.filterMap_cons_some named, List.filterMap_append, noNames, List.nil_append,
          List.filterMap_cons_none (nameToken?_eq_none_of_imp implemented), inductionHypothesis,
          List.map_cons]
  rw [Dump.bridgedMethods, names, List.map_map]
  rfl

/-- The implementation has no symbol, or one with the selector before it and with an owner that
goes by the name of the class. -/
def ImpLine.Fits (rename : String → String) (className selector : String) : ImpLine → Prop
  | .stripped => True
  | .symbol owner named => named = selector ∧ rename owner = rename className

theorem ImpLine.Fits.method {rename : String → String} {className selector : String}
    {imp : ImpLine} (fits : imp.Fits rename className selector) :
    (imp.method selector).selector = selector ∧
      rename ((imp.method selector).owner.getD className) = rename className := by
  cases imp with
  | stripped => exact ⟨rfl, rfl⟩
  | symbol owner named => exact fits

theorem resolve_eq_of_fits {rename : String → String} {className : String}
    (fits : ∀ pair ∈ pairs, pair.2.Fits rename className pair.1) :
    Outline.resolve rename ⟨className, pairs.map fun pair => pair.2.method pair.1⟩ =
      Outline.resolve rename
        ⟨className, pairs.map fun pair => { owner := none, selector := pair.1 }⟩ := by
  have counted : pairs.filter
        ((fun method => decide (method.selector ≠ teardownSelector)) ∘ fun pair =>
          pair.2.method pair.1) =
      pairs.filter fun pair => decide (pair.1 ≠ teardownSelector) := by
    apply List.filter_congr
    intro pair member
    rw [Function.comp_apply, (fits pair member).method.1]
  unfold Outline.resolve
  -- The class is named alike on both sides, so only the methods are left.
  congr 1
  rw [List.filter_map, List.filter_map, List.map_map, List.map_map, counted]
  apply List.map_congr_left
  intro pair member
  obtain ⟨sameSelector, sameOwner⟩ := (fits pair (List.mem_filter.mp member).1).method
  simp only [Function.comp_apply, sameSelector, sameOwner, Option.getD_none]

/-! ### Both readings of a text -/

/-- The first name line of a text gives the class name; the lines after it are the rest. -/
def ClassLines (body : List Char) (className : String) (rest : List (List Char)) : Prop :=
  ∃ before line, lines body = before ++ line :: rest ∧
    (∀ other ∈ before, nameToken? other = none) ∧ nameToken? line = some className

theorem classNameLine?_of_classLines {body : List Char} {className : String}
    (classLines : ClassLines body className rest) :
    classNameLine? (lines body) = some (className, rest) := by
  obtain ⟨before, line, whole, nameless, named⟩ := classLines
  rw [whole, classNameLine?_nameless nameless, classNameLine?, named]

theorem parse?_native_eq_bridged {rename : String → String} {body : List Char} {className : String}
    (classLines : ClassLines body className rest) (alternates : Alternates rest pairs)
    (fits : ∀ pair ∈ pairs, pair.2.Fits rename className pair.1) :
    RawRecord.parse? rename ⟨.native, body⟩ = RawRecord.parse? rename ⟨.bridged, body⟩ := by
  have found := classNameLine?_of_classLines classLines
  simp only [RawRecord.parse?, RawRecord.outline?, found, Option.map_some, alternates.nativeMethods,
    alternates.bridgedMethods, resolve_eq_of_fits fits]

end Dump

open DeadSymbols.Dump

variable {σ τ : Type}

theorem parseWith?_eq_none_iff {demangler : Demangler σ} {record : RawRecord} {state : σ} :
    (record.parseWith? demangler state).1 = none ↔ className? record.body = none := by
  have named : className? record.body = none ↔ record.outline? = none := by
    rw [className?, RawRecord.outline?, Option.map_eq_none_iff, Option.map_eq_none_iff]
  rw [named, RawRecord.parseWith?]
  cases record.outline? with
  | none => exact iff_of_true rfl rfl
  | some outline => exact iff_of_false (Option.some_ne_none _) (Option.some_ne_none _)

/-- A text gives no class in the one reading exactly when it gives none in the other, whatever the
demanglers answer. With a demangler that answers by name, both readings give the same class with
the same methods, if names and implementations alternate after the class name and every symbol fits
the name before it. -/
theorem native_and_bridged_readings_agree (body : List Char) :
    (∀ (demangler : Demangler σ) (other : Demangler τ) (state : σ) (otherState : τ),
      (RawRecord.parseWith? demangler ⟨.native, body⟩ state).1 = none ↔
        (RawRecord.parseWith? other ⟨.bridged, body⟩ otherState).1 = none) ∧
      ∀ (demangler : Demangler σ) (answer : String → Option String) (className : String)
        (rest : List (List Char)) (pairs : List (String × ImpLine)), AnswersBy demangler answer →
        ClassLines body className rest → Alternates rest pairs →
        (∀ pair ∈ pairs, pair.2.Fits (naming answer) className pair.1) →
        ∀ state otherState : σ,
          (RawRecord.parseWith? demangler ⟨.native, body⟩ state).1 =
            (RawRecord.parseWith? demangler ⟨.bridged, body⟩ otherState).1 := by
  constructor
  · intro demangler other state otherState
    rw [parseWith?_eq_none_iff, parseWith?_eq_none_iff]
  · intro demangler answer className rest pairs answers classLines alternates fits state otherState
    rw [answers.parseWith?, answers.parseWith?]
    exact parse?_native_eq_bridged classLines alternates fits

/-- A class under its mangled name, with a symbol under that name, the teardown hook without a
symbol, and a symbol under another name that is demangled to the same one. -/
theorem native_and_bridged_readings_agree_panel :
    let names : NameMap String :=
      (NameMap.empty.set "_TtC3App5Panel" "App.Panel").set "Panel" "App.Panel"
    let rest := ["types 0x1 v16".toList, " name 0x2 run".toList, " types 0x3 v16".toList,
      " imp 0x4 -[_TtC3App5Panel run]".toList, " name 0x5 .cxx_destruct".toList,
      " imp 0x6".toList, " name 0x7 stop".toList, " imp 0x8 +[Panel stop]".toList]
    let body := "flags 0x90\n name 0x9 _TtC3App5Panel\n".toList ++ unlines rest
    let pairs := [("run", ImpLine.symbol "_TtC3App5Panel" "run"), (".cxx_destruct", .stripped),
      ("stop", .symbol "Panel" "stop")]
    ClassLines body "_TtC3App5Panel" rest ∧ Alternates rest pairs ∧
      (∀ pair ∈ pairs, pair.2.Fits (naming names.get?) "_TtC3App5Panel" pair.1) ∧
      (RawRecord.parseWith? (table names) ⟨.native, body⟩ ()).1 =
        some ⟨"App.Panel", [Method.of "App.Panel" "run", Method.of "App.Panel" "stop"]⟩ ∧
      (RawRecord.parseWith? (table names) ⟨.native, body⟩ ()).1 =
        (RawRecord.parseWith? (table names) ⟨.bridged, body⟩ ()).1 := by
  intro names rest body pairs
  have answers : AnswersBy (table names : Demangler Unit) names.get? := fun _ _ => rfl
  have classLines : ClassLines body "_TtC3App5Panel" rest := by
    refine ⟨["flags 0x90".toList], " name 0x9 _TtC3App5Panel".toList, by decide, ?_, by decide⟩
    intro other member
    rw [List.mem_singleton.mp member]
    decide
  have noneBetween : ∀ line ∈ ([] : List (List Char)), Aside line :=
    fun line member => absurd member List.not_mem_nil
  have typesBetween : ∀ line ∈ [" types 0x3 v16".toList], Aside line := by
    intro line member
    rw [List.mem_singleton.mp member]
    exact ⟨by decide, by decide⟩
  have alternates : Alternates rest pairs :=
    .aside ⟨by decide, by decide⟩ <|
      @Alternates.pair _ [_] _ _ _ _ _ (by decide) typesBetween (by decide) <|
      @Alternates.pair _ [] _ _ _ _ _ (by decide) noneBetween (by decide) <|
      @Alternates.pair _ [] _ _ _ _ _ (by decide) noneBetween (by decide) .nil
  have fits : ∀ pair ∈ pairs, pair.2.Fits (naming names.get?) "_TtC3App5Panel" pair.1 :=
    List.forall_mem_cons.mpr ⟨⟨rfl, rfl⟩, List.forall_mem_cons.mpr ⟨trivial,
      List.forall_mem_singleton.mpr ⟨rfl, by decide⟩⟩⟩
  obtain ⟨_, agree⟩ := @native_and_bridged_readings_agree Unit Unit body
  refine ⟨classLines, alternates, fits, by decide +kernel, ?_⟩
  exact agree (table names) names.get? "_TtC3App5Panel" rest pairs answers classLines alternates fits
    () ()

end DeadSymbols
