import DeadSymbols.Proofs.Flavors
import DeadSymbols.Proofs.References

/-!
Contract: which line gives a record its class name.

Classes, methods and ivars are named by lines of one shape, and a record is named by the first of
them, wherever it stands. A record that lacks a name of its own is therefore skipped only if it names
no method and no ivar either. Otherwise its class goes by the first selector behind the line of
methods.

The class list tells class names apart by the line of methods behind them. It declares no class for
such a record, so the two readings of a name differ there.
-/

namespace DeadSymbols

open DeadSymbols.Name
open DeadSymbols.Text

namespace Dump

variable {before rest texts : List (List Char)} {line : List Char} {token : String}

theorem classNameLine?_named (nameless : ∀ other ∈ before, Nameless other)
    (named : NameLine line token) :
    classNameLine? (before ++ line :: rest) = some (token, rest) := by
  rw [classNameLine?_nameless fun other member => nameToken?_eq_none_iff.mpr (nameless other member),
    classNameLine?, nameToken?_eq_some_iff.mpr named]

theorem classNameLine?_eq_none_iff :
    classNameLine? texts = none ↔ ∀ other ∈ texts, Nameless other := by
  induction texts with
  | nil => simp [classNameLine?]
  | cons line rest inductionHypothesis =>
      rw [List.forall_mem_cons, ← inductionHypothesis, ← nameToken?_eq_none_iff, classNameLine?]
      cases nameToken? line with
      | none => simp
      | some token => simp

theorem MethodsLine.nameless (isMethods : MethodsLine line) : Nameless line := by
  obtain ⟨tail, leads⟩ := startsWith_iff.mp (startsWith_methods_iff.mpr isMethods)
  have noName : after? "name".toList (trimStart line) = none := by
    rw [leads]
    exact after?_eq_none (startsWith_eq_false_of_clash (by decide))
  apply nameToken?_eq_none_iff.mp
  rw [nameToken?, noName]
  rfl

/-- Where no line of methods follows, no name is a declared one. -/
theorem namesDeclared_methodless (methodless : ∀ other ∈ texts, ¬ MethodsLine other) :
    namesDeclared texts = [] := by
  apply List.eq_nil_iff_forall_not_mem.mpr
  intro name declared
  obtain ⟨front, first, second, behind, whole, _, isMethods⟩ := mem_namesBeforeMethods.mp declared
  have written : second ∈ texts.filter (!isBlank ·) := by simp [whole]
  exact methodless second (List.mem_filter.mp written).1 isMethods

end Dump

open DeadSymbols.Dump

variable {σ : Type} {demangler : Demangler σ} {state : σ} {record : RawRecord}

theorem parseWith?_eq_none_iff_nameless :
    (record.parseWith? demangler state).1 = none ↔ ∀ line ∈ lines record.body, Nameless line := by
  rw [parseWith?_eq_none_iff, className?, Option.map_eq_none_iff, classNameLine?_eq_none_iff]

/-- The first question to the demangler is about the token of the first name line. -/
theorem exists_parseWith?_className {token : String} {rest : List (List Char)}
    (found : classNameLine? (lines record.body) = some (token, rest)) :
    ∃ parsed, (record.parseWith? demangler state).1 = some parsed ∧
      parsed.className = (resolve demangler token state).1 := by
  obtain ⟨outline, outlined, named⟩ :
      ∃ outline, record.outline? = some outline ∧ outline.className = token := by
    rw [RawRecord.outline?, found]
    cases record.flavor with
    | native => exact ⟨_, rfl, rfl⟩
    | bridged => exact ⟨_, rfl, rfl⟩
  rw [RawRecord.parseWith?, outlined, ← named]
  exact ⟨_, rfl, rfl⟩

/-- A record with no name before its line of methods is skipped exactly when nothing is named behind
that line either. Otherwise the first name there is taken for the class name, in both flavors and
under every demangler, although the lines declare no class. -/
theorem record_named_behind_methods {body methods : List Char} {before after : List (List Char)}
    (whole : lines body = before ++ methods :: after) (isMethods : MethodsLine methods)
    (nameless : ∀ other ∈ before, Nameless other) (flavor : Flavor) (demangler : Demangler σ)
    (state : σ) :
    ((RawRecord.parseWith? demangler ⟨flavor, body⟩ state).1 = none ↔
        ∀ other ∈ after, Nameless other) ∧
      (∀ between line rest token, after = between ++ line :: rest →
        (∀ other ∈ between, Nameless other) → NameLine line token →
        ∃ parsed, (RawRecord.parseWith? demangler ⟨flavor, body⟩ state).1 = some parsed ∧
          parsed.className = (resolve demangler token state).1) ∧
      ((∀ other ∈ after, ¬ MethodsLine other) → declaredIn body = ∅) := by
  have toMethods : ∀ other ∈ before ++ [methods], Nameless other := by
    intro other member
    rcases List.mem_append.mp member with earlier | last
    · exact nameless other earlier
    · rw [List.mem_singleton.mp last]
      exact isMethods.nameless
  have split : lines body = (before ++ [methods]) ++ after := by simp [whole]
  refine ⟨?_, ?_, ?_⟩
  · rw [parseWith?_eq_none_iff_nameless, split, List.forall_mem_append]
    exact and_iff_right toMethods
  · intro between line rest token behind namelessBetween named
    apply exists_parseWith?_className
    rw [split, behind, ← List.append_assoc]
    exact classNameLine?_named (List.forall_mem_append.mpr ⟨toMethods, namelessBetween⟩) named
  · intro methodless
    have none : namesDeclared (lines body) = [] := by
      rw [split, namesDeclared_append fun other member =>
        nameToken?_eq_none_iff.mpr (toMethods other member), namesDeclared_methodless methodless]
    rw [declaredIn, ← namesDeclared, none]
    rfl

/-- A record with an empty class name and two methods without symbols. -/
def unnamedRecord : List Char :=
  unlines (["flags 0x80".toList, " name 0x0".toList] ++
    " baseMethods 0x1 (struct method_list_t *)".toList :: ([] ++ " name 0x2 doWork".toList ::
      [" imp 0x3".toList, " name 0x4 stop".toList, " imp 0x5".toList]))

theorem lines_unnamedRecord :
    lines unnamedRecord = ["flags 0x80".toList, " name 0x0".toList] ++
      " baseMethods 0x1 (struct method_list_t *)".toList :: ([] ++ " name 0x2 doWork".toList ::
        [" imp 0x3".toList, " name 0x4 stop".toList, " imp 0x5".toList]) :=
  lines_unlines (by decide)

theorem unnamedRecord_nameless :
    ∀ other ∈ ["flags 0x80".toList, " name 0x0".toList], Nameless other := by
  have nameless (other : List Char) (none : nameToken? other = none) : Nameless other :=
    nameToken?_eq_none_iff.mp none
  exact List.forall_mem_cons.mpr ⟨nameless _ (by decide),
    List.forall_mem_singleton.mpr (nameless _ (by decide))⟩

theorem unnamedRecord_methods : MethodsLine " baseMethods 0x1 (struct method_list_t *)".toList :=
  startsWith_methods_iff.mp (by decide)

theorem unnamedRecord_selector : NameLine " name 0x2 doWork".toList "doWork" :=
  nameToken?_eq_some_iff.mp (by decide)

/-- The record without a class name becomes the class `doWork`, and its second method a method of
that class. -/
theorem record_named_behind_methods_unnamed :
    (RawRecord.parseWith? (identity : Demangler Unit) ⟨.native, unnamedRecord⟩ ()).1 =
        some ⟨"doWork", [Method.of "doWork" "stop"]⟩ ∧
      ∃ parsed, (RawRecord.parseWith? (identity : Demangler Unit) ⟨.bridged, unnamedRecord⟩ ()).1 =
        some parsed ∧ parsed.className = "doWork" := by
  obtain ⟨_, named, _⟩ := record_named_behind_methods lines_unnamedRecord unnamedRecord_methods
    unnamedRecord_nameless .bridged (identity : Demangler Unit) ()
  refine ⟨by decide +kernel, ?_⟩
  exact named [] _ _ "doWork" rfl (List.forall_mem_nil _) unnamedRecord_selector

/-- It is not so that every record without a name before its first line of methods is skipped. -/
theorem unnamed_record_not_skipped :
    ¬ ∀ (body methods : List Char) (before after : List (List Char)),
      lines body = before ++ methods :: after → MethodsLine methods →
      (∀ other ∈ before, ¬ MethodsLine other) → (∀ other ∈ before, Nameless other) →
      ∀ demangler : Demangler Unit,
        (RawRecord.parseWith? demangler ⟨.native, body⟩ ()).1 = none ∧
          (RawRecord.parseWith? demangler ⟨.bridged, body⟩ ()).1 = none := by
  intro skipped
  have other (line : List Char)
      (no : startsWith "baseMethods".toList (trimStart line) = false) : ¬ MethodsLine line := by
    rw [← startsWith_methods_iff, no]
    exact Bool.false_ne_true
  have noMethods : ∀ line ∈ ["flags 0x80".toList, " name 0x0".toList], ¬ MethodsLine line :=
    List.forall_mem_cons.mpr ⟨other _ (by decide),
      List.forall_mem_singleton.mpr (other _ (by decide))⟩
  have none := (skipped _ _ _ _ lines_unnamedRecord unnamedRecord_methods noMethods
    unnamedRecord_nameless identity).1
  rw [parseWith?_eq_none_iff_nameless] at none
  refine none " name 0x2 doWork".toList ?_ "doWork" unnamedRecord_selector
  rw [lines_unnamedRecord]
  simp

end DeadSymbols
