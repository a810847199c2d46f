import DeadSymbols.Name.Demangler
import DeadSymbols.Name.Resolution
import Mathlib.Data.List.Forall2

/-!
Contract: what an analysis takes over from the answers of a demangler.

Whatever holds of every single name that a demangler leads to holds of all names that the classes
of an analysis are built from, since each of them is the answer to one question. The main case are
demanglers whose answers depend on the name alone. Such a demangler may keep a state, for instance
a memo or a record of its calls, but the state does not show in its answers: asking it renames the
class tokens by one function of the name, and the analysis is the pure one under that function.

Owns: `Allows`, `AnswersBy`, the naming it induces, and the analyses under it.
-/

namespace DeadSymbols

open DeadSymbols.Dump

namespace Name

variable {σ : Type} {demangler : Demangler σ}

/-- The name in use for a token is an allowed one, in every state. -/
def Allows (demangler : Demangler σ) (allowed : String → String → Prop) : Prop :=
  ∀ token state, allowed token (resolve demangler token state).1

theorem Allows.resolveAll {allowed : String → String → Prop} (allows : Allows demangler allowed)
    (tokens : List String) (state : σ) :
    List.Forall₂ allowed tokens (resolveAll demangler tokens state).1 := by
  induction tokens generalizing state with
  | nil => exact List.Forall₂.nil
  | cons token rest inductionHypothesis =>
      exact List.Forall₂.cons (allows token state) (inductionHypothesis _)

/-- The demangler's answer to a name is the given one, in every state. -/
def AnswersBy (demangler : Demangler σ) (answer : String → Option String) : Prop :=
  ∀ name state, (demangler name state).1 = answer name

/-- The names in use under the given answers. -/
def naming (answer : String → Option String) (raw : String) : String := orRaw raw (answer raw)

variable {answer : String → Option String}

theorem AnswersBy.allows (answers : AnswersBy demangler answer) :
    Allows demangler fun token name => naming answer token = name := by
  intro token state
  show naming answer token = orRaw token (demangler token state).1
  rw [answers token state, naming]

/-- The demangler without better names answers by name. -/
theorem identity_answersBy : AnswersBy (identity : Demangler σ) fun _ => none := fun _ _ => rfl

theorem naming_none : naming (fun _ => none) = id := rfl

/-- Names that are allowed by a function are its values. -/
theorem eq_map_of_allowed {rename : String → String} {tokens names : List String}
    (given : List.Forall₂ (fun token name => rename token = name) tokens names) :
    names = tokens.map rename := by
  rw [← List.forall₂_map_left_iff (R := Eq), List.forall₂_eq_eq_eq] at given
  exact given.symm

end Name

open DeadSymbols.Name

/-! ### Names given in turn -/

section Named

variable {rename : String → String}

/-- Names that are given in turn reach the owners they were asked for. -/
theorem Dump.methodsNamed_map (className : String) (methods : List MethodToken) :
    methodsNamed (rename className) methods ((methods.filterMap MethodToken.owner).map rename) =
      methods.map fun method =>
        Method.of (rename (method.owner.getD className)) method.selector := by
  induction methods with
  | nil => rfl
  | cons method rest inductionHypothesis =>
      obtain ⟨owner, selector⟩ := method
      cases owner with
      | none => exact congrArg (Method.of (rename className) selector :: ·) inductionHypothesis
      | some token => exact congrArg (Method.of (rename token) selector :: ·) inductionHypothesis

/-- An outline whose tokens are named by one function is the renamed outline. -/
theorem Dump.Outline.named_map (outline : Outline) :
    outline.named (outline.classTokens.map rename) = outline.resolve rename := by
  unfold Outline.named Outline.resolve
  simp only [Outline.classTokens, List.map_cons, List.headD_cons, List.tail_cons,
    methodsNamed_map, List.filter_map, ClassRecord.mk.injEq, true_and]
  -- The hook is recognised by its selector, which no renaming touches.
  rfl

/-- The class is the outline's under allowed names for its tokens. -/
def Dump.Outline.NamedBy (allowed : String → String → Prop) (outline : Outline)
    (parsed : ClassRecord) : Prop :=
  ∃ names, List.Forall₂ allowed outline.classTokens names ∧ outline.named names = parsed

/-- Under names that are given by a function, the classes are the renamed outlines. -/
theorem resolved_of_namedBy {outlines : List Outline} {classes : List ClassRecord}
    (named : List.Forall₂ (Outline.NamedBy fun token name => rename token = name)
      outlines classes) :
    classes = outlines.map (Outline.resolve rename) := by
  induction named with
  | nil => rfl
  | cons head _ inductionHypothesis =>
      obtain ⟨names, given, rfl⟩ := head
      rw [inductionHypothesis, eq_map_of_allowed given, Outline.named_map, List.map_cons]

theorem map_resolve_outlines (records : List RawRecord) :
    (records.filterMap RawRecord.outline?).map (Outline.resolve rename) =
      records.filterMap (RawRecord.parse? rename) :=
  List.map_filterMap

end Named

/-! ### Records parsed in turn -/

variable {σ : Type} {demangler : Demangler σ}

theorem Name.Allows.parseRecordsWith {allowed : String → String → Prop}
    (allows : Allows demangler allowed) (records : List RawRecord) (state : σ) :
    List.Forall₂ (Outline.NamedBy allowed) (records.filterMap RawRecord.outline?)
      (parseRecordsWith demangler records state).1 := by
  induction records generalizing state with
  | nil => exact List.Forall₂.nil
  | cons record rest inductionHypothesis =>
      show List.Forall₂ _ _ ((record.parseWith? demangler state).1.toList ++
        (DeadSymbols.parseRecordsWith demangler rest (record.parseWith? demangler state).2).1)
      rw [List.filterMap_cons, RawRecord.parseWith?]
      cases record.outline? with
      | none => exact inductionHypothesis _
      | some outline =>
          exact List.Forall₂.cons ⟨_, allows.resolveAll _ state, rfl⟩ (inductionHypothesis _)

/-! ### Analyses with a demangler that answers by name -/

namespace Name.AnswersBy

variable {answer : String → Option String}

theorem resolveAll (answers : AnswersBy demangler answer) (names : List String) (state : σ) :
    (resolveAll demangler names state).1 = names.map (naming answer) :=
  eq_map_of_allowed (answers.allows.resolveAll names state)

/-- Parsing a record with such a demangler is parsing it under its naming. -/
theorem parseWith? (answers : AnswersBy demangler answer) (record : RawRecord) (state : σ) :
    (record.parseWith? demangler state).1 = record.parse? (naming answer) := by
  unfold RawRecord.parseWith? RawRecord.parse?
  cases record.outline? with
  | none => rfl
  | some outline =>
      show some (outline.named (Name.resolveAll demangler outline.classTokens state).1) = _
      rw [answers.resolveAll, outline.named_map, Option.map_some]

theorem indexRecordsWith (answers : AnswersBy demangler answer) (records : List RawRecord)
    (state : σ) :
    (indexRecordsWith demangler records state).1 = indexRecords (naming answer) records := by
  show Index.ofClasses (DeadSymbols.parseRecordsWith demangler records state).1 = _
  rw [resolved_of_namedBy (answers.allows.parseRecordsWith records state), map_resolve_outlines,
    indexRecords]

theorem indexWith (answers : AnswersBy demangler answer) (metadata : Metadata) (state : σ) :
    (metadata.indexWith demangler state).1 = metadata.index (naming answer) := by
  show (DeadSymbols.indexRecordsWith demangler metadata.native state).1.merge
    (DeadSymbols.indexRecordsWith demangler metadata.bridged _).1 = _
  rw [answers.indexRecordsWith, answers.indexRecordsWith, Metadata.index]

theorem resolveSet (answers : AnswersBy demangler answer) (names : NameSet) (state : σ) :
    (resolveSet demangler names state).1 = names.image (naming answer) := by
  show NameSet.ofList (Name.resolveAll demangler names.toList state).1 = _
  rw [answers.resolveAll, NameSet.image]

theorem compareWith (answers : AnswersBy demangler answer) (whitelist : NameSet) (index : Index)
    (metadata : Metadata) (state : σ) :
    (metadata.compareWith demangler whitelist index state).1 =
      { unusedClasses := unusedClasses (metadata.declared.image (naming answer))
          (metadata.referenced.image (naming answer))
        unusedMethods := unusedMethods index metadata.selectors whitelist } := by
  show Findings.mk (unusedClasses (DeadSymbols.resolveSet demangler metadata.declared _).1
    (DeadSymbols.resolveSet demangler metadata.referenced _).1) _ = _
  rw [answers.resolveSet, answers.resolveSet]

/-- An analysis with such a demangler is the pure analysis under its naming. -/
theorem analyzeWith (answers : AnswersBy demangler answer) (whitelist : NameSet)
    (dump selectorText : List Char) (state : σ) :
    (analyzeWith demangler whitelist dump selectorText state).1 =
      analyze (naming answer) whitelist dump selectorText := by
  unfold DeadSymbols.analyzeWith analyze Metadata.findings
  generalize Metadata.ofTexts dump selectorText = metadata
  cases metadata.isEmpty with
  | true => rfl
  | false =>
      show (metadata.compareWith demangler whitelist (metadata.indexWith demangler state).1 _).1 = _
      rw [answers.compareWith, answers.indexWith]
      rfl

end Name.AnswersBy

end DeadSymbols
