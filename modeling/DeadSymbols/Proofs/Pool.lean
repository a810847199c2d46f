import DeadSymbols.Name.Pool
import DeadSymbols.Proofs.Resolution

/-!
Contract: what a pool of tasks takes over from the answers of a demangler.

Under every schedule a task works on its own outline, and its names are allowed ones for the first
of its class tokens. One question keeps that, hence every turn and every run of turns does, and the
finished tasks have an allowed name for each token. With a demangler that answers by name, the
schedule therefore leaves no trace in the index, nor in the findings of an analysis.
-/

namespace DeadSymbols

open DeadSymbols.Dump
open DeadSymbols.Name

variable {σ : Type} {demangler : Demangler σ} {allowed : String → String → Prop}

/-- The task works on the outline, with allowed names for all tokens but those that wait. -/
def Task.Serves (allowed : String → String → Prop) (outline : Outline) (task : Task) : Prop :=
  task.outline = outline ∧ ∃ asked, outline.classTokens = asked ++ task.waiting ∧
    List.Forall₂ allowed asked task.names

/-- Before any question, all tokens wait. -/
theorem Task.serves_start (outline : Outline) :
    Task.Serves allowed outline { outline, names := [] } :=
  ⟨rfl, [], rfl, List.Forall₂.nil⟩

theorem Task.Serves.step {outline : Outline} {task : Task} (allows : Allows demangler allowed)
    (serves : task.Serves allowed outline) (state : σ) :
    (task.step demangler state).1.Serves allowed outline := by
  obtain ⟨rfl, asked, tokens, given⟩ := serves
  unfold Task.step
  cases waits : task.waiting with
  | nil => exact ⟨rfl, asked, tokens, given⟩
  | cons token left =>
      -- The answer joins the names, and the token leaves those that wait.
      have later : task.outline.classTokens.drop (task.names.length + 1) = left := by
        rw [← List.tail_drop, ← Task.waiting, waits, List.tail_cons]
      refine ⟨rfl, asked ++ [token], ?_, ?_⟩
      · show task.outline.classTokens =
          asked ++ [token] ++ task.outline.classTokens.drop (task.names ++ [_]).length
        rw [List.length_append, List.length_singleton, later, List.append_assoc, tokens, waits]
        rfl
      · exact List.rel_append given (List.Forall₂.cons (allows token state) List.Forall₂.nil)

theorem turn_serves {outlines : List Outline} {tasks : List Task} (allows : Allows demangler allowed)
    (serves : List.Forall₂ (Task.Serves allowed) outlines tasks) (place : Nat) (state : σ) :
    List.Forall₂ (Task.Serves allowed) outlines (turn demangler place tasks state).1 := by
  induction serves generalizing place with
  | nil =>
      cases place with
      | zero => exact List.Forall₂.nil
      | succ place => exact List.Forall₂.nil
  | cons here later inductionHypothesis =>
      cases place with
      | zero => exact List.Forall₂.cons (here.step allows state) later
      | succ place => exact List.Forall₂.cons here (inductionHypothesis place)

/-- Every run of turns leaves each task at its own outline, with allowed names. -/
theorem runSchedule_serves {outlines : List Outline} {tasks : List Task}
    (allows : Allows demangler allowed)
    (serves : List.Forall₂ (Task.Serves allowed) outlines tasks) (schedule : List Nat) (state : σ) :
    List.Forall₂ (Task.Serves allowed) outlines (runSchedule demangler schedule tasks state).1 := by
  induction schedule generalizing tasks state with
  | nil => exact serves
  | cons place later inductionHypothesis =>
      exact inductionHypothesis (turn_serves allows serves place state) _

theorem Task.Serves.finish {outline : Outline} {task : Task} (allows : Allows demangler allowed)
    (serves : task.Serves allowed outline) (state : σ) :
    outline.NamedBy allowed (task.finish demangler state).1.parsed := by
  obtain ⟨rfl, asked, tokens, given⟩ := serves
  refine ⟨task.names ++ (resolveAll demangler task.waiting state).1, ?_, rfl⟩
  rw [tokens]
  exact List.rel_append given (allows.resolveAll task.waiting state)

theorem finishAll_namedBy {outlines : List Outline} {tasks : List Task}
    (allows : Allows demangler allowed)
    (serves : List.Forall₂ (Task.Serves allowed) outlines tasks) (state : σ) :
    List.Forall₂ (Outline.NamedBy allowed) outlines
      ((finishAll demangler tasks state).1.map Task.parsed) := by
  induction serves generalizing state with
  | nil => exact List.Forall₂.nil
  | cons here _ inductionHypothesis =>
      exact List.Forall₂.cons (here.finish allows state) (inductionHypothesis _)

/-- Under every schedule the classes of the pool are named by allowed names, in the order of their
records. -/
theorem Name.Allows.indexRecordsPooled (allows : Allows demangler allowed) (schedule : List Nat)
    (records : List RawRecord) (state : σ) :
    ∃ classes, (indexRecordsPooled demangler schedule records state).1 = Index.ofClasses classes ∧
      List.Forall₂ (Outline.NamedBy allowed) (records.filterMap RawRecord.outline?) classes := by
  have start : List.Forall₂ (Task.Serves allowed) (records.filterMap RawRecord.outline?)
      (tasksOf records) := by
    rw [tasksOf, List.forall₂_map_right_iff, List.forall₂_same]
    intro outline _
    exact Task.serves_start outline
  exact ⟨_, rfl, finishAll_namedBy allows (runSchedule_serves allows start schedule state) _⟩

namespace Name.AnswersBy

variable {answer : String → Option String}

/-- With a demangler that answers by name, every schedule leads to the index of the renamed
records. -/
theorem indexRecordsPooled (answers : AnswersBy demangler answer) (schedule : List Nat)
    (records : List RawRecord) (state : σ) :
    (indexRecordsPooled demangler schedule records state).1 =
      indexRecords (naming answer) records := by
  obtain ⟨classes, indexed, named⟩ := answers.allows.indexRecordsPooled schedule records state
  rw [indexed, resolved_of_namedBy named, map_resolve_outlines, indexRecords]

theorem indexPooled (answers : AnswersBy demangler answer)
    (nativeSchedule bridgedSchedule : List Nat) (metadata : Metadata) (state : σ) :
    (metadata.indexPooled demangler nativeSchedule bridgedSchedule state).1 =
      metadata.index (naming answer) := by
  show (DeadSymbols.indexRecordsPooled demangler nativeSchedule _ state).1.merge
    (DeadSymbols.indexRecordsPooled demangler bridgedSchedule _ _).1 = _
  rw [answers.indexRecordsPooled, answers.indexRecordsPooled, Metadata.index]

theorem analyzePooled (answers : AnswersBy demangler answer)
    (nativeSchedule bridgedSchedule : List Nat) (whitelist : NameSet)
    (dump selectorText : List Char) (state : σ) :
    (analyzePooled demangler nativeSchedule bridgedSchedule whitelist dump selectorText state).1 =
      analyze (naming answer) whitelist dump selectorText := by
  unfold DeadSymbols.analyzePooled analyze Metadata.findings
  generalize Metadata.ofTexts dump selectorText = metadata
  cases metadata.isEmpty with
  | true => rfl
  | false =>
      show (metadata.compareWith demangler whitelist
        (metadata.indexPooled demangler nativeSchedule bridgedSchedule state).1 _).1 = _
      rw [answers.compareWith, answers.indexPooled]
      rfl

/-- Under every schedule the findings are those of the analysis that reads its records in turn, so
all that is known of these holds of an analysis with pools. -/
theorem analyzePooled_eq_analyzeWith (answers : AnswersBy demangler answer)
    (nativeSchedule bridgedSchedule : List Nat) (whitelist : NameSet)
    (dump selectorText : List Char) (state otherState : σ) :
    (DeadSymbols.analyzePooled demangler nativeSchedule bridgedSchedule whitelist dump selectorText
        state).1 =
      (DeadSymbols.analyzeWith demangler whitelist dump selectorText otherState).1 := by
  rw [answers.analyzePooled, answers.analyzeWith]

end Name.AnswersBy

end DeadSymbols
