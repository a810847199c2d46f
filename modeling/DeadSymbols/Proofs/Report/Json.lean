import DeadSymbols.Proofs.Codec
import DeadSymbols.Proofs.Json.Unambiguous
import DeadSymbols.Report.Render

/-!
Contract: a report as JSON loses nothing.

The object of a report has the members of its context, the two counts and the members of its findings.
Read as a context it fills the context's draft, and all other members are skipped; read as findings it
is the other way round. The text of a report is the text of this object and of no other value, so what
its members say is what the text says.
-/

namespace DeadSymbols.Report

open DeadSymbols.Json

variable (context : Context) (findings : Findings)

/-- The counts that stand between the context and the findings. -/
def counts : List (String × Value) :=
  [("unused_class_count", .number findings.unusedClasses.length),
   ("unused_method_count", .number findings.unusedMethods.length)]

theorem members_eq : members context findings = context.members ++ counts findings ++ findings.members :=
  rfl

theorem names_counts :
    (counts findings).map Prod.fst = ["unused_class_count", "unused_method_count"] := rfl

theorem names_findings :
    findings.members.map Prod.fst = ["unused_classes", "unused_methods"] := rfl

/-- The digest is the one member that may be left out. -/
theorem names_context_sublist :
    (context.members.map Prod.fst).Sublist
      ["binary_name", "binary_sha256", "generated_at", "tool_version"] := by
  cases digest : context.binaryDigest with
  | none => simp [Context.members, digest, member?]
  | some value => simp [Context.members, digest, member?]

/-- No name is given to two members. -/
theorem names_nodup : ((members context findings).map Prod.fst).Nodup := by
  have listed : ((members context findings).map Prod.fst).Sublist
      (["binary_name", "binary_sha256", "generated_at", "tool_version"] ++
        ["unused_class_count", "unused_method_count"] ++ ["unused_classes", "unused_methods"]) := by
    rw [members_eq, List.map_append, List.map_append]
    exact ((names_context_sublist context).append (List.Sublist.refl _)).append (List.Sublist.refl _)
  exact List.Nodup.sublist listed (by decide)

theorem reads_context :
    Reads Context.decoder (.object (members context findings)) context := by
  apply Context.reads_of_fills
  rw [members_eq]
  refine (context.fills.append (Shape.fills_unknown ?_ _)).append (Shape.fills_unknown ?_ _)
  · rw [names_counts]
    decide
  · rw [names_findings]
    decide

theorem reads_findings :
    Reads Findings.decoder (.object (members context findings)) findings := by
  have unknown : ∀ name ∈ ["binary_name", "binary_sha256", "generated_at", "tool_version"],
      Findings.shape.fields.find? (·.name = name) = none := by decide
  apply Findings.reads_of_fills
  rw [members_eq]
  refine ((Shape.fills_unknown ?_ _).append (Shape.fills_unknown ?_ _)).append findings.fills
  · exact fun name member => unknown name ((names_context_sublist context).subset member)
  · rw [names_counts]
    decide

variable {context findings}

theorem decode_renderJson {α : Type} {decoder : Decoder α} {result : α}
    (reads : Reads decoder (.object (members context findings)) result) :
    decode decoder (renderJson context findings) = .ok result := by
  have whole := reads.decode gap_nil (spells_pretty _) gap_nil
  rwa [List.nil_append, List.append_nil] at whole

/-- The text of a report is the text of one object, which has no name twice. It is decoded to the
context of the report and to its findings, and its counts are the lengths of both lists. Reports with
the same text are therefore the same. -/
theorem renderJson_loses_nothing (context : Context) (findings : Findings) :
    ∃ members : List (String × Value),
      (∀ value, Spells value (renderJson context findings) ↔ value = .object members) ∧
      (members.map Prod.fst).Nodup ∧
      decode Context.decoder (renderJson context findings) = .ok context ∧
      decode Findings.decoder (renderJson context findings) = .ok findings ∧
      ("unused_class_count", .number findings.unusedClasses.length) ∈ members ∧
      ("unused_method_count", .number findings.unusedMethods.length) ∈ members ∧
      ∀ otherContext otherFindings,
        renderJson otherContext otherFindings = renderJson context findings →
          otherContext = context ∧ otherFindings = findings := by
  have spelled : Spells (.object (members context findings)) (renderJson context findings) :=
    spells_pretty _
  have decodedContext := decode_renderJson (reads_context context findings)
  have decodedFindings := decode_renderJson (reads_findings context findings)
  refine ⟨members context findings, ?_, names_nodup context findings, decodedContext,
    decodedFindings, ?_, ?_, ?_⟩
  · intro value
    constructor
    · intro spells
      exact spells.unique spelled
    · rintro rfl
      exact spelled
  · simp [members_eq, counts]
  · simp [members_eq, counts]
  · intro otherContext otherFindings same
    have otherDecodedContext := decode_renderJson (reads_context otherContext otherFindings)
    have otherDecodedFindings := decode_renderJson (reads_findings otherContext otherFindings)
    rw [same, decodedContext] at otherDecodedContext
    rw [same, decodedFindings] at otherDecodedFindings
    exact ⟨(Except.ok.inj otherDecodedContext).symm, (Except.ok.inj otherDecodedFindings).symm⟩

end DeadSymbols.Report
