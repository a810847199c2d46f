import DeadSymbols.Codec
import DeadSymbols.Report.Html

/-!
Contract: the text of a report in each format.
-/

namespace DeadSymbols.Report

/-- A list with a heading that gives its length, one entry per line. -/
def textList (title : String) (entries : List String) : List Char :=
  title.toList ++ " (".toList ++ Nat.toDigits 10 entries.length ++ "):\n".toList ++
    entries.flatMap fun entry => "  ".toList ++ entry.toList ++ "\n".toList

/-- A report as plain text. -/
def renderText (findings : Findings) : List Char :=
  textList "Possibly unused methods" findings.unusedMethods ++
    textList "Possibly unused classes" findings.unusedClasses

/-- The members of a report as JSON: its context, the counts and both lists. -/
def members (context : Context) (findings : Findings) : List (String × Json.Value) :=
  context.members ++
    [("unused_class_count", .number findings.unusedClasses.length),
     ("unused_method_count", .number findings.unusedMethods.length)] ++
    findings.members

/-- A report as JSON. -/
def renderJson (context : Context) (findings : Findings) : List Char :=
  (Json.Value.object (members context findings)).pretty

/-- A report in a format. -/
def render (format : Format) (context : Context) (findings : Findings) : List Char :=
  match format with
  | .html => Html.render context findings
  | .json => renderJson context findings
  | .text => renderText findings

end DeadSymbols.Report
