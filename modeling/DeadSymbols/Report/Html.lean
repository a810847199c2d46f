import DeadSymbols.Analysis
import DeadSymbols.Report.Context

/-!
Contract: a report as a page of HTML.

The page has one table for the methods and one for the classes. Names are escaped, so that no
name can end a cell or start a tag. The time and the version are written as they are.
-/

namespace DeadSymbols.Report.Html

/-- The written form of a character. -/
def escapeChar (c : Char) : List Char :=
  if c = '&' then "&amp;".toList
  else if c = '<' then "&lt;".toList
  else if c = '>' then "&gt;".toList
  else if c = '"' then "&quot;".toList
  else if c = '\'' then "&#39;".toList
  else [c]

/-- The written form of a text. -/
def escape (text : List Char) : List Char := text.flatMap escapeChar

/-- A row of a table. -/
def row (entry : String) : List Char :=
  "<tr><td>".toList ++ escape entry.toList ++ "</td></tr>\n".toList

/-- A table with a heading that gives the number of its rows. -/
def table (title : String) (entries : List String) : List Char :=
  "<div><h2>".toList ++ title.toList ++ " (".toList ++ Nat.toDigits 10 entries.length ++
    ")</h2><table>\n".toList ++ entries.flatMap row ++ "</table></div>\n".toList

/-- The head of the page, for a named image. -/
def head (binaryName : String) : List Char :=
  ("<html>\n<head>\n" ++
    "<meta http-equiv=\"Content-Type\" content=\"text/html; charset=utf-8\">\n" ++
    "<title>").toList ++ escape binaryName.toList ++
  (" analysis results</title>\n" ++
    "<style type=\"text/css\">\n" ++
    "table \x7b width: 100%; border-right: 1px solid #490; border-bottom: 1px solid #490; \x7d\n" ++
    "table td \x7b border-left: 1px solid #490; border-top: 1px solid #490; \x7d\n" ++
    "</style>\n</head>\n<body>\n").toList

/-- The line about the report itself. -/
def origin (context : Context) : List Char :=
  "<p>Generated ".toList ++ context.generatedAt.toList ++ " by machsweep ".toList ++
    context.toolVersion.toList ++
    (match context.binaryDigest with
    | some digest => " (sha256 ".toList ++ escape digest.toList ++ ")".toList
    | none => []) ++
    "</p>\n".toList

/-- The page of a report. -/
def render (context : Context) (findings : Findings) : List Char :=
  head context.binaryName ++ origin context ++
    table "Possibly unused methods" findings.unusedMethods ++
    table "Possibly unused classes" findings.unusedClasses ++
    "</body>\n</html>\n".toList

end DeadSymbols.Report.Html
