import DeadSymbols.Path

/-!
Contract: the formats of a report.
-/

namespace DeadSymbols.Report

/-- The format of a report. -/
inductive Format where
  | html
  | json
  | text
deriving DecidableEq, Repr

/-- The name of a format. -/
def Format.name : Format → String
  | .html => "html"
  | .json => "json"
  | .text => "text"

/-- The formats by their names. -/
def Format.byName : List (String × Format) :=
  [("html", .html), ("json", .json), ("text", .text)]

/-- The format with a name. -/
def Format.ofName? (name : String) : Option Format := Format.byName.lookup name

/-- The format that a file's extension asks for, whatever the case of its letters; text when it
asks for none. -/
def Format.ofPath (path : String) : Format :=
  match (Path.extension? path).map String.toLower with
  | some "html" => .html
  | some "htm" => .html
  | some "json" => .json
  | _ => .text

end DeadSymbols.Report
