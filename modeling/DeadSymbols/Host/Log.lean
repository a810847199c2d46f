import DeadSymbols.Text.Quoted

/-!
Contract: log lines, and which of them are shown.

A line has a level, a message and named fields. A threshold lets a line pass when the line is
at least as severe.
-/

namespace DeadSymbols

/-- How severe a log line is, from the most to the least severe. -/
inductive Level where
  | error
  | warn
  | info
  | debug
  | trace
deriving DecidableEq, Repr

/-- The levels by the names that a setting may use. -/
def Level.byName : List (String × Level) :=
  [("error", .error), ("warn", .warn), ("info", .info), ("debug", .debug), ("trace", .trace)]

/-- The name of a level in a log line. -/
def Level.label : Level → String
  | .error => "ERROR"
  | .warn => "WARN"
  | .info => "INFO"
  | .debug => "DEBUG"
  | .trace => "TRACE"

/-- The place of a level, the most severe one first. -/
def Level.rank : Level → Nat
  | .error => 1
  | .warn => 2
  | .info => 3
  | .debug => 4
  | .trace => 5

/-- A line of the log. The fields are values in their printed form. -/
structure LogLine where
  level : Level
  message : String
  fields : List (String × String)
deriving DecidableEq, Repr

/-- The text of a line: the level, the message, and the fields in order. -/
def LogLine.text (line : LogLine) : String :=
  line.fields.foldl (fun text (name, value) => text ++ " " ++ name ++ "=" ++ value)
    (line.level.label ++ " " ++ line.message)

/-- The least severe level that is shown; `none` shows nothing. -/
abbrev Threshold : Type := Option Level

/-- Whether a threshold lets a line pass. -/
def Threshold.shows (threshold : Threshold) (line : LogLine) : Bool :=
  match threshold with
  | some level => line.level.rank ≤ level.rank
  | none => false

/-- The threshold that a text asks for: a level by name, whatever its case, or by its place.
The empty text asks for errors only. -/
def Threshold.ofText? (text : String) : Option Threshold :=
  let name := text.toLower
  if name = "" then some (some .error)
  else if name = "off" || name = "0" then some none
  else
    (Level.byName.find? fun (known, level) => name = known || name = toString level.rank).map
      fun (_, level) => some level

/-- The threshold of a run: as the environment asks, or as the flags ask. -/
def Threshold.resolve (asked : Option String) (verbose quiet : Bool) : Threshold :=
  match asked.bind Threshold.ofText? with
  | some threshold => threshold
  | none => some (if quiet then .error else if verbose then .debug else .info)

end DeadSymbols
