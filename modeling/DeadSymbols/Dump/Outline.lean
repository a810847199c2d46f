import DeadSymbols.Dump.Record
import DeadSymbols.Method

/-!
Contract: what the lines of a class record say, before any class name is resolved.

The first line `name 0x<address> <token>` of a record names its class. After it, a native
record pairs selectors with implementations: a line `imp 0x<address>` that carries a symbol
`-[Owner selector]` or `+[Owner selector]` gives both by itself, and one without a symbol takes
the selector of the last `name` line that no earlier `imp` line has used. In a bridged record
every later `name` line is a selector of the class.

No class name is changed here: an outline holds the tokens of the dump, and
`Outline.resolve` turns it into a `ClassRecord` under a renaming.
-/

namespace DeadSymbols.Dump

open DeadSymbols.Text

/-- The token of a line `name 0x<address> <token>`. -/
def nameToken? (line : List Char) : Option String := do
  let name ← after? "name".toList (trimStart line)
  let spaced ← afterSpaces? name
  let address ← afterAddress? spaced
  let rest ← afterSpaces? address
  let (token, _) ← word? rest
  return String.ofList token

/-- What an implementation line says besides its address. -/
inductive ImpLine where
  | stripped
  | symbol (owner selector : String)
deriving DecidableEq, Repr

/-- The characters of a selector inside a symbol. -/
def isSymbolSelectorChar (c : Char) : Bool := c ≠ ']' && !isSpace c

/-- The owner and the selector of a symbol `-[Owner selector]` or `+[Owner selector]`, which
follows white space. -/
def symbol? (text : List Char) : Option (String × String) := do
  let sign ← afterSpaces? text
  let opened ← (after? "-[".toList sign).or (after? "+[".toList sign)
  let (owner, spaced) ← word? opened
  let named ← after? " ".toList spaced
  let (selector, closing) ← run? isSymbolSelectorChar named
  let _ ← after? "]".toList closing
  return (String.ofList owner, String.ofList selector)

/-- Reads a line `imp 0x<address>`, with its symbol if it carries one. -/
def impLine? (line : List Char) : Option ImpLine := do
  let imp ← after? "imp".toList (trimStart line)
  let spaced ← afterSpaces? imp
  let rest ← afterAddress? spaced
  match symbol? rest with
  | some (owner, selector) => return .symbol owner selector
  | none => return .stripped

/-- A method as its record gives it. Without an owner of its own it belongs to the record's
class. -/
structure MethodToken where
  owner : Option String
  selector : String
deriving DecidableEq, Repr

/-- The class token of a record and its methods. -/
structure Outline where
  className : String
  methods : List MethodToken
deriving DecidableEq, Repr

/-- The methods of a native record, from the lines after its class name. `pending` is the
selector that no implementation line has used yet. -/
def nativeMethods : Option String → List (List Char) → List MethodToken
  | _, [] => []
  | pending, line :: rest =>
    match nameToken? line with
    | some selector => nativeMethods (some selector) rest
    | none =>
      match impLine? line, pending with
      | none, _ => nativeMethods pending rest
      | some (.symbol owner selector), _ =>
        { owner := some owner, selector } :: nativeMethods none rest
      | some .stripped, some selector => { owner := none, selector } :: nativeMethods none rest
      | some .stripped, none => nativeMethods none rest

/-- The methods of a bridged record, from the lines after its class name. -/
def bridgedMethods (lines : List (List Char)) : List MethodToken :=
  (lines.filterMap nameToken?).map fun selector => { owner := none, selector }

/-- The class name of a record, and the lines after the one that gives it. -/
def classNameLine? : List (List Char) → Option (String × List (List Char))
  | [] => none
  | line :: rest =>
    match nameToken? line with
    | some name => some (name, rest)
    | none => classNameLine? rest

/-- The class token of a record's text. -/
def className? (body : List Char) : Option String :=
  (classNameLine? (lines body)).map Prod.fst

/-- The outline of a record's text; `none` when it names no class. -/
def RawRecord.outline? (record : RawRecord) : Option Outline :=
  (classNameLine? (lines record.body)).map fun (className, rest) =>
    match record.flavor with
    | .native => { className, methods := nativeMethods none rest }
    | .bridged => { className, methods := bridgedMethods rest }

/-- The class tokens of an outline: its own, then the owners in its symbols. -/
def Outline.classTokens (outline : Outline) : List String :=
  outline.className :: outline.methods.filterMap MethodToken.owner

/-- The class of an outline under a renaming of class names. The teardown hook is left out. -/
def Outline.resolve (rename : String → String) (outline : Outline) : ClassRecord :=
  { className := rename outline.className
    methods := (outline.methods.filter (·.selector ≠ teardownSelector)).map fun method =>
      Method.of (rename (method.owner.getD outline.className)) method.selector }

/-- The class of a record under a renaming of class names; `none` when it names no class. -/
def RawRecord.parse? (rename : String → String) (record : RawRecord) : Option ClassRecord :=
  record.outline?.map (Outline.resolve rename)

end DeadSymbols.Dump
