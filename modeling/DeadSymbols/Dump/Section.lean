import DeadSymbols.Text.Scan

/-!
Contract: the section structure of a metadata dump.

A section is announced by a header `Contents of (<segment>,<section>) section`, which starts a
line (blanks and tabs may stand before it) and runs to the end of its line. The names between
the parentheses hold no comma and no parenthesis, and may run over line ends. `layout` cuts a
dump at its headers, from left to right, into the text before the first header and one block
per header; nothing is lost. `sectionBody?` picks the body of a block by its section name.
-/

namespace DeadSymbols.Dump

open DeadSymbols.Text

/-- A section header: its text, and the two names between its parentheses as written. -/
structure Header where
  text : List Char
  segment : List Char
  name : List Char
deriving DecidableEq, Repr

/-- A header with the text that follows it, up to the next header or the end of the dump. -/
structure Block where
  header : Header
  body : List Char
deriving DecidableEq, Repr

/-- A dump cut at its section headers. -/
structure Layout where
  preamble : List Char
  blocks : List Block
deriving DecidableEq, Repr

/-- The blanks that may stand before a header. -/
def isIndent (c : Char) : Bool := c = ' ' || c = '\t'

/-- The characters of a segment or section name. -/
def isNameChar (c : Char) : Bool := c ≠ ',' && c ≠ '(' && c ≠ ')'

/-- Reads a header at the start of a line, and the text after it. -/
def header? (text : List Char) : Option (Header × List Char) := do
  let opened ← after? "Contents of (".toList (text.dropWhile isIndent)
  let (segment, afterSegment) ← run? isNameChar opened
  let named ← after? ",".toList afterSegment
  let (name, afterName) ← run? isNameChar named
  let tail ← after? ") section".toList afterName
  let written := text.takeWhile isIndent ++ "Contents of (".toList ++ segment ++ ",".toList ++
    name ++ ") section".toList ++ tail.takeWhile (· ≠ '\n')
  return ({ text := written, segment, name }, tail.dropWhile (· ≠ '\n'))

/-- Reads a header where one may stand. -/
def headerAt? (lineStart : Bool) (text : List Char) : Option (Header × List Char) :=
  if lineStart then header? text else none

theorem header?_length {text rest : List Char} {header : Header}
    (found : header? text = some (header, rest)) : rest.length < text.length := by
  simp only [header?, bind, Option.bind_eq_some_iff, Prod.exists, pure, Option.some.injEq,
    Prod.mk.injEq] at found
  obtain ⟨opened, matchedOpen, segment, afterSegment, matchedSegment, named, matchedComma, name,
    afterName, matchedName, tail, matchedTail, _, rfl⟩ := found
  have indented := (List.dropWhile_sublist (l := text) isIndent).length_le
  have dropped := (List.dropWhile_sublist (l := tail) (· ≠ '\n')).length_le
  have opening := after?_length matchedOpen
  have segmentLength := run?_length matchedSegment
  have comma := after?_length matchedComma
  have nameLength := run?_length matchedName
  have closing := after?_length matchedTail
  have word : "Contents of (".toList.length = 13 := rfl
  omega

theorem headerAt?_length {lineStart : Bool} {text rest : List Char} {header : Header}
    (found : headerAt? lineStart text = some (header, rest)) : rest.length < text.length := by
  cases lineStart with
  | false => simp [headerAt?] at found
  | true => exact header?_length (by simpa [headerAt?] using found)

/-- Cuts a text before its next header: the text up to there, and the blocks from there on.
`lineStart` says whether the text starts a line. -/
def cut (lineStart : Bool) (text : List Char) : List Char × List Block :=
  match text with
  | [] => ([], [])
  | c :: more =>
    match found : headerAt? lineStart (c :: more) with
    | some (header, rest) =>
      have := headerAt?_length found
      let (body, blocks) := cut false rest
      ([], { header, body } :: blocks)
    | none =>
      let (before, blocks) := cut (c = '\n') more
      (c :: before, blocks)
termination_by text.length
decreasing_by all_goals simp only [List.length_cons] at *; omega

/-- The dump cut at its section headers. -/
def layout (dump : List Char) : Layout :=
  let (preamble, blocks) := cut true dump
  { preamble, blocks }

/-- Whether a header announces the given section in a data segment: the segment's name, trimmed,
starts with `__DATA`. -/
def Header.names (header : Header) (name : String) : Bool :=
  startsWith "__DATA".toList (trim header.segment) && trim header.name == name.toList

/-- The body of the first data section with the given name. -/
def sectionBody? (dump : List Char) (name : String) : Option (List Char) :=
  ((layout dump).blocks.find? (·.header.names name)).map Block.body

/-- The section with one pointer per class that the image defines. -/
def classList : String := "__objc_classlist"

/-- The section with one pointer per class that the code loads. -/
def classReferences : String := "__objc_classrefs"

/-- The section with one pointer per selector that the code sends. -/
def selectorReferences : String := "__objc_selrefs"

end DeadSymbols.Dump
