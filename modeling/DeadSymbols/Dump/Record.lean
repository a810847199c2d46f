import DeadSymbols.Text.Line
import DeadSymbols.Text.Scan

/-!
Contract: the class records of a metadata dump.

A record starts after its header line `data 0x<address> (struct class_ro_t *)` and runs over
whole lines to the next line that closes it: the next record's header, a line that starts with
`baseProtocols` or `Contents of` after white space, or the end of the dump. Text after the
header's pointer that starts with `Swift class` marks a bridged record.

`rawRecords` reads the lines once, from the first to the last, with at most one open record.
-/

namespace DeadSymbols.Dump

open DeadSymbols.Text

/-- Where a class record comes from. -/
inductive Flavor where
  /-- An Objective-C class: methods carry symbols such as `-[Class selector]`. -/
  | native
  /-- A Swift class that the Objective-C runtime sees: bare selector names only. -/
  | bridged
deriving DecidableEq, Repr

/-- The text of one class record. -/
structure RawRecord where
  flavor : Flavor
  body : List Char
deriving DecidableEq, Repr

/-- The text after the pointer of a record's header line. -/
def afterRecordPointer? (line : List Char) : Option (List Char) := do
  let data ← after? "data".toList (trimStart line)
  let address ← afterSpaces? data
  let spaced ← afterAddress? address
  let pointer ← afterSpaces? spaced
  after? "(struct class_ro_t *)".toList pointer

/-- The part a line plays for the records around it. -/
inductive LineRole where
  /-- Closes an open record and opens the next. -/
  | header (flavor : Flavor)
  /-- Closes an open record. -/
  | terminator
  /-- Belongs to an open record, if there is one. -/
  | content
deriving DecidableEq, Repr

/-- The role of a line, given without its line end. -/
def lineRole (line : List Char) : LineRole :=
  match afterRecordPointer? line with
  | some rest =>
    if startsWith "Swift class".toList (trimStart rest) then .header .bridged else .header .native
  | none =>
    let start := trimStart line
    if startsWith "baseProtocols".toList start || startsWith "Contents of".toList start then
      .terminator
    else .content

/-- A record that is being read: its flavor and its pieces so far, the last one first. -/
structure OpenRecord where
  flavor : Flavor
  pieces : List (List Char)

/-- The record as read up to here. -/
def OpenRecord.close (record : OpenRecord) : RawRecord :=
  { flavor := record.flavor, body := record.pieces.reverse.flatten }

/-- The records among the pieces that are left, given the record that is open before them. -/
def recordsFrom : Option OpenRecord → List (List Char) → List RawRecord
  | current, [] => (current.map OpenRecord.close).toList
  | current, piece :: rest =>
    match lineRole (dropLineEnd piece) with
    | .header flavor =>
      (current.map OpenRecord.close).toList ++ recordsFrom (some { flavor, pieces := [] }) rest
    | .terminator => (current.map OpenRecord.close).toList ++ recordsFrom none rest
    | .content =>
      recordsFrom (current.map fun record => { record with pieces := piece :: record.pieces }) rest

/-- The class records of a dump, in its order. -/
def rawRecords (dump : List Char) : List RawRecord :=
  recordsFrom none (pieces dump)

end DeadSymbols.Dump
