import DeadSymbols.Dump.Outline
import DeadSymbols.Dump.Section
import DeadSymbols.Ordered.NameSet

/-!
Contract: the names that a dump declares and the names that it references.

Owns: the classes declared in the class list, the classes targeted from the class references,
and the selectors named in the selector references.
-/

namespace DeadSymbols.Dump

open DeadSymbols.Text

/-- The class tokens among non-blank lines: the name on each line that stands just before a
`baseMethods` line. -/
def namesBeforeMethods : List (List Char) → List String
  | [] => []
  | [_] => []
  | line :: next :: rest =>
    let later := namesBeforeMethods (next :: rest)
    match nameToken? line with
    | some name => if startsWith "baseMethods".toList (trimStart next) then name :: later else later
    | none => later

/-- The classes declared in the text of a class list. -/
def declaredIn (body : List Char) : NameSet :=
  NameSet.ofList (namesBeforeMethods ((lines body).filter (!isBlank ·)))

/-- The class that a line `<address> 0x<address> _OBJC_CLASS_$_<token>` refers to. -/
def classReference? (line : List Char) : Option String := do
  let (_, rest) ← run? isHexDigit (trimStart line)
  let spaced ← afterSpaces? rest
  let address ← afterAddress? spaced
  let symbol ← afterSpaces? address
  let target ← after? "_OBJC_CLASS_$_".toList symbol
  let (token, _) ← word? target
  return String.ofList token

/-- The classes referenced in the text of a class reference section. -/
def referencedIn (body : List Char) : NameSet :=
  NameSet.ofList ((lines body).filterMap classReference?)

/-- The mark before a selector's name in a selector reference. -/
def selectorMark : List Char := "__TEXT:__objc_methname:".toList

/-- The characters that may stand inside a line. -/
def inLine (c : Char) : Bool := c ≠ '\r' && c ≠ '\n'

theorem length_lt_of_marked {rest : List Char} {c : Char} {more : List Char}
    (found : after? selectorMark (c :: more) = some rest) :
    (rest.dropWhile inLine).length < (c :: more).length := by
  have marked := after?_length found
  have dropped := (List.dropWhile_sublist (l := rest) inLine).length_le
  have markLength : selectorMark.length = 23 := rfl
  omega

theorem length_lt_cons (c : Char) (more : List Char) : more.length < (c :: more).length :=
  Nat.lt_succ_self more.length

/-- The texts that follow a selector mark, each up to the end of its line. -/
def markedTexts (text : List Char) : List (List Char) :=
  match text with
  | [] => []
  | c :: more =>
    match found : after? selectorMark (c :: more) with
    | some rest =>
      have := length_lt_of_marked found
      rest.takeWhile inLine :: markedTexts (rest.dropWhile inLine)
    | none => markedTexts more
termination_by text.length
decreasing_by
  · exact this
  · exact length_lt_cons c more

/-- The selectors named in a text: what follows each mark, trimmed, unless it is empty. -/
def selectorsIn (text : List Char) : NameSet :=
  NameSet.ofList (((markedTexts text).map trim).filter (!·.isEmpty) |>.map String.ofList)

/-- The classes that a dump declares; none without a class list. -/
def declaredClasses (dump : List Char) : NameSet :=
  ((sectionBody? dump classList).map declaredIn).getD ∅

/-- The classes that a dump references; none without a section of class references. -/
def referencedClasses (dump : List Char) : NameSet :=
  ((sectionBody? dump classReferences).map referencedIn).getD ∅

/-- The selectors that a text references: those of its selector references, or of the whole text
when it has no such section. -/
def referencedSelectors (text : List Char) : NameSet :=
  selectorsIn ((sectionBody? text selectorReferences).getD text)

end DeadSymbols.Dump
