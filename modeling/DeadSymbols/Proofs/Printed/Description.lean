import DeadSymbols.Analysis
import DeadSymbols.Proofs.Printed.Line

/-!
Contract: what a well-formed dump describes, and the texts that describe it.

A description lists classes, class references and selector references, each with the addresses and
the encodings that its lines show. Its dump has one section for each of the three lists; the
selector references may also stand in a text of their own. Fillers stand wherever a dump has lines
that no reader looks at: around the records, between the lines of a record and around its ivars.

`Description.findings` says from the lists alone what is unused, without the dump.

Owns: descriptions, their texts, and the answers that the lists give.
Does not own: what the readers make of the texts (`Printed.Recovery`).
-/

namespace DeadSymbols.Dump.Printed

open DeadSymbols.Text

/-! ### Class records -/

/-- What the implementation line of a method shows: the address alone, or also a symbol with the
selector, which then holds no closing bracket. -/
inductive Implementation (selector : Token) where
  | stripped
  | symbol (sign : Sign) (closable : ']' ∉ selector.chars)

structure MethodEntry where
  selector : Token
  implementation : Implementation selector
  encoding : LineText
  nameAddress : Address
  typesAddress : Address
  impAddress : Address

/-- The implementation line of a method; a symbol names the record's own class. -/
def MethodEntry.impLine (owner : Token) (method : MethodEntry) : Line :=
  match method.implementation with
  | .stripped => .strippedImp method.impAddress
  | .symbol sign closable => .symbolImp method.impAddress sign owner method.selector closable

def MethodEntry.lines (owner : Token) (method : MethodEntry) : List Line :=
  [.methodName method.nameAddress method.selector, .types method.typesAddress method.encoding,
    method.impLine owner]

structure IvarEntry where
  name : Token
  encoding : LineText
  nameAddress : Address
  typeAddress : Address
  before : List Filler
  after : List Filler

def IvarEntry.lines (ivar : IvarEntry) : List Line :=
  ivar.before.map .filler ++ .ivarName ivar.nameAddress ivar.name ::
    .ivarType ivar.typeAddress ivar.encoding :: ivar.after.map .filler

/-- A class with its methods and ivars. The fillers stand before its record, before its name, before
its methods, before its ivars and after them. -/
structure ClassEntry where
  flavor : Flavor
  token : Token
  methods : List MethodEntry
  ivars : List IvarEntry
  recordAddress : Address
  nameAddress : Address
  methodsAddress : Address
  protocolsAddress : Address
  beforeRecord : List Filler
  beforeName : List Filler
  beforeMethods : List Filler
  beforeIvars : List Filler
  afterIvars : List Filler

/-- The lines of a record after the name of its class. -/
def ClassEntry.methodLines (entry : ClassEntry) : List Line :=
  .baseMethods entry.methodsAddress :: (entry.beforeMethods.map .filler ++
    entry.methods.flatMap (MethodEntry.lines entry.token))

/-- The lines between the header of a record and the line that closes it. -/
def ClassEntry.body (entry : ClassEntry) : List Line :=
  entry.beforeName.map .filler ++ .className entry.nameAddress entry.token :: entry.methodLines

/-- The lines after the one that closes a record. -/
def ClassEntry.tail (entry : ClassEntry) : List Line :=
  entry.beforeIvars.map .filler ++ (entry.ivars.flatMap IvarEntry.lines ++
    entry.afterIvars.map .filler)

def ClassEntry.lines (entry : ClassEntry) : List Line :=
  entry.beforeRecord.map .filler ++ .record entry.flavor entry.recordAddress ::
    (entry.body ++ .baseProtocols entry.protocolsAddress :: entry.tail)

/-- The selectors of a class, less the teardown hook. -/
def ClassEntry.selectors (entry : ClassEntry) : List String :=
  (entry.methods.map (·.selector.name)).filter (· ≠ teardownSelector)

/-- The class that an entry describes. -/
def ClassEntry.described (rename : String → String) (entry : ClassEntry) : ClassRecord :=
  { className := rename entry.token.name
    methods := entry.selectors.map (Method.of (rename entry.token.name)) }

/-! ### Sections -/

/-- A section: its header, and the lines under it. -/
structure Section where
  segment : Segment
  kind : SectionKind
  content : List Line

def Section.lines (part : Section) : List Line := .header part.segment part.kind :: part.content

/-- The text with the given lines. -/
def written (lines : List Line) : List Char := unlines (lines.map Line.text)

/-- The text with the given sections after some fillers. -/
def sectioned (preamble : List Filler) (sections : List Section) : List Char :=
  written (preamble.map .filler ++ sections.flatMap Section.lines)

structure ClassReference where
  place : Address
  address : Address
  token : Token

structure SelectorReference where
  place : Address
  selector : Token

structure Description where
  preamble : List Filler
  classes : List ClassEntry
  classReferences : List ClassReference
  selectorReferences : List SelectorReference
  classListSegment : Segment
  classReferencesSegment : Segment
  selectorReferencesSegment : Segment

/-- Where the selector references stand: in the dump, next to a blank text, or in a text of their
own that may start with fillers. -/
inductive Placement where
  | inDump (blankText : List Char) (blank : isBlank blankText = true)
  | separate (preamble : List Filler)

namespace Description

variable (description : Description)

def classListSection : Section :=
  { segment := description.classListSegment
    kind := .classList
    content := description.classes.flatMap ClassEntry.lines }

def classReferencesSection : Section :=
  { segment := description.classReferencesSegment
    kind := .classReferences
    content := description.classReferences.map fun reference =>
      .classReference reference.place reference.address reference.token }

def selectorReferencesSection : Section :=
  { segment := description.selectorReferencesSegment
    kind := .selectorReferences
    content := description.selectorReferences.map fun reference =>
      .selectorReference reference.place reference.selector }

/-- The sections of the dump. -/
def sections : Placement → List Section
  | .inDump _ _ =>
      [description.classListSection, description.classReferencesSection,
        description.selectorReferencesSection]
  | .separate _ => [description.classListSection, description.classReferencesSection]

/-- The dump of a description. -/
def dump (placement : Placement) : List Char :=
  sectioned description.preamble (description.sections placement)

/-- The further text of a description. -/
def selectorText : Placement → List Char
  | .inDump blankText _ => blankText
  | .separate preamble => sectioned preamble [description.selectorReferencesSection]

def declaredNames : List String := description.classes.map (·.token.name)

def referencedNames : List String := description.classReferences.map (·.token.name)

def referencedSelectorNames : List String := description.selectorReferences.map (·.selector.name)

/-- What is unused according to the lists. -/
def findings (rename : String → String) (whitelist : NameSet) : Findings :=
  { unusedClasses :=
      ((NameSet.ofList (description.declaredNames.map rename)).diff
        (NameSet.ofList (description.referencedNames.map rename))).toList
    unusedMethods :=
      (NameSet.ofList (description.classes.flatMap fun entry =>
        (entry.selectors.filter fun selector =>
            decide (selector ∉ whitelist ∧ selector ∉ description.referencedSelectorNames)).map
          (signature (rename entry.token.name)))).toList }

end Description

end DeadSymbols.Dump.Printed
