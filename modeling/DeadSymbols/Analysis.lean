import DeadSymbols.Dump.Reference
import DeadSymbols.Index

/-!
Contract: which classes and methods of an image nothing in it refers to.

`Metadata.extract` reads a dump and a text of selector references. `analyze` compares what is
declared with what is referenced: a class is unused when no class reference targets it, and a
method is unused when its selector is neither referenced nor whitelisted. Class names take part
in their resolved form, under a renaming that the caller supplies; selectors are never renamed.

Owns: the metadata of a dump, its index, the findings.
Does not own: how a class name is resolved (`Name.Demangler`).
-/

namespace DeadSymbols

open DeadSymbols.Dump

/-- All that the analysis needs from a dump. Class tokens are kept as the dump spells them. -/
structure Metadata where
  native : List RawRecord
  bridged : List RawRecord
  selectors : NameSet
  declared : NameSet
  referenced : NameSet
deriving DecidableEq

/-- Reads a dump, and the selectors referenced in a further text. -/
def Metadata.extract (dump selectorText : List Char) : Metadata :=
  let records := rawRecords dump
  { native := records.filter (·.flavor = .native)
    bridged := records.filter (·.flavor = .bridged)
    selectors := referencedSelectors selectorText
    declared := declaredClasses dump
    referenced := referencedClasses dump }

/-- Whether a dump carries no metadata at all. -/
def Metadata.isEmpty (metadata : Metadata) : Bool :=
  metadata.native.isEmpty && metadata.bridged.isEmpty && metadata.selectors.isEmpty &&
    metadata.declared.isEmpty && metadata.referenced.isEmpty

/-- The index of the records that name a class. -/
def indexRecords (rename : String → String) (records : List RawRecord) : Index :=
  Index.ofClasses (records.filterMap (RawRecord.parse? rename))

/-- The index of all records of the metadata. -/
def Metadata.index (rename : String → String) (metadata : Metadata) : Index :=
  (indexRecords rename metadata.native).merge (indexRecords rename metadata.bridged)

/-- What nothing refers to: class names and method signatures, both ascending. -/
structure Findings where
  unusedClasses : List String
  unusedMethods : List String
deriving DecidableEq, Repr

/-- Nothing is unused. -/
def Findings.none : Findings := { unusedClasses := [], unusedMethods := [] }

/-- Whether nothing is unused. -/
def Findings.isEmpty (findings : Findings) : Bool :=
  findings.unusedClasses.isEmpty && findings.unusedMethods.isEmpty

/-- The declared classes that are not referenced, ascending. -/
def unusedClasses (declared referenced : NameSet) : List String :=
  (declared.diff referenced).toList

/-- The signatures under every selector that is neither whitelisted nor referenced, ascending. A
signature stands once for each such selector it is stored under. -/
def unusedMethods (index : Index) (referenced whitelist : NameSet) : List String :=
  let candidates := index.entries.entries.filter fun entry =>
    decide (entry.1 ∉ whitelist) && decide (entry.1 ∉ referenced)
  (candidates.flatMap (·.2.toList)).mergeSort (· ≤ ·)

/-- The findings on the metadata of a dump, under a renaming of classes. -/
def Metadata.findings (rename : String → String) (whitelist : NameSet) (metadata : Metadata) :
    Findings :=
  if metadata.isEmpty then .none
  else
    { unusedClasses :=
        unusedClasses (metadata.declared.image rename) (metadata.referenced.image rename)
      unusedMethods := unusedMethods (metadata.index rename) metadata.selectors whitelist }

/-- The text that is searched for selector references: the dump itself when no other text is
given, since a full dump holds them too. -/
def selectorSource (dump selectorText : List Char) : List Char :=
  if Text.isBlank selectorText then dump else selectorText

/-- The metadata that an analysis of a dump and a text of selector references rests on. -/
def Metadata.ofTexts (dump selectorText : List Char) : Metadata :=
  Metadata.extract dump (selectorSource dump selectorText)

/-- The classes and methods of a dump that nothing refers to. -/
def analyze (rename : String → String) (whitelist : NameSet) (dump selectorText : List Char) :
    Findings :=
  (Metadata.ofTexts dump selectorText).findings rename whitelist

end DeadSymbols
