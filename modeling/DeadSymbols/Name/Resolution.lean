import DeadSymbols.Analysis
import DeadSymbols.Name.Memo

/-!
Contract: the analysis with names that a demangler is asked for.

A demangler is asked for class tokens one after another, where they are met: for each record its
class and then the owner of every symbol, native records before bridged ones, after them the
declared and then the referenced classes. Every answer counts at the place it was asked for, so a
demangler may answer one token differently at two places. One whose answers depend on the name
alone gives the same result in every order.
-/

namespace DeadSymbols

open DeadSymbols.Dump
open DeadSymbols.Name

variable {σ : Type}

/-- The methods of a class, given the names of their owners in turn. A method without an owner of
its own belongs to the class; an owner for which no name is left keeps its token. -/
def Dump.methodsNamed (className : String) : List MethodToken → List String → List Method
  | [], _ => []
  | { owner := none, selector } :: rest, names =>
    Method.of className selector :: methodsNamed className rest names
  | { owner := some _, selector } :: rest, name :: names =>
    Method.of name selector :: methodsNamed className rest names
  | { owner := some token, selector } :: rest, [] =>
    Method.of token selector :: methodsNamed className rest []

/-- The class of an outline, given the names of its class tokens in turn. The teardown hook is left
out. -/
def Dump.Outline.named (outline : Outline) (names : List String) : ClassRecord :=
  let className := names.headD outline.className
  { className
    methods := (methodsNamed className outline.methods names.tail).filter
      (·.selector ≠ teardownSelector) }

/-- The class of a record, or `none` when it names no class. -/
def Dump.RawRecord.parseWith? (demangler : Demangler σ) (record : RawRecord) :
    StateM σ (Option ClassRecord) :=
  match record.outline? with
  | none => return none
  | some outline => do return some (outline.named (← resolveAll demangler outline.classTokens))

/-- The classes of the records that name one, parsed in turn. -/
def parseRecordsWith (demangler : Demangler σ) : List RawRecord → StateM σ (List ClassRecord)
  | [] => return []
  | record :: rest => do
    let parsed ← record.parseWith? demangler
    return parsed.toList ++ (← parseRecordsWith demangler rest)

/-- The index of the records that name a class. -/
def indexRecordsWith (demangler : Demangler σ) (records : List RawRecord) : StateM σ Index := do
  return Index.ofClasses (← parseRecordsWith demangler records)

/-- The index of all records of the metadata. -/
def Metadata.indexWith (demangler : Demangler σ) (metadata : Metadata) : StateM σ Index := do
  let native ← indexRecordsWith demangler metadata.native
  let bridged ← indexRecordsWith demangler metadata.bridged
  return native.merge bridged

/-- The index of all class records of a dump. -/
def dumpIndexWith (demangler : Demangler σ) (dump : List Char) : StateM σ Index :=
  (Metadata.extract dump []).indexWith demangler

/-- The set of the names in use for the members of a set, asked for in ascending order. -/
def resolveSet (demangler : Demangler σ) (names : NameSet) : StateM σ NameSet := do
  return NameSet.ofList (← resolveAll demangler names.toList)

/-- The findings on metadata, given the index of its records. -/
def Metadata.compareWith (demangler : Demangler σ) (whitelist : NameSet) (index : Index)
    (metadata : Metadata) : StateM σ Findings := do
  let declared ← resolveSet demangler metadata.declared
  let referenced ← resolveSet demangler metadata.referenced
  return { unusedClasses := unusedClasses declared referenced
           unusedMethods := unusedMethods index metadata.selectors whitelist }

/-- The classes and methods of a dump that nothing refers to. -/
def analyzeWith (demangler : Demangler σ) (whitelist : NameSet)
    (dump selectorText : List Char) : StateM σ Findings := do
  let metadata := Metadata.ofTexts dump selectorText
  if metadata.isEmpty then return .none
  let index ← metadata.indexWith demangler
  metadata.compareWith demangler whitelist index

end DeadSymbols
