import DeadSymbols.Yaml.Stream

/-!
Contract: the value that a YAML text spells.

A text holds at most one document. A text without one spells an empty plain scalar.

Anchored nodes are numbered, and an alias refers to the number that its name has at that place. A
number is the count of the names that are known before it, so a name that is used again shares its
number with the next new name. Of several nodes with one number the last in the text counts, also
for an alias before it. Aliases stay in the nodes and are followed when a value is wanted.

Fuel bounds the nesting and the number of entries; twice the number of tokens is always enough.
-/

namespace DeadSymbols.Yaml

/-- A value of a YAML document. -/
inductive Node where
  | scalar (tag : Option String) (style : Style) (text : String)
  | sequence (items : List Node)
  | mapping (entries : List (Node × Node))
  /-- The node with a number. -/
  | reference (number : Nat)
deriving Repr

/-- The scalar that an omitted node spells. -/
def Node.empty : Node := .scalar none .plain ""

/-- What is left of a document, and what has been named in it. -/
structure Remaining where
  tokens : List Token
  /-- The names of anchors, each with the number it has now. -/
  numbers : List (List Char × Nat)
  /-- The nodes with an anchor, in order, each with its number. -/
  anchored : List (Nat × Node)
  /-- What the handles of tags stand for. -/
  handles : List (List Char × List Char)

/-- Reads from what is left of a document. -/
abbrev NodeM : Type → Type := StateT Remaining Option

/-- The handles that every document knows. -/
def standardHandles : List (List Char × List Char) :=
  [(['!'], ['!']), (['!', '!'], "tag:yaml.org,2002:".toList)]

namespace NodeM

/-- The next token; `none` at the end. -/
def peek : NodeM (Option Token) := do return (← get).tokens.head?

/-- Goes past the next token. -/
def skip : NodeM Unit :=
  modify fun remaining => { remaining with tokens := remaining.tokens.drop 1 }

/-- Whether the next token is one of the given ones. -/
def seesAny (tokens : List Token) : NodeM Bool := do
  return match ← peek with
    | some token => tokens.contains token
    | none => false

/-- Goes past the next token if it is the given one. -/
def accept (token : Token) : NodeM Bool := do
  if ← seesAny [token] then
    skip
    return true
  return false

/-- The node of an alias. -/
def aliased (name : List Char) : NodeM Node := do
  match (← get).numbers.lookup name with
  | some number => return .reference number
  | none => failure

/-- Reads an anchor, if there is one. -/
def anchor? : NodeM (Option (List Char)) := do
  match ← peek with
  | some (.anchor name) =>
    skip
    return some name
  | _ => return none

/-- Reads a tag, if there is one, and spells it out. -/
def tag? : NodeM (Option String) := do
  match ← peek with
  | some (.tag handle suffix) =>
    skip
    if handle.isEmpty then return some (String.ofList suffix)
    match (← get).handles.lookup handle with
    | some expansion => return some (String.ofList (expansion ++ suffix))
    | none => failure
  | _ => return none

/-- The properties of a node: an anchor and a tag, in any order. -/
def properties : NodeM (Option (List Char) × Option String) := do
  match ← anchor? with
  | some name => return (some name, ← tag?)
  | none =>
    let tag ← tag?
    match tag with
    | some _ => return (← anchor?, tag)
    | none => return (none, none)

/-- Reads a node and names it. The name is known inside the node already. -/
def named (anchor : Option (List Char)) (read : NodeM Node) : NodeM Node := do
  match anchor with
  | none => read
  | some name =>
    let { numbers, anchored, .. } ← get
    let number := numbers.length
    modify fun remaining =>
      { remaining with
        numbers := (name, number) :: numbers.filter (·.1 ≠ name)
        anchored := anchored ++ [(number, .empty)] }
    let node ← read
    modify fun remaining =>
      { remaining with anchored := remaining.anchored.set anchored.length (number, node) }
    return node

mutual

/-- Reads a node. `inBlock` admits blocks, and `compact` admits a list that is not indented more
than the key before it. -/
def node (inBlock compact : Bool) : Nat → NodeM Node
  | 0 => failure
  | fuel + 1 => do
    match ← peek with
    | some (.alias name) =>
      skip
      aliased name
    | _ =>
      let (anchor, tag) ← properties
      named anchor do
        match ← peek with
        | some .blockEntry =>
          if compact then return .sequence (← compactItems fuel)
          else if anchor.isSome || tag.isSome then return .scalar tag .plain ""
          else failure
        | some (.scalar style text) =>
          skip
          return .scalar (if tag = some "!" then none else tag) style (String.ofList text)
        | some .flowSequenceStart =>
          skip
          return .sequence (← flowItems true fuel)
        | some .flowMappingStart =>
          skip
          return .mapping (← flowPairs true fuel)
        | some .blockSequenceStart =>
          if inBlock then
            skip
            return .sequence (← blockItems fuel)
          else if anchor.isSome || tag.isSome then return .scalar tag .plain ""
          else failure
        | some .blockMappingStart =>
          if inBlock then
            skip
            return .mapping (← blockPairs fuel)
          else if anchor.isSome || tag.isSome then return .scalar tag .plain ""
          else failure
        | _ => if anchor.isSome || tag.isSome then return .scalar tag .plain "" else failure

/-- Reads the entries of a list that is indented. -/
def blockItems : Nat → NodeM (List Node)
  | 0 => failure
  | fuel + 1 => do
    if ← accept .blockEntry then
      let item ←
        if ← seesAny [.blockEntry, .blockEnd] then pure Node.empty
        else node true false fuel
      return item :: (← blockItems fuel)
    else if ← accept .blockEnd then return []
    else failure

/-- Reads the entries of a list that is not indented. -/
def compactItems : Nat → NodeM (List Node)
  | 0 => failure
  | fuel + 1 => do
    if ← accept .blockEntry then
      let item ←
        if ← seesAny [.blockEntry, .key, .value, .blockEnd] then pure Node.empty
        else node true false fuel
      return item :: (← compactItems fuel)
    else return []

/-- Reads the entries of a mapping in a block. -/
def blockPairs : Nat → NodeM (List (Node × Node))
  | 0 => failure
  | fuel + 1 => do
    if ← accept .key then
      let key ←
        if ← seesAny [.key, .value, .blockEnd] then pure Node.empty
        else node true true fuel
      let value ←
        if ← accept .value then
          if ← seesAny [.key, .value, .blockEnd] then pure Node.empty
          else node true true fuel
        else pure Node.empty
      return (key, value) :: (← blockPairs fuel)
    else if ← accept .blockEnd then return []
    else failure

/-- Reads the value of a single pair in a list in brackets. -/
def singleValue : Nat → NodeM Node
  | 0 => failure
  | fuel + 1 => do
    if ← accept .value then
      if ← seesAny [.flowEntry, .flowSequenceEnd] then return Node.empty
      else node false false fuel
    else return Node.empty

/-- Reads the entries of a list in brackets. An entry may be a single pair; an omitted key takes
the token after it along. -/
def flowItems (first : Bool) : Nat → NodeM (List Node)
  | 0 => failure
  | fuel + 1 => do
    if ← accept .flowSequenceEnd then return []
    if !first then
      if !(← accept .flowEntry) then failure
      if ← accept .flowSequenceEnd then return []
    if ← accept .key then
      let key ←
        if ← seesAny [.value, .flowEntry, .flowSequenceEnd] then
          skip
          pure Node.empty
        else node false false fuel
      let value ← singleValue fuel
      return .mapping [(key, value)] :: (← flowItems false fuel)
    let item ← node false false fuel
    return item :: (← flowItems false fuel)

/-- Reads the entries of a mapping in brackets. -/
def flowPairs (first : Bool) : Nat → NodeM (List (Node × Node))
  | 0 => failure
  | fuel + 1 => do
    if ← accept .flowMappingEnd then return []
    if !first then
      if !(← accept .flowEntry) then failure
      if ← accept .flowMappingEnd then return []
    if ← accept .key then
      let key ←
        if ← seesAny [.value, .flowEntry, .flowMappingEnd] then pure Node.empty
        else node false false fuel
      let value ←
        if ← accept .value then
          if ← seesAny [.flowEntry, .flowMappingEnd] then pure Node.empty
          else node false false fuel
        else pure Node.empty
      return (key, value) :: (← flowPairs false fuel)
    let key ← node false false fuel
    return (key, Node.empty) :: (← flowPairs false fuel)

end

/-- Reads the directives of a document: at most one version, which is 1.1 or 1.2, and at most one
meaning for each handle. Gives whether there are any. -/
def directives : Nat → Bool → NodeM Bool
  | 0, _ => failure
  | fuel + 1, versioned => do
    match ← peek with
    | some (.version major minor) =>
      if versioned || major ≠ 1 || !(minor = 1 || minor = 2) then failure
      skip
      let _ ← directives fuel true
      return true
    | some (.tagHandle handle expansion) =>
      if ((← get).handles.lookup handle).isSome then failure
      skip
      modify fun remaining =>
        { remaining with handles := remaining.handles ++ [(handle, expansion)] }
      let _ ← directives fuel versioned
      return true
    | _ => return false

/-- Goes past the marks of a document's end. -/
def skipEnds : Nat → NodeM Unit
  | 0 => return ()
  | fuel + 1 => do
    if ← accept .documentEnd then skipEnds fuel

/-- Reads the only document, up to the end. -/
def document : NodeM Node := do
  let count := (← get).tokens.length
  if count = 0 then return Node.empty
  let directed ← directives (count + 1) false
  let explicit ← accept .documentStart
  if directed && !explicit then failure
  modify fun remaining => { remaining with handles := remaining.handles ++ standardHandles }
  let isBare := (← peek).isNone || (← seesAny [.documentStart, .documentEnd])
  let node ←
    if explicit && isBare then pure Node.empty
    else node true false (2 * count + 2)
  skipEnds count
  if (← peek).isSome then failure
  return node

end NodeM

/-- A document: its node, and those that references in it stand for. -/
structure Document where
  root : Node
  /-- The nodes with an anchor, in order, each with its number. -/
  anchored : List (Nat × Node)

/-- The node that a node stands for: the last one of its number, if it is a reference. -/
def Document.follow (document : Document) : Node → Node
  | .reference number => (document.anchored.reverse.lookup number).getD .empty
  | node => node

/-- The document that a text spells; `none` when it is not YAML or holds several documents. -/
def Document.ofText? (text : List Char) : Option Document := do
  let tokens ← tokens? text
  let (root, remaining) ←
    NodeM.document.run { tokens, numbers := [], anchored := [], handles := [] }
  return { root, anchored := remaining.anchored }

end DeadSymbols.Yaml
