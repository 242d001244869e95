import Entitlement.Yaml.Scan

/-!
From tokens to the nodes of a document. Anchors have numbers, and an alias is the number of the anchor
whose name it repeats. A document holds its root and the nodes that its aliases stand for.
-/

namespace Entitlement.Yaml

inductive Node where
  | scalar (tag : Option Tag) (plain : Bool) (text : String)
  | sequence (tag : Option Tag) (items : List Node)
  | mapping (tag : Option Tag) (entries : List (Node × Node))
  | alias (number : Nat)

structure Document where
  root : Node
  anchored : Array Node := #[]

namespace Node

def empty : Node := scalar none true ""

/-- What is left to read, and what the document has said so far. -/
structure Source where
  tokens : List Token
  /-- What the tags with each handle begin with. -/
  handles : List (String × List UInt8) := []
  /-- The names of anchors, and the number that each of them has now. -/
  numbers : List (String × Nat) := []
  /-- The anchors in the order in which they open, by number, with their nodes. -/
  anchors : Array (Nat × Node) := #[]

abbrev Parse := StateT Source Option

def peek : Parse (Option Token) := do return (← get).tokens.head?

def advance : Parse Unit := modify fun source => { source with tokens := source.tokens.tail }

def accept (token : Token) : Parse Bool := do
  if (← peek) == some token then
    advance
    return true
  else return false

def expect (token : Token) : Parse Unit := do
  unless ← accept token do failure

/-- The tokens that can follow a key that was left out, or an entry without a node. -/
def sees (tokens : List Token) : Parse Bool := do
  return (← peek).any tokens.contains

def aliased (name : String) : Parse Node := do
  match (← get).numbers.find? (·.1 == name) with
  | some (_, number) => return .alias number
  | none => failure

/-- Opens an anchor, and tells which it is. Its number is the number of names so far: a name that is
given again therefore takes a number that the anchor after it has too. -/
def openAnchor (name : String) : Parse Nat := do
  let source ← get
  let number := source.numbers.length
  set { source with
    numbers := (name, number) :: source.numbers.filter (·.1 != name)
    anchors := source.anchors.push (number, empty) }
  return source.anchors.size

def closeAnchor (index : Nat) (node : Node) : Parse Unit :=
  modify fun source => { source with anchors := source.anchors.modify index fun (number, _) => (number, node) }

/-- The nodes with anchors, by number. Of those that share a number the one that opens last counts. -/
def Source.anchored (source : Source) : Array Node :=
  source.anchors.foldl (fun nodes (number, node) =>
    if number < nodes.size then nodes.setIfInBounds number node else nodes.push node) #[]

/-- The tag that a handle and a suffix stand for. -/
def resolveTag (handle : String) (suffix : List UInt8) : Parse Tag := do
  if handle.isEmpty then return ⟨suffix⟩
  else
    match (← get).handles.find? (·.1 == handle) with
    | some (_, start) => return ⟨start ++ suffix⟩
    | none => failure

structure Properties where
  anchor : Option Nat := none
  tag : Option Tag := none

def readAnchor (properties : Properties) : Parse Properties := do
  match ← peek with
  | some (.anchor name) =>
    advance
    return { properties with anchor := some (← openAnchor name) }
  | _ => return properties

def readTag (properties : Properties) : Parse Properties := do
  match ← peek with
  | some (.tag handle suffix) =>
    advance
    return { properties with tag := some (← resolveTag handle suffix) }
  | _ => return properties

/-- An anchor and a tag, in either order, each at most once. -/
def readProperties : Parse Properties := do
  match ← peek with
  | some (.tag ..) => readAnchor (← readTag {})
  | _ => readTag (← readAnchor {})

mutual

/-- A node. Blocks may begin only where `inBlock` holds; where `indentless` holds too, entries of a
sequence may stand at the indentation of the mapping around them. -/
def read : Nat → Bool → Bool → Parse Node
  | 0, _, _ => failure
  | fuel + 1, inBlock, indentless => do
    match ← peek with
    | some (.alias name) =>
      advance
      aliased name
    | _ =>
      let properties ← readProperties
      let node ← readContent fuel inBlock indentless properties
      if let some index := properties.anchor then closeAnchor index node
      return node

def readContent : Nat → Bool → Bool → Properties → Parse Node
  | 0, _, _, _ => failure
  | fuel + 1, inBlock, indentless, properties => do
    let tag := properties.tag
    match ← peek with
    | some (.scalar plain text) =>
      advance
      return scalar tag plain text
    | some .flowSequenceStart =>
      advance
      return sequence tag (← readFlowItems fuel true)
    | some .flowMappingStart =>
      advance
      return mapping tag (← readFlowEntries fuel true)
    | some .blockEntry =>
      if indentless then return sequence tag (← readIndentlessItems fuel) else readNothing properties
    | some .blockSequenceStart =>
      if inBlock then
        advance
        return sequence tag (← readBlockItems fuel)
      else readNothing properties
    | some .blockMappingStart =>
      if inBlock then
        advance
        return mapping tag (← readBlockEntries fuel)
      else readNothing properties
    | _ => readNothing properties

/-- A node that is left out has to have an anchor or a tag at least. -/
def readNothing (properties : Properties) : Parse Node :=
  if properties.anchor.isSome || properties.tag.isSome then return scalar properties.tag true ""
  else failure

def readBlockItems : Nat → Parse (List Node)
  | 0 => failure
  | fuel + 1 => do
    if ← accept .blockEnd then return []
    else
      expect .blockEntry
      let item ← if ← sees [.blockEntry, .blockEnd] then pure empty else read fuel true false
      return item :: (← readBlockItems fuel)

def readIndentlessItems : Nat → Parse (List Node)
  | 0 => failure
  | fuel + 1 => do
    if ← accept .blockEntry then
      let item ← if ← sees [.blockEntry, .key, .value, .blockEnd] then pure empty else read fuel true false
      return item :: (← readIndentlessItems fuel)
    else return []

def readBlockEntries : Nat → Parse (List (Node × Node))
  | 0 => failure
  | fuel + 1 => do
    if ← accept .blockEnd then return []
    else
      expect .key
      let ends := [Token.key, .value, .blockEnd]
      let key ← if ← sees ends then pure empty else read fuel true true
      let value ←
        if ← accept .value then (if ← sees ends then pure empty else read fuel true true) else pure empty
      return (key, value) :: (← readBlockEntries fuel)

/-- The items of a flow sequence; a pair among them is a mapping of its own. -/
def readFlowItems : Nat → Bool → Parse (List Node)
  | 0, _ => failure
  | fuel + 1, first => do
    if ← accept .flowSequenceEnd then return []
    else
      unless first do expect .flowEntry
      if ← accept .key then
        let pair ← readFlowPair fuel
        return mapping none [pair] :: (← readFlowItems fuel false)
      else if ← accept .flowSequenceEnd then return []
      else
        let item ← read fuel false false
        return item :: (← readFlowItems fuel false)

/-- A pair within a flow sequence. Where its key is left out, the token in the key's place is passed
over. -/
def readFlowPair : Nat → Parse (Node × Node)
  | 0 => failure
  | fuel + 1 => do
    let key ←
      if ← sees [.value, .flowEntry, .flowSequenceEnd] then
        advance
        pure empty
      else read fuel false false
    let value ←
      if ← accept .value then
        (if ← sees [.flowEntry, .flowSequenceEnd] then pure empty else read fuel false false)
      else pure empty
    return (key, value)

def readFlowEntries : Nat → Bool → Parse (List (Node × Node))
  | 0, _ => failure
  | fuel + 1, first => do
    if ← accept .flowMappingEnd then return []
    else
      unless first do expect .flowEntry
      if ← accept .key then
        let ends := [Token.flowEntry, .flowMappingEnd]
        let key ← if ← sees (.value :: ends) then pure empty else read fuel false false
        let value ←
          if ← accept .value then (if ← sees ends then pure empty else read fuel false false) else pure empty
        return (key, value) :: (← readFlowEntries fuel false)
      else if ← accept .flowMappingEnd then return []
      else
        let key ← read fuel false false
        return (key, empty) :: (← readFlowEntries fuel false)

end

/-- The directives before a document. The version is given at most once and is 1.1 or 1.2; each
handle is given at most once. -/
def readDirectives : Nat → Bool → List (String × List UInt8) → Parse (List (String × List UInt8))
  | 0, _, _ => failure
  | fuel + 1, versioned, handles => do
    match ← peek with
    | some (.version major minor) =>
      if versioned || major ≠ 1 || (minor ≠ 1 && minor ≠ 2) then failure
      advance
      readDirectives fuel true handles
    | some (.tagDirective handle start) =>
      if handles.any (·.1 == handle) then failure
      advance
      readDirectives fuel versioned ((handle, start) :: handles)
    | _ => return handles

def usualHandles : List (String × List UInt8) :=
  [("!", (Tag.ofText "!").bytes), ("!!", (Tag.ofText "tag:yaml.org,2002:").bytes)]

def isDirective : Token → Bool
  | .version .. | .tagDirective .. => true
  | _ => false

/-- The only document of a text, if there is one at all. Directives call for a marker of the start,
and after that marker the node may be left out. -/
def readDocument (fuel : Nat) : Parse (Option Node) := do
  match ← peek with
  | none => return none
  | some token =>
    let handles ← readDirectives fuel false []
    modify fun source => { source with handles := handles ++ usualHandles }
    let explicit ← accept .documentStart
    if isDirective token && !explicit then failure
    let ended := (← peek).all (· == .documentEnd)
    if explicit && ended then return some empty else return some (← read fuel true false)

/-- Nothing but markers of the end may follow the document. -/
def readEnd : Nat → Parse Unit
  | 0 => failure
  | fuel + 1 => do
    if (← peek).isSome then
      expect .documentEnd
      readEnd fuel

end Node

namespace Document

/-- The only document; `some none` if there is none. -/
def ofTokens? (tokens : List Token) : Option (Option Document) := do
  let fuel := 4 * tokens.length + 8
  let (root, source) ← (Node.readDocument fuel).run { tokens }
  let _ ← (Node.readEnd (tokens.length + 1)).run source
  return root.map fun root => { root, anchored := source.anchored }

def ofText? (text : String) : Option (Option Document) := (tokens? text).bind ofTokens?

end Document

end Entitlement.Yaml
