import PatternForge.Yaml.Layout
import PatternForge.Yaml.Tag

/-!
# The graph of a document

A document is a graph of nodes: a reference to an anchor is the node of that name, which may be one
that the reference stands in. The graph is read off the tokens.
-/

namespace PatternForge.Yaml

/-- A node of a graph, by the order in which the nodes start. -/
abbrev NodeId := Nat

inductive Content where
  | scalar (text : Text)
  | sequence (items : List NodeId)
  | mapping (entries : List (NodeId × NodeId))

structure Node where
  tag : Tag
  content : Content

structure Graph where
  nodes : Array Node := #[]

namespace Graph

def tagOf (graph : Graph) (id : NodeId) : Tag :=
  ((graph.nodes[id]?).map (·.tag)).getD .unknown

def contentOf (graph : Graph) (id : NodeId) : Content :=
  ((graph.nodes[id]?).map (·.content)).getD (.sequence [])

/-- How many entries the mappings have. -/
def entryCount (graph : Graph) : Nat :=
  graph.nodes.foldl (fun count node =>
    match node.content with
    | .mapping entries => count + entries.length
    | _ => count) 0

def update (graph : Graph) (id : NodeId) (change : Node → Node) : Graph :=
  ⟨graph.nodes.modify id change⟩

/-- The graph with other content for a node. -/
def setContent (graph : Graph) (id : NodeId) (content : Content) : Graph :=
  graph.update id fun node => { node with content }

end Graph

/-- The tokens still to be read, and the graph read so far. -/
structure Composition where
  stream : TokenStream
  /-- The meanings of the handles. -/
  handles : List (List Char × List Char) := []
  anchors : List (List Char × NodeId) := []
  graph : Graph := {}

/-- Reading a graph. -/
abbrev Composer := StateT Composition (Except Fault)

namespace Composer

def peek : Composer Token := do
  let stream := (← get).stream
  match stream.tokens with
  | token :: _ => return token
  | [] => throw (stream.fault.getD .malformed)

def drop : Composer Unit :=
  modify fun state =>
    { state with stream := { state.stream with tokens := state.stream.tokens.drop 1 } }

def sees (others : List Token) : Composer Bool :=
  return others.contains (← peek)

/-- Passes over the next token if it is the given one. -/
def accept (token : Token) : Composer Bool := do
  if (← peek) == token then
    drop
    return true
  else return false

/-- Passes over the next token, which must be the given one. -/
def expect (token : Token) : Composer Unit := do
  if !(← accept token) then throw .malformed

/-! ## Properties of nodes -/

/-- What is written before a node. -/
structure Properties where
  anchor : Option (List Char) := none
  tag : Option WrittenTag := none

def anchor? : Composer (Option (List Char)) := do
  match ← peek with
  | .anchor name => drop; return some name
  | _ => return none

def tag? : Composer (Option WrittenTag) := do
  match ← peek with
  | .tag tag => drop; return some tag
  | _ => return none

/-- Reads what is written before a node, in either order. -/
def properties : Composer Properties := do
  match ← anchor? with
  | some anchor => return ⟨some anchor, ← tag?⟩
  | none =>
    match ← tag? with
    | some tag => return ⟨← anchor?, some tag⟩
    | none => return {}

/-- The full name of a tag. -/
def fullName (tag : WrittenTag) : Composer (List Char) := do
  match tag.handle with
  | none => return tag.suffix
  | some handle =>
    match (← get).handles.lookup handle with
    | some meaning => return meaning ++ tag.suffix
    | none => throw .malformed

/-- The name that leaves the tag of a node to its form. -/
def plainName : List Char := ['!']

def scalarTag (tag : Option (List Char)) (chars : List Char) (plain : Bool) : Tag :=
  match tag with
  | none => if plain then .ofForm chars else .str
  | some name => if name == plainName then .ofForm chars else .ofName name

def collectionTag (tag : Option (List Char)) (usual : Tag) : Tag :=
  match tag with
  | none => usual
  | some name => if name == plainName then usual else .ofName name

/-! ## Nodes -/

def addNode (node : Node) : Composer NodeId := do
  let state ← get
  set { state with graph := ⟨state.graph.nodes.push node⟩ }
  return state.graph.nodes.size

/-- Adds a node under its name, which no other node may have. -/
def addNamed (anchor : Option (List Char)) (node : Node) : Composer NodeId := do
  match anchor with
  | none => addNode node
  | some name =>
    if ((← get).anchors.lookup name).isSome then throw .malformed
    let id ← addNode node
    modify fun state => { state with anchors := (name, id) :: state.anchors }
    return id

/-- Adds the node that nothing is written for. -/
def addEmpty : Composer NodeId :=
  addNode ⟨.null, .scalar []⟩

/-- Adds a sequence and reads its items. -/
def sequence (properties : Properties) (tag : Option (List Char))
    (items : Composer (List NodeId)) : Composer NodeId := do
  let id ← addNamed properties.anchor ⟨collectionTag tag .seq, .sequence []⟩
  let items ← items
  modify fun state => { state with graph := state.graph.setContent id (.sequence items) }
  return id

/-- Adds a mapping and reads its entries. -/
def mapping (properties : Properties) (tag : Option (List Char))
    (entries : Composer (List (NodeId × NodeId))) : Composer NodeId := do
  let id ← addNamed properties.anchor ⟨collectionTag tag .map, .mapping []⟩
  let entries ← entries
  modify fun state => { state with graph := state.graph.setContent id (.mapping entries) }
  return id

/-- Where a node stands, which decides what it may be. -/
inductive Position where
  | flow
  | block
  /-- In a block mapping, where a sequence needs no indentation. -/
  | mappingPart
deriving DecidableEq

mutual

def node : Nat → Position → Composer NodeId
  | 0, _ => throw .malformed
  | more + 1, position => do
    match ← peek with
    | .alias name =>
      drop
      match (← get).anchors.lookup name with
      | some id => return id
      | none => throw .malformed
    | _ =>
      let properties ← properties
      let tag ← properties.tag.mapM fullName
      let inBlock := position != .flow
      match ← peek with
      | .blockEntry =>
        if position == .mappingPart then
          sequence properties tag (looseItems more)
        else emptyNode properties tag
      | .scalar text plain =>
        drop
        addNamed properties.anchor ⟨scalarTag tag text.toChars plain, .scalar text⟩
      | .flowSequence =>
        sequence properties tag do
          drop
          flowItems true more
      | .flowMapping =>
        mapping properties tag do
          drop
          flowEntries true more
      | .blockSequence =>
        if inBlock then
          sequence properties tag do
            drop
            blockItems more
        else emptyNode properties tag
      | .blockMapping =>
        if inBlock then
          mapping properties tag do
            drop
            blockEntries more
        else emptyNode properties tag
      | _ => emptyNode properties tag

/-- Adds a node of which only the properties are written; there must be some. -/
def emptyNode (properties : Properties) (tag : Option (List Char)) : Composer NodeId := do
  if properties.anchor.isNone && properties.tag.isNone then throw .malformed
  addNamed properties.anchor ⟨scalarTag tag [] true, .scalar []⟩

/-- Reads a node, or adds an empty one before the given tokens. -/
def nodeBefore : Nat → Position → List Token → Composer NodeId
  | 0, _, _ => throw .malformed
  | more + 1, position, others => do
    if ← sees others then addEmpty else node more position

/-- Reads the items of an indented sequence. -/
def blockItems : Nat → Composer (List NodeId)
  | 0 => throw .malformed
  | more + 1 => do
    if ← accept .blockEntry then
      let item ← nodeBefore more .block [.blockEntry, .blockEnd]
      return item :: (← blockItems more)
    else
      expect .blockEnd
      return []

/-- Reads the items of a sequence at the indentation of the mapping that it is in. -/
def looseItems : Nat → Composer (List NodeId)
  | 0 => throw .malformed
  | more + 1 => do
    if ← accept .blockEntry then
      let item ← nodeBefore more .block [.blockEntry, .key, .value, .blockEnd]
      return item :: (← looseItems more)
    else return []

/-- Reads the entries of an indented mapping. -/
def blockEntries : Nat → Composer (List (NodeId × NodeId))
  | 0 => throw .malformed
  | more + 1 => do
    if ← accept .key then
      let key ← nodeBefore more .mappingPart [.key, .value, .blockEnd]
      let value ← valueBefore more .mappingPart [.key, .value, .blockEnd]
      return (key, value) :: (← blockEntries more)
    else
      expect .blockEnd
      return []

/-- Reads the value of a key, or adds an empty one. -/
def valueBefore : Nat → Position → List Token → Composer NodeId
  | 0, _, _ => throw .malformed
  | more + 1, position, others => do
    if ← accept .value then nodeBefore more position others else addEmpty

/-- Reads the items of a sequence between brackets. An entry with a key is a mapping of its own. -/
def flowItems : Bool → Nat → Composer (List NodeId)
  | _, 0 => throw .malformed
  | first, more + 1 => do
    if ← accept .flowSequenceEnd then return []
    if !first then expect .flowEntry
    if ← accept .key then
      let item ← mapping {} none do
        let key ← nodeBefore more .flow [.value, .flowEntry, .flowSequenceEnd]
        return [(key, ← valueBefore more .flow [.flowEntry, .flowSequenceEnd])]
      return item :: (← flowItems false more)
    else if ← accept .flowSequenceEnd then return []
    else
      let item ← node more .flow
      return item :: (← flowItems false more)

/-- Reads the entries of a mapping between braces. -/
def flowEntries : Bool → Nat → Composer (List (NodeId × NodeId))
  | _, 0 => throw .malformed
  | first, more + 1 => do
    if ← accept .flowMappingEnd then return []
    if !first then expect .flowEntry
    if ← accept .key then
      let key ← nodeBefore more .flow [.value, .flowEntry, .flowMappingEnd]
      let value ← valueBefore more .flow [.flowEntry, .flowMappingEnd]
      return (key, value) :: (← flowEntries false more)
    else if ← accept .flowMappingEnd then return []
    else
      let key ← node more .flow
      let _ ← peek
      let value ← addEmpty
      return (key, value) :: (← flowEntries false more)

end

/-! ## Documents -/

/-- The meanings that the two short handles have by themselves. -/
def usualHandles : List (List Char × List Char) :=
  [(['!'], ['!']), (['!', '!'], Tag.domain)]

/-- Reads directives. The version may be stated once and the meaning of a handle once. -/
def directives : Nat → Bool → List (List Char × List Char) → Composer Unit
  | 0, _, _ => throw .malformed
  | more + 1, versioned, handles => do
    match ← peek with
    | .directive directive =>
      drop
      match directive with
      | .version major _ =>
        if versioned || major != 1 then throw .malformed
        directives more true handles
      | .handle name meaning =>
        if (handles.lookup name).isSome then throw .malformed
        directives more versioned ((name, meaning) :: handles)
      | .reserved => directives more versioned handles
    | _ => modify fun state => { state with handles := handles ++ usualHandles }

/-- Reads the mark that starts a document and the directives before it. -/
def documentStart (budget : Nat) : Composer Unit := do
  directives budget false []
  expect .documentStart

/-- Passes over marks that end a document. -/
def documentEnds : Nat → Composer Unit
  | 0 => throw .malformed
  | more + 1 => do
    if ← accept .documentEnd then documentEnds more

/-- Whether a token starts a document with a mark, or ends all documents. -/
def startsMarked : Token → Bool
  | .directive _ | .documentStart | .streamEnd => true
  | _ => false

/-- Whether a token ends a document. -/
def endsDocument (token : Token) : Bool :=
  startsMarked token || token == .documentEnd

/-- Reads the one document of a text, or nothing. -/
def document (budget : Nat) : Composer (Option NodeId) := do
  let root ←
    if startsMarked (← peek) then
      if ← sees [.streamEnd] then pure none
      else do
        documentStart budget
        if endsDocument (← peek) then some <$> addEmpty else some <$> node budget .block
    else do
      modify fun state => { state with handles := usualHandles }
      some <$> node budget .block
  documentEnds budget
  if !(← accept .streamEnd) then
    documentStart budget
    throw .malformed
  return root

end Composer

/-- The graph of a text and its root; a text without a document has none. -/
def Graph.ofTokens (stream : TokenStream) : Except Fault (Graph × Option NodeId) := do
  let budget := 4 * stream.tokens.length + 8
  let (root, state) ← Composer.document budget { stream }
  return (state.graph, root)

end PatternForge.Yaml
