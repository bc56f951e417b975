import PatternForge.Scatter
import PatternForge.Yaml.Graph
import PatternForge.Yaml.Reading

/-!
# Documents

The value of a document. The nodes of its graph are read from the root outwards: scalars at once,
collections in the order in which they were first met. The value is then unfolded from the root,
with a leaf wherever a node comes up again inside itself.
-/

namespace PatternForge.Yaml

/-- Whether a character may stand in a document. -/
def isDocumentPoint (point : CodePoint) : Bool :=
  point.val == 0x9 || point.val == 0xA || point.val == 0xD || point.val == 0x85
    || (0x20 ≤ point.val && point.val ≤ 0x7E)
    || (0xA0 ≤ point.val && point.val ≤ 0xD7FF)
    || (0xE000 ≤ point.val && point.val ≤ 0xFFFD)
    || 0x10000 ≤ point.val

/-- What a node was read as. The parts of a collection are nodes again. -/
inductive Shape where
  | scalar (value : Scalar)
  | list (items : List NodeId)
  | map (entries : List (Scalar × NodeId))
  | set (members : List Scalar)
  /-- Named nodes in order, the names being nodes too. -/
  | pairs (entries : List (NodeId × NodeId))

def Shape.scalar? : Shape → Option Scalar
  | scalar value => some value
  | _ => none

/-- How far the reading of a graph has come. -/
structure Survey where
  /-- The graph, as merging has left it. -/
  graph : Graph
  /-- What the nodes were read as; a collection that was met but not read has no parts. -/
  shapes : List (NodeId × Shape) := []
  waiting : List NodeId := []

/-- Reading a graph's nodes. -/
abbrev Surveyor := StateT Survey (Except Fault)

namespace Surveyor

def content (id : NodeId) : Surveyor Content :=
  return (← get).graph.contentOf id

/-- The items of a sequence; no other node has any. -/
def items (id : NodeId) : Surveyor (List NodeId) := do
  match ← content id with
  | .sequence items => return items
  | _ => throw .malformed

/-- The entries of a mapping; no other node has any. -/
def entries (id : NodeId) : Surveyor (List (NodeId × NodeId)) := do
  match ← content id with
  | .mapping entries => return entries
  | _ => throw .malformed

/-- Notes what a node was read as. -/
def note (id : NodeId) (shape : Shape) : Surveyor Unit :=
  modify fun survey => { survey with shapes := (id, shape) :: survey.shapes }

/-- Whether the key of an entry has the given tag. -/
def isTagged (graph : Graph) (tag : Tag) (entry : NodeId × NodeId) : Bool :=
  graph.tagOf entry.1 == tag

/-! ## Scalars -/

/-- The text of a node that stands for a scalar: its own, or that of the node under the default key
of a mapping. -/
def scalarText : Nat → NodeId → Surveyor Text
  | 0, _ => throw .malformed
  | more + 1, id => do
    match ← content id with
    | .scalar text => return text
    | .sequence _ => throw .malformed
    | .mapping entries =>
      match entries.find? (isTagged (← get).graph .default) with
      | some entry => scalarText more entry.2
      | none => throw .malformed

/-- Reads a scalar under its tag. A time takes no mapping in place of its text. -/
def readNode (tag : Tag) (id : NodeId) : Surveyor Scalar := do
  let text ← scalarText ((← get).graph.nodes.size + 1) id
  match tag, ← content id with
  | .timestamp, .mapping _ => throw .noScalar
  | tag, _ => readScalar tag text

def isCollection (tag : Tag) : Bool :=
  [.seq, .map, .set, .omap, .pairs].contains tag

/-- Meets a node: a scalar is read, a collection waits. -/
def meet (id : NodeId) : Surveyor Shape := do
  let survey ← get
  match survey.shapes.lookup id with
  | some shape => return shape
  | none =>
    let tag := survey.graph.tagOf id
    if isCollection tag then
      let shape := Shape.list []
      note id shape
      modify fun survey => { survey with waiting := survey.waiting ++ [id] }
      return shape
    else
      let shape := Shape.scalar (← readNode tag id)
      note id shape
      return shape

/-! ## Collections -/

def setEntries (id : NodeId) (entries : List (NodeId × NodeId)) : Surveyor Unit :=
  modify fun survey => { survey with graph := survey.graph.setContent id (.mapping entries) }

/-- Reads a key that was written as the default key as a text. -/
def settleKey (id : NodeId) : Surveyor Unit :=
  modify fun survey =>
    { survey with
      graph := survey.graph.update id fun node =>
        if node.tag = .default then { node with tag := .str } else node }

/-- Takes the first entry under a merge key out of a mapping, and gives its value. -/
def takeMerge? (id : NodeId) : Surveyor (Option NodeId) := do
  let entries ← entries id
  match entries.findIdx? (isTagged (← get).graph .merge) with
  | none => return none
  | some place =>
    setEntries id (entries.eraseIdx place)
    return (entries[place]?).map Prod.snd

/-- The entries that the value of a merge key brings in: those of one mapping, or of several in a
list, where the first in the list counts most. The mappings are merged themselves before. -/
def broughtIn (merge : NodeId → Surveyor Unit) (id : NodeId) :
    Surveyor (List (NodeId × NodeId)) := do
  match ← content id with
  | .scalar _ => throw .malformed
  | .mapping _ =>
    merge id
    entries id
  | .sequence items =>
    let parts ← items.mapM fun item => do
      merge item
      entries item
    return parts.reverse.flatten

/-- What the merge keys of a mapping bring in, one after the other. A mapping that is reached again
on the way is merged there with the keys that it still has. -/
def gather : Nat → NodeId → Surveyor (List (NodeId × NodeId))
  | 0, _ => throw .malformed
  | more + 1, id => do
    match ← takeMerge? id with
    | none =>
      (← entries id).forM fun entry => settleKey entry.1
      return []
    | some value =>
      let brought ← broughtIn (fun other => do
        let brought ← gather more other
        setEntries other (brought ++ (← entries other))) value
      return brought ++ (← gather more id)

/-- Puts before the entries of a mapping those that its merge keys bring in. Every merge key of the
graph is taken out at most once, which bounds the steps. -/
def merge (id : NodeId) : Surveyor Unit := do
  let brought ← gather ((← get).graph.entryCount + 1) id
  setEntries id (brought ++ (← entries id))

/-- What tells an entry of a mapping from the others. Undefined numbers differ from one another,
unless they come from one node or are all written as the word for them. -/
structure Label where
  name : Scalar
  /-- The node of a name that differs from the names of other nodes. -/
  origin : Option NodeId := none

/-- Whether two labels are those of one entry. -/
def Label.same (first second : Label) : Bool :=
  first.name.sameName second.name && first.origin == second.origin

/-- The label of the entry under a key, which must be a scalar. -/
def labelOf (key : NodeId) : Surveyor Label := do
  match (← meet key).scalar? with
  | none => throw .malformed
  | some (.float .undefined) =>
    let text ← scalarText ((← get).graph.nodes.size + 1) key
    return ⟨.float .undefined, if Reading.isUndefinedWord text then none else some key⟩
  | some name => return { name }

def readEntries (id : NodeId) : Surveyor (List (Scalar × NodeId)) := do
  merge id
  let entries ← (← entries id).mapM fun (key, value) => do
    let label ← labelOf key
    let _ ← meet value
    return (label, value)
  return (entries.foldl (Value.insertBy Label.same) []).map fun entry => (entry.1.name, entry.2)

/-- Reads an item of a list of named nodes: a mapping with one entry. -/
def readPair (id : NodeId) : Surveyor (NodeId × NodeId) := do
  match ← entries id with
  | [(key, value)] =>
    let _ ← meet key
    let _ ← meet value
    return (key, value)
  | _ => throw .malformed

def readCollection (id : NodeId) : Surveyor Shape := do
  match (← get).graph.tagOf id with
  | .seq =>
    let items ← items id
    let _ ← items.mapM meet
    return .list items
  | .map => return .map (← readEntries id)
  | .set => return .set (Scatter.arrange ((← readEntries id).map Prod.fst))
  | _ => return .pairs (← (← items id).mapM readPair)

/-- Reads the collections that wait, and those met on the way. -/
def readWaiting : Nat → Surveyor Unit
  | 0 => return
  | more + 1 => do
    let survey ← get
    match survey.waiting with
    | [] => return
    | id :: waiting =>
      set { survey with waiting }
      note id (← readCollection id)
      readWaiting more

/-- Reads a node and all that belongs to it. -/
def readAll (root : NodeId) : Surveyor Unit := do
  let _ ← meet root
  readWaiting ((← get).graph.nodes.size + 1)

end Surveyor

/-- The value of a node that stands below the given mappings and, since the last of them, below the
given lists. -/
def unfold (shapes : List (NodeId × Shape)) : Nat → List NodeId → List NodeId → NodeId → Value
  | 0, _, _, _ => .enclosingMap
  | more + 1, maps, lists, id =>
    match shapes.lookup id with
    | none => .null
    | some (.scalar value) => .scalar value
    | some (.set members) => .set members
    | some (.list items) =>
      if lists.contains id then .enclosingList
      else .list (items.map (unfold shapes more maps (id :: lists)))
    | some (.pairs entries) =>
      if lists.contains id then .enclosingList
      else
        .list (entries.map fun (key, value) =>
          .pair (unfold shapes more maps (id :: lists) key)
            (unfold shapes more maps (id :: lists) value))
    | some (.map entries) =>
      if maps.contains id then .enclosingMap
      else .map (entries.map fun (name, value) => (name, unfold shapes more (id :: maps) [] value))

/-- The value below a node of a graph. Lists do not repeat between two mappings of a way down and
mappings do not repeat at all, which bounds its length. -/
def Graph.value (graph : Graph) (root : NodeId) : Except Fault Value := do
  let (_, survey) ← (Surveyor.readAll root).run { graph }
  let size := graph.nodes.size + 1
  return unfold survey.shapes (size * size) [] [] root

/-- The value of a document. A text without one stands for no value. -/
def readDocument (text : Text) : Except Fault Value := do
  if !text.all isDocumentPoint then throw .malformed
  match ← Graph.ofTokens (TokenStream.ofChars text.toChars) with
  | (_, none) => return .null
  | (graph, some root) => graph.value root

end PatternForge.Yaml
