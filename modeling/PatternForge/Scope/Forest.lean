import PatternForge.Scope.Tree
import PatternForge.Text.Quoted

/-!
# The forest of scopes

Scopes are made one by one and attached to groups afterwards. A group lists its children and a child
knows its group; attaching keeps the two views in step, and refuses a scope that has a group already
or that would come to stand below itself.
-/

namespace PatternForge

/-- A scope of a forest, by the order in which they were made. -/
abbrev ScopeId := Nat

inductive ScopeContent where
  | literal (pool : List Text)
  | group (alternating : Bool) (children : List ScopeId)
deriving DecidableEq

structure ScopeNode where
  name : Text
  bounds : Bounds := {}
  parent : Option ScopeId := none
  content : ScopeContent
deriving DecidableEq

def ScopeNode.children (node : ScopeNode) : List ScopeId :=
  match node.content with
  | .literal _ => []
  | .group _ children => children

/-- The written form of a scope: its kind, its name and its bounds, of any length. -/
def ScopeNode.display (node : ScopeNode) : Text :=
  let kind : Text :=
    match node.content with
    | .literal _ => "LiteralScope"
    | .group .. => "GroupScope"
  kind ++ "(name=" ++ node.name.quoted ++ ", occurrences=[" ++ Text.ofInt node.bounds.least ++ ", "
    ++ Text.ofInt node.bounds.greatest ++ "])"

/-- The written form of a scope, if its bounds can be written. -/
def ScopeNode.written? (node : ScopeNode) : Option Text :=
  if node.bounds.areWritable then some node.display else none

/-- Why a scope cannot be attached. -/
inductive AttachFault where
  /-- The scope is the group or stands above it. -/
  | cycle (child group : Text)
  | attached (child parent : Text)
deriving DecidableEq

def AttachFault.report : AttachFault → Report
  | cycle child group =>
    ⟨.configurationError, "Attaching '" ++ child ++ "' to '" ++ group ++ "' would create a cycle"⟩
  | attached child parent =>
    ⟨.configurationError, "Scope '" ++ child ++ "' is already attached to '" ++ parent ++ "'"⟩

/-- All scopes made so far. -/
structure Forest where
  /-- The scopes in the order in which they were made. -/
  nodes : Array ScopeNode := #[]

namespace Forest

def node? (forest : Forest) (id : ScopeId) : Option ScopeNode :=
  forest.nodes[id]?

/-- The name of a scope; one that was never made has none. -/
def nameOf (forest : Forest) (id : ScopeId) : Text :=
  ((forest.node? id).map (·.name)).getD []

def childrenOf (forest : Forest) (id : ScopeId) : List ScopeId :=
  ((forest.node? id).map (·.children)).getD []

/-- The group that a scope is attached to. -/
def parentOf (forest : Forest) (id : ScopeId) : Option ScopeId :=
  (forest.node? id).bind (·.parent)

/-- One more scope, attached to nothing. -/
def add (forest : Forest) (node : ScopeNode) : Forest × ScopeId :=
  (⟨forest.nodes.push { node with parent := none }⟩, forest.nodes.size)

/-- A new leaf that occurs once. -/
def addLiteral (forest : Forest) (name : Text) (pool : List Text) : Forest × ScopeId :=
  forest.add { name, content := .literal pool }

/-- A new group that occurs once. -/
def addGroup (forest : Forest) (name : Text) (alternating : Bool) : Forest × ScopeId :=
  forest.add { name, content := .group alternating [] }

def update (forest : Forest) (id : ScopeId) (change : ScopeNode → ScopeNode) : Forest :=
  ⟨forest.nodes.modify id change⟩

def setBounds (forest : Forest) (id : ScopeId) (change : Bounds → Bounds) : Forest :=
  forest.update id fun node => { node with bounds := change node.bounds }

/-- The forest with one more literal at the end of a leaf's pool. -/
def addAlternative (forest : Forest) (id : ScopeId) (literal : Text) : Forest :=
  forest.update id fun node =>
    match node.content with
    | .literal pool => { node with content := .literal (pool ++ [literal]) }
    | .group .. => node

def setAlternating (forest : Forest) (id : ScopeId) (alternating : Bool) : Forest :=
  forest.update id fun node =>
    match node.content with
    | .literal _ => node
    | .group _ children => { node with content := .group alternating children }

/-- Whether a scope stands below another within so many levels. -/
def holdsWithin (forest : Forest) : Nat → ScopeId → ScopeId → Bool
  | 0, _, _ => false
  | levels + 1, above, below =>
    (forest.childrenOf above).any fun child =>
      child == below || holdsWithin forest levels child below

/-- Whether a scope stands below another. No way down is longer than the number of scopes. -/
def holds (forest : Forest) (above below : ScopeId) : Bool :=
  forest.holdsWithin forest.nodes.size above below

/-- The forest with the child at the end of the group's children and the group as its parent. -/
def link (forest : Forest) (group child : ScopeId) : Forest :=
  (forest.update child fun node => { node with parent := some group }).update group fun node =>
    match node.content with
    | .literal _ => node
    | .group alternating children =>
      { node with content := .group alternating (children ++ [child]) }

/-- Attaches a scope to a group. A cycle is reported before an attachment that stands. The search
for one goes down to any depth, whatever an interpreter's stack allows. -/
def attach (forest : Forest) (group child : ScopeId) : Except AttachFault Forest :=
  if child == group || forest.holds child group then
    .error (.cycle (forest.nameOf child) (forest.nameOf group))
  else
    match forest.parentOf child with
    | some parent => .error (.attached (forest.nameOf child) (forest.nameOf parent))
    | none => .ok (forest.link group child)

/-- The tree below a scope within so many levels. -/
def treeWithin? (forest : Forest) : Nat → ScopeId → Option Tree
  | 0, _ => none
  | levels + 1, id =>
    match forest.node? id with
    | none => none
    | some node =>
      match node.content with
      | .literal pool => some (.literal node.name node.bounds pool)
      | .group alternating children =>
        (children.mapM (treeWithin? forest levels)).map (.group node.name node.bounds alternating)

def tree? (forest : Forest) (id : ScopeId) : Option Tree :=
  forest.treeWithin? forest.nodes.size id

/-! What a change leaves of the two views, the groups of scopes and their child lists. -/

section Views

variable {forest : Forest} {id other : ScopeId} {change : ScopeNode → ScopeNode} {α : Type}
  {view : ScopeNode → α}

theorem node?_update : (forest.update id change).node? other =
    if id = other then (forest.node? other).map change else forest.node? other :=
  Array.getElem?_modify

theorem node?_add (node : ScopeNode) : (forest.add node).1.node? id =
    if id = forest.nodes.size then some { node with parent := none } else forest.node? id :=
  Array.getElem?_push

theorem node?_size : forest.node? forest.nodes.size = none :=
  Array.getElem?_eq_none (Nat.le_refl _)

theorem parentOf_eq (id : ScopeId) :
    forest.parentOf id = ((forest.node? id).map (·.parent)).join := by
  rw [parentOf]
  cases forest.node? id <;> rfl

/-- What a change leaves of a scope it leaves of all scopes. -/
theorem map_node?_update (same : ∀ node, view (change node) = view node) :
    ((forest.update id change).node? other).map view = (forest.node? other).map view := by
  rw [node?_update]
  split
  · rw [Option.map_map]
    exact congrArg (Option.map · _) (funext same)
  · rfl

theorem parentOf_update (same : ∀ node, (change node).parent = node.parent) :
    (forest.update id change).parentOf = forest.parentOf := by
  funext other
  rw [parentOf_eq, parentOf_eq, map_node?_update same]

theorem childrenOf_update (same : ∀ node, (change node).children = node.children) :
    (forest.update id change).childrenOf = forest.childrenOf := by
  funext other
  rw [childrenOf, childrenOf, map_node?_update same]

theorem parentOf_add (node : ScopeNode) : (forest.add node).1.parentOf = forest.parentOf := by
  funext id
  rw [parentOf, parentOf, node?_add]
  split
  · next fresh => rw [fresh, node?_size]; rfl
  · rfl

theorem childrenOf_add {node : ScopeNode} (childless : node.children = []) :
    (forest.add node).1.childrenOf = forest.childrenOf := by
  funext id
  rw [childrenOf, childrenOf, node?_add]
  split
  · next fresh => rw [fresh, node?_size]; exact childless
  · rfl

end Views

end Forest

end PatternForge
