import PatternForge.Proofs.Readers
import PatternForge.Yaml.Document

/-! # Surveying

Reading the nodes of a graph changes the graph, but not its scalars: only the entries of mappings
are merged, and a key that was written as the default key becomes a text. So whatever fault the
reading ends in comes of a tag and a scalar that the graph had from the start
(`Graph.scalarFault_value`).
-/

namespace PatternForge.Yaml

namespace Graph

def IsMapping (graph : Graph) (id : NodeId) : Prop :=
  ∃ entries, graph.contentOf id = .mapping entries

/-- What reading the nodes of a graph may leave of it. -/
structure LeftOf (origin graph : Graph) : Prop where
  /-- The scalars are those of the origin. -/
  scalar : ∀ id text, graph.contentOf id = .scalar text → origin.contentOf id = .scalar text
  /-- The mappings are those of the origin, whatever their entries. -/
  mapping : ∀ id, graph.IsMapping id → origin.IsMapping id
  /-- A tag is that of the origin, or it became that of a text. -/
  tag : ∀ id, graph.tagOf id = origin.tagOf id ∨ graph.tagOf id = .str

theorem LeftOf.refl (graph : Graph) : graph.LeftOf graph where
  scalar _ _ found := found
  mapping _ found := found
  tag _ := .inl rfl

section Update

variable (graph : Graph) (id other : NodeId)

theorem node_update (change : Node → Node) :
    (graph.update id change).nodes[other]? =
      if id = other then (graph.nodes[other]?).map change else graph.nodes[other]? :=
  Array.getElem?_modify

/-- Changing a node shows only in what the change makes of it. -/
theorem view_update {α : Type} (view : Node → α) {change : Node → Node}
    (same : ∀ node, view (change node) = view node) :
    ((graph.update id change).nodes[other]?).map view = (graph.nodes[other]?).map view := by
  rw [node_update]
  split
  · rw [Option.map_map]
    exact congrArg (Option.map · _) (funext same)
  · rfl

theorem contentOf_update {change : Node → Node}
    (same : ∀ node, (change node).content = node.content) :
    (graph.update id change).contentOf other = graph.contentOf other :=
  congrArg (Option.getD · _) (view_update graph id other Node.content same)

theorem tagOf_setContent (content : Content) :
    (graph.setContent id content).tagOf other = graph.tagOf other :=
  congrArg (Option.getD · _) (view_update graph id other Node.tag fun _ => rfl)

/-- Only the changed node holds something else. -/
theorem contentOf_setContent (content : Content) :
    (graph.setContent id content).contentOf other = graph.contentOf other ∨
      id = other ∧ (graph.setContent id content).contentOf other = content := by
  rw [contentOf, setContent, node_update]
  split
  · next same =>
    cases found : graph.nodes[other]? with
    | none =>
      rw [contentOf, found]
      exact .inl rfl
    | some node => exact .inr ⟨same, rfl⟩
  · exact .inl rfl

end Update

variable {origin graph : Graph}

theorem LeftOf.setContent (left : origin.LeftOf graph) {id : NodeId} (found : origin.IsMapping id)
    (entries : List (NodeId × NodeId)) :
    origin.LeftOf (graph.setContent id (.mapping entries)) where
  scalar other text holds := by
    rcases graph.contentOf_setContent id other (.mapping entries) with same | ⟨-, new⟩
    · exact left.scalar other text (same ▸ holds)
    · rw [new] at holds
      cases holds
  mapping other holds := by
    rcases graph.contentOf_setContent id other (.mapping entries) with same | ⟨rfl, -⟩
    · rw [IsMapping, same] at holds
      exact left.mapping other holds
    · exact found
  tag other := by
    rw [tagOf_setContent]
    exact left.tag other

/-- A key that was the default key is a text from then on. -/
theorem LeftOf.settle (left : origin.LeftOf graph) (id : NodeId) :
    origin.LeftOf (graph.update id fun node =>
      if node.tag = .default then { node with tag := .str } else node) := by
  generalize settle : (fun node : Node =>
    if node.tag = .default then { node with tag := .str } else node) = change
  have same (node : Node) : (change node).content = node.content := by
    subst settle
    dsimp only
    split <;> rfl
  have retagged (node : Node) : (change node).tag = node.tag ∨ (change node).tag = .str := by
    subst settle
    dsimp only
    split
    · exact .inr rfl
    · exact .inl rfl
  have tag (other : NodeId) : (graph.update id change).tagOf other = graph.tagOf other ∨
      (graph.update id change).tagOf other = .str := by
    rw [tagOf, node_update, tagOf]
    split
    · cases graph.nodes[other]? with
      | none => exact .inl rfl
      | some node => exact retagged node
    · exact .inl rfl
  exact {
    scalar := fun other text holds =>
      left.scalar other text (contentOf_update graph id other same ▸ holds)
    mapping := fun other holds => by
      rw [IsMapping, contentOf_update graph id other same] at holds
      exact left.mapping other holds
    tag := fun other => (tag other).elim (fun kept => kept ▸ left.tag other) .inr }

/-- The faults that the scalars of a graph may make. The text may stand under the default key of a
mapping instead. -/
inductive ScalarFault (graph : Graph) : Fault → Prop where
  | malformed : ScalarFault graph .malformed
  | unreadable {id other : NodeId} {text : Text} {fault : Fault}
      (found : graph.contentOf other = .scalar text) (stands : other = id ∨ graph.IsMapping id)
      (read : readScalar (graph.tagOf id) text = .error fault) : ScalarFault graph fault
  | noScalar {id : NodeId} (tagged : graph.tagOf id = .timestamp) (found : graph.IsMapping id) :
      ScalarFault graph .noScalar

end Graph

/-- So far the graph is what reading it may leave. -/
def Survey.Left (origin : Graph) (survey : Survey) : Prop :=
  origin.LeftOf survey.graph

namespace Surveyor

open PatternForge.Yaml.Survey (Left)
open PatternForge.Yaml.Graph (ScalarFault)

variable {origin : Graph}

theorem reads_content {fails : Fault → Prop} (id : NodeId) :
    Reads (Left origin) fails (content id) fun content survey =>
      Left origin survey ∧ survey.graph.contentOf id = content :=
  fun _ left => ⟨left, rfl⟩

theorem keeps_content {fails : Fault → Prop} (id : NodeId) :
    Keeps (Left origin) fails (content id) :=
  Keeps.get.bind fun _ => .pure _

theorem keeps_items (id : NodeId) : Keeps (Left origin) (ScalarFault origin) (items id) := by
  refine (keeps_content id).bind fun content => ?_
  split
  · exact .pure _
  · exact .throw .malformed

/-- Only a mapping has entries. -/
theorem reads_entries (id : NodeId) : Reads (Left origin) (ScalarFault origin) (entries id)
    fun _ survey => Left origin survey ∧ origin.IsMapping id := by
  refine (reads_content id).bind fun content => ?_
  split
  · exact fun survey ⟨left, found⟩ => ⟨left, left.mapping id ⟨_, found⟩⟩
  · exact fun _ _ => .malformed

theorem keeps_entries (id : NodeId) : Keeps (Left origin) (ScalarFault origin) (entries id) :=
  (reads_entries id).weaken fun _ _ found => found.1

theorem keeps_note {fails : Fault → Prop} (id : NodeId) (shape : Shape) :
    Keeps (Left origin) fails (note id shape) :=
  .modify fun _ left => left

/-! ## Scalars -/

theorem reads_scalarText (count : Nat) (id : NodeId) :
    Reads (Left origin) (ScalarFault origin) (scalarText count id) fun text survey =>
      Left origin survey ∧
        ∃ other, origin.contentOf other = .scalar text ∧ (other = id ∨ origin.IsMapping id) := by
  induction count generalizing id with
  | zero => exact fun _ _ => .malformed
  | succ count ih =>
    refine (reads_content id).bind fun content => ?_
    split
    · exact fun survey ⟨left, found⟩ => ⟨left, id, left.scalar id _ found, .inl rfl⟩
    · exact fun _ _ => .malformed
    · refine .of_fact (fun survey ⟨left, found⟩ => ⟨left, left.mapping id ⟨_, found⟩⟩) fun is => ?_
      refine Reads.bind Keeps.get fun survey => ?_
      split
      · next entry _ =>
        exact (ih entry.2).weaken fun _ _ ⟨left, other, found, _⟩ => ⟨left, other, found, .inr is⟩
      · exact fun _ _ => .malformed

theorem keeps_scalarText (count : Nat) (id : NodeId) :
    Keeps (Left origin) (ScalarFault origin) (scalarText count id) :=
  (reads_scalarText count id).weaken fun _ _ found => found.1

/-- Under the tag of a node its text may be unreadable; read as a text it never is. -/
theorem keeps_readNode {tag : Tag} {id : NodeId} (stated : tag = origin.tagOf id ∨ tag = .str) :
    Keeps (Left origin) (ScalarFault origin) (readNode tag id) := by
  refine Keeps.get.bind fun survey => (reads_scalarText _ id).bind fun text => ?_
  refine .of_fact (fun _ found => found) fun ⟨other, written, stands⟩ => ?_
  refine (reads_content id).bind fun content => ?_
  split
  · refine .of_fact (fun survey ⟨left, found⟩ => ⟨left, left.mapping id ⟨_, found⟩⟩) fun is => ?_
    have tagged : origin.tagOf id = .timestamp := by
      rcases stated with same | other
      · exact same.symm
      · cases other
    exact fun _ _ => .noScalar tagged is
  · refine .lift (fun fault unread => ?_) fun _ _ _ found => found.1
    rcases stated with rfl | rfl
    · exact .unreadable written stands unread
    · cases unread

/-- A node is read by its tag as it stands when the node is met. -/
theorem keeps_meet (id : NodeId) : Keeps (Left origin) (ScalarFault origin) (meet id) := by
  refine Reads.get.bind fun survey => ?_
  refine .of_fact (fun state ⟨same, left⟩ => ⟨left, same ▸ left.tag id⟩) fun stated => ?_
  split
  · exact Keeps.pure _
  · refine .ite (fun _ => ?_) fun _ => ?_
    · exact (keeps_note id _).bind fun _ => Keeps.bind (.modify fun _ left => left) fun _ => .pure _
    · exact (keeps_readNode stated).bind fun _ => (keeps_note id _).bind fun _ => .pure _

/-! ## Collections -/

theorem keeps_setEntries {fails : Fault → Prop} {id : NodeId} (found : origin.IsMapping id)
    (entries : List (NodeId × NodeId)) : Keeps (Left origin) fails (setEntries id entries) :=
  .modify fun _ left => left.setContent found entries

theorem keeps_settleKey {fails : Fault → Prop} (id : NodeId) :
    Keeps (Left origin) fails (settleKey id) :=
  .modify fun _ left => left.settle id

theorem keeps_takeMerge? (id : NodeId) :
    Keeps (Left origin) (ScalarFault origin) (takeMerge? id) := by
  refine (reads_entries id).bind fun entries => .of_fact (fun _ found => found) fun is => ?_
  refine Keeps.get.bind fun survey => ?_
  split
  · exact .pure _
  · exact (keeps_setEntries is _).bind fun _ => .pure _

/-- New entries may be put before those of a node, which shows it to be a mapping. -/
theorem keeps_prepend (id : NodeId) (brought : List (NodeId × NodeId)) :
    Keeps (Left origin) (ScalarFault origin)
      (entries id >>= fun own => setEntries id (brought ++ own)) :=
  (reads_entries id).bind fun _ => .of_fact (fun _ found => found) fun is => keeps_setEntries is _

theorem keeps_broughtIn {merge : NodeId → Surveyor Unit}
    (keeps : ∀ id, Keeps (Left origin) (ScalarFault origin) (merge id)) (id : NodeId) :
    Keeps (Left origin) (ScalarFault origin) (broughtIn merge id) := by
  refine (keeps_content id).bind fun content => ?_
  cases content with
  | scalar text => exact .throw .malformed
  | mapping _ => exact (keeps id).bind fun _ => keeps_entries id
  | sequence items =>
    refine Keeps.bind (.mapM fun item _ => ?_) fun _ => .pure _
    exact (keeps item).bind fun _ => keeps_entries item

theorem keeps_gather (count : Nat) (id : NodeId) :
    Keeps (Left origin) (ScalarFault origin) (gather count id) := by
  induction count generalizing id with
  | zero => exact .throw .malformed
  | succ count ih =>
    refine (keeps_takeMerge? id).bind fun value => ?_
    cases value with
    | none =>
      refine (keeps_entries id).bind fun _ => Keeps.bind (.forM fun entry _ => ?_) fun _ => .pure _
      exact keeps_settleKey entry.1
    | some value =>
      refine (keeps_broughtIn (fun other => ?_) value).bind fun _ => (ih id).bind fun _ => .pure _
      exact (ih other).bind fun brought => keeps_prepend other brought

theorem keeps_merge (id : NodeId) : Keeps (Left origin) (ScalarFault origin) (merge id) :=
  Keeps.get.bind fun _ => (keeps_gather _ id).bind fun brought => keeps_prepend id brought

theorem keeps_labelOf (key : NodeId) :
    Keeps (Left origin) (ScalarFault origin) (labelOf key) := by
  refine (keeps_meet key).bind fun shape => ?_
  split
  · exact .throw .malformed
  · exact Keeps.get.bind fun _ => (keeps_scalarText _ key).bind fun _ => .pure _
  · exact .pure _

theorem keeps_readEntries (id : NodeId) :
    Keeps (Left origin) (ScalarFault origin) (readEntries id) := by
  refine (keeps_merge id).bind fun _ => (keeps_entries id).bind fun entries => ?_
  refine Keeps.bind (.mapM fun entry _ => ?_) fun _ => .pure _
  exact (keeps_labelOf _).bind fun _ => (keeps_meet _).bind fun _ => .pure _

theorem keeps_readPair (id : NodeId) : Keeps (Left origin) (ScalarFault origin) (readPair id) := by
  refine (keeps_entries id).bind fun entries => ?_
  split
  · exact (keeps_meet _).bind fun _ => (keeps_meet _).bind fun _ => .pure _
  · exact .throw .malformed

theorem keeps_readCollection (id : NodeId) :
    Keeps (Left origin) (ScalarFault origin) (readCollection id) := by
  refine Keeps.get.bind fun survey => ?_
  split
  · exact (keeps_items id).bind fun _ => Keeps.bind (.mapM fun item _ => keeps_meet item)
      fun _ => .pure _
  · exact (keeps_readEntries id).bind fun _ => .pure _
  · exact (keeps_readEntries id).bind fun _ => .pure _
  · exact (keeps_items id).bind fun _ => Keeps.bind (.mapM fun item _ => keeps_readPair item)
      fun _ => .pure _

theorem keeps_readWaiting (count : Nat) :
    Keeps (Left origin) (ScalarFault origin) (readWaiting count) := by
  induction count with
  | zero => exact .pure _
  | succ count ih =>
    refine Reads.get.bind fun survey => ?_
    split
    · exact (Keeps.pure _).reads fun _ found => found.2
    · next id waiting _ =>
      refine Reads.bind ?_ fun _ => (keeps_readCollection id).bind fun _ =>
        (keeps_note id _).bind fun _ => ih
      rintro _ ⟨rfl, left⟩
      exact left

theorem keeps_readAll (root : NodeId) : Keeps (Left origin) (ScalarFault origin) (readAll root) :=
  (keeps_meet root).bind fun _ => Keeps.get.bind fun _ => keeps_readWaiting _

end Surveyor

/-- The value of a graph fails only by its scalars. -/
theorem Graph.scalarFault_value {graph : Graph} {root : NodeId} {fault : Fault}
    (failed : graph.value root = .error fault) : graph.ScalarFault fault := by
  have reads : Keeps (Survey.Left graph) graph.ScalarFault (Surveyor.readAll root) :=
    Surveyor.keeps_readAll root
  have start : Survey.Left graph { graph } := .refl graph
  change (Surveyor.readAll root { graph } >>= fun _ => _) = _ at failed
  cases ended : Surveyor.readAll root { graph } with
  | error reason =>
    rw [ended] at failed
    cases failed
    exact reads.error start ended
  | ok result =>
    rw [ended] at failed
    cases failed

end PatternForge.Yaml
