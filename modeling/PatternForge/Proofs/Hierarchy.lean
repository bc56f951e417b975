import Mathlib.Data.Set.Card
import Mathlib.Logic.Relation
import Mathlib.Order.Interval.Set.Nat
import PatternForge.Scope.Forest

/-! # Strict hierarchies

In a strict hierarchy the groups that scopes name and the lists that groups keep are two views of
one relation, a list names a scope once, and no scope stands below itself. Attaching keeps it so
(`Strict.attach`), because the search that it makes first is exact (`Strict.holds_iff`): what a
scope encloses becomes less with every step down, so the number of scopes is enough levels for the
search, and for the tree below a scope (`Strict.exists_tree`).
-/

namespace PatternForge

/-- What a scope is without its place in the hierarchy. -/
def ScopeNode.alone (node : ScopeNode) : ScopeNode :=
  { node with
    parent := none
    content :=
      match node.content with
      | .literal pool => .literal pool
      | .group alternating _ => .group alternating [] }

def ScopeNode.isGroup (node : ScopeNode) : Bool :=
  match node.content with
  | .literal _ => false
  | .group .. => true

namespace Forest

def isGroup (forest : Forest) (id : ScopeId) : Bool :=
  ((forest.node? id).map (·.isGroup)).getD false

def isMade (forest : Forest) (id : ScopeId) : Bool :=
  (forest.node? id).isSome

/-- A group lists a scope as a child. -/
def Lists (forest : Forest) (group child : ScopeId) : Prop :=
  child ∈ forest.childrenOf group

/-- A scope stands above another, however far. -/
def Encloses (forest : Forest) : ScopeId → ScopeId → Prop :=
  Relation.TransGen forest.Lists

/-- The scopes below a scope. -/
def enclosed (forest : Forest) (id : ScopeId) : Set ScopeId :=
  {below | forest.Encloses id below}

/-- A forest in which every scope has its one place. -/
structure Strict (forest : Forest) : Prop where
  /-- A scope names the group that lists it. -/
  linked : ∀ group child, forest.parentOf child = some group ↔ child ∈ forest.childrenOf group
  /-- A group lists a scope once. -/
  once : ∀ group, (forest.childrenOf group).Nodup
  /-- No scope stands above itself. -/
  acyclic : ∀ id, ¬forest.Encloses id id

/-- A forest becomes another by a scope being put at the end of a group. -/
structure Joined (before : Forest) (group child : ScopeId) (after : Forest) : Prop where
  /-- The scope had no group. -/
  free : before.parentOf child = none
  /-- It has one now, and no other scope has another one than before. -/
  parents : after.parentOf = Function.update before.parentOf child (some group)
  /-- The group lists it last, and no other list is another one than before. -/
  children : after.childrenOf =
    Function.update before.childrenOf group (before.childrenOf group ++ [child])
  /-- By themselves all scopes are what they were. -/
  alone : ∀ id, (after.node? id).map ScopeNode.alone = (before.node? id).map ScopeNode.alone

variable {forest : Forest} {group child above below id : ScopeId}

theorem isMade_iff : forest.isMade id = true ↔ id < forest.nodes.size := by
  rw [isMade, Option.isSome_iff_exists]
  constructor
  · rintro ⟨node, present⟩
    exact (Array.getElem?_eq_some_iff.mp present).choose
  · intro inside
    exact ⟨_, Array.getElem?_eq_getElem inside⟩

theorem isGroup_iff : forest.isGroup id = true ↔ ∃ node alternating children,
    forest.node? id = some node ∧ node.content = .group alternating children := by
  rw [isGroup]
  cases forest.node? id with
  | none => simp
  | some node => cases content : node.content <;> simp [ScopeNode.isGroup, content]

theorem isGroup_update {change : ScopeNode → ScopeNode}
    (same : ∀ node, (change node).isGroup = node.isGroup) :
    (forest.update id change).isGroup = forest.isGroup := by
  funext other
  rw [isGroup, isGroup, map_node?_update same]

/-- Only a scope that was made lists others. -/
theorem lt_size_of_lists (lists : forest.Lists group child) : group < forest.nodes.size := by
  rw [← isMade_iff, isMade]
  cases present : forest.node? group with
  | none =>
    rw [Lists, childrenOf, present] at lists
    cases lists
  | some node => rfl

namespace Strict

variable (strict : forest.Strict)
include strict

/-- Two groups that list the same scope are the same. -/
theorem unique {first second : ScopeId} (listed : child ∈ forest.childrenOf first)
    (again : child ∈ forest.childrenOf second) : first = second :=
  Option.some.inj (((strict.linked first child).mpr listed).symm.trans
    ((strict.linked second child).mpr again))

theorem lt_size_of_listed (lists : forest.Lists group child) : child < forest.nodes.size := by
  rw [← isMade_iff, isMade]
  have named := (strict.linked group child).mpr lists
  cases present : forest.node? child with
  | none =>
    rw [parentOf, present] at named
    cases named
  | some node => rfl

theorem enclosed_subset (id : ScopeId) : forest.enclosed id ⊆ Set.Iio forest.nodes.size := by
  intro below encloses
  cases encloses with
  | single lists => exact strict.lt_size_of_listed lists
  | tail _ lists => exact strict.lt_size_of_listed lists

theorem finite_enclosed (id : ScopeId) : (forest.enclosed id).Finite :=
  (Set.finite_Iio _).subset (strict.enclosed_subset id)

/-- A scope encloses fewer scopes than there are, as it does not enclose itself. -/
theorem ncard_enclosed_lt_size (made : id < forest.nodes.size) :
    (forest.enclosed id).ncard < forest.nodes.size := by
  have smaller : forest.enclosed id ⊂ Set.Iio forest.nodes.size :=
    ⟨strict.enclosed_subset id, fun all => strict.acyclic id (all made)⟩
  calc (forest.enclosed id).ncard < (Set.Iio forest.nodes.size).ncard :=
        Set.ncard_lt_ncard smaller (Set.finite_Iio _)
    _ = forest.nodes.size := Set.ncard_Iio_nat _

/-- What a scope encloses becomes less with every step down. -/
theorem ncard_enclosed_lt (lists : forest.Lists above below) :
    (forest.enclosed below).ncard < (forest.enclosed above).ncard := by
  refine Set.ncard_lt_ncard ⟨?_, ?_⟩ (strict.finite_enclosed above)
  · intro id encloses
    exact .head lists encloses
  · intro all
    exact strict.acyclic below (all (.single lists))

/-- There is no way down the child lists without an end. -/
theorem wellFounded : WellFounded fun below above => forest.Lists above below :=
  Subrelation.wf (fun lists => strict.ncard_enclosed_lt lists)
    (measure fun id => (forest.enclosed id).ncard).wf

end Strict

/-! ## The search for a scope -/

/-- What the search finds is there. -/
theorem encloses_of_holdsWithin {levels : ℕ}
    (found : forest.holdsWithin levels above below = true) : forest.Encloses above below := by
  induction levels generalizing above with
  | zero => cases found
  | succ levels ih =>
    simp only [holdsWithin, List.any_eq_true, Bool.or_eq_true, beq_iff_eq] at found
    obtain ⟨child, listed, rfl | deeper⟩ := found
    · exact .single listed
    · exact .head listed (ih deeper)

namespace Strict

variable (strict : forest.Strict)
include strict

/-- What is there is found within as many levels as the scope encloses others. -/
theorem holdsWithin_of_encloses {levels : ℕ} (encloses : forest.Encloses above below)
    (enough : (forest.enclosed above).ncard ≤ levels) :
    forest.holdsWithin levels above below = true := by
  induction levels generalizing above with
  | zero =>
    have occupied : 0 < (forest.enclosed above).ncard :=
      (Set.ncard_pos (strict.finite_enclosed above)).mpr ⟨below, encloses⟩
    omega
  | succ levels ih =>
    simp only [holdsWithin, List.any_eq_true, Bool.or_eq_true, beq_iff_eq]
    obtain ⟨child, listed, further⟩ := Relation.TransGen.head'_iff.mp encloses
    refine ⟨child, listed, ?_⟩
    rcases Relation.reflTransGen_iff_eq_or_transGen.mp further with same | deeper
    · exact .inl same.symm
    · have less := strict.ncard_enclosed_lt listed
      exact .inr (ih deeper (by omega))

/-- More levels than there are scopes make no difference to the search: it is exact. -/
theorem holdsWithin_iff {levels : ℕ} (enough : forest.nodes.size ≤ levels) :
    forest.holdsWithin levels above below = true ↔ forest.Encloses above below := by
  constructor
  · exact encloses_of_holdsWithin
  · intro encloses
    obtain ⟨child, listed, -⟩ := Relation.TransGen.head'_iff.mp encloses
    have fewer := strict.ncard_enclosed_lt_size (lt_size_of_lists listed)
    exact strict.holdsWithin_of_encloses encloses (by omega)

theorem holds_iff : forest.holds above below = true ↔ forest.Encloses above below :=
  strict.holdsWithin_iff (Nat.le_refl _)

end Strict

/-! ## The tree below a scope -/

/-- Trees for each of some scopes are trees for all of them. -/
private theorem exists_trees {scopes : List ScopeId} {least : ℕ}
    (each : ∀ scope ∈ scopes, ∃ tree, ∀ levels, least ≤ levels →
      forest.treeWithin? levels scope = some tree) :
    ∃ trees, ∀ levels, least ≤ levels →
      scopes.mapM (forest.treeWithin? levels) = some trees := by
  induction scopes with
  | nil => exact ⟨[], fun levels _ => rfl⟩
  | cons scope rest ih =>
    obtain ⟨tree, found⟩ := each scope List.mem_cons_self
    obtain ⟨trees, others⟩ := ih fun other member => each other (List.mem_cons_of_mem _ member)
    refine ⟨tree :: trees, fun levels enough => ?_⟩
    rw [List.mapM_cons, found levels enough, others levels enough]
    rfl

/-- Below every scope stands a tree, and as many levels as there are scopes are enough for it. -/
theorem Strict.exists_tree (strict : forest.Strict) (made : id < forest.nodes.size) :
    ∃ tree, ∀ levels, forest.nodes.size ≤ levels →
      forest.treeWithin? levels id = some tree := by
  have deep : ∀ id < forest.nodes.size, ∃ tree, ∀ levels,
      (forest.enclosed id).ncard + 1 ≤ levels → forest.treeWithin? levels id = some tree := by
    intro id
    induction id using strict.wellFounded.induction with
    | h id ih =>
      intro made
      have present : forest.node? id = some forest.nodes[id] := Array.getElem?_eq_getElem made
      cases content : forest.nodes[id].content with
      | literal pool =>
        refine ⟨.literal forest.nodes[id].name forest.nodes[id].bounds pool, ?_⟩
        intro levels enough
        cases levels with
        | zero => omega
        | succ levels => simp only [treeWithin?, present, content]
      | group alternating children =>
        have listed : ∀ child ∈ children, forest.Lists id child := by
          intro child member
          simpa only [Lists, childrenOf, present, Option.map_some, Option.getD_some,
            ScopeNode.children, content] using member
        obtain ⟨trees, found⟩ : ∃ trees, ∀ levels, (forest.enclosed id).ncard ≤ levels →
            children.mapM (forest.treeWithin? levels) = some trees := by
          refine exists_trees fun child member => ?_
          have lists := listed child member
          obtain ⟨tree, found⟩ := ih child lists (strict.lt_size_of_listed lists)
          have less := strict.ncard_enclosed_lt lists
          exact ⟨tree, fun levels enough => found levels (by omega)⟩
        refine ⟨.group forest.nodes[id].name forest.nodes[id].bounds alternating trees, ?_⟩
        intro levels enough
        cases levels with
        | zero => omega
        | succ levels =>
          simp only [treeWithin?, present, content]
          rw [found levels (by omega)]
          rfl
  obtain ⟨tree, found⟩ := deep id made
  have fewer := strict.ncard_enclosed_lt_size made
  exact ⟨tree, fun levels enough => found levels (by omega)⟩

/-! ## Attaching -/

section Link

variable (made : forest.isMade child = true) (grouping : forest.isGroup group = true)

include made in
theorem parentOf_link :
    (forest.link group child).parentOf = Function.update forest.parentOf child (some group) := by
  rw [link, parentOf_update fun node => by split <;> rfl]
  funext id
  obtain ⟨node, present⟩ := Option.isSome_iff_exists.mp made
  rw [Function.update_apply, parentOf, node?_update]
  by_cases same : child = id
  · subst same
    simp only [present, ↓reduceIte, Option.map_some, Option.bind_some]
  · simp only [same, Ne.symm same, ↓reduceIte]
    rfl

include grouping in
theorem childrenOf_link :
    (forest.link group child).childrenOf =
      Function.update forest.childrenOf group (forest.childrenOf group ++ [child]) := by
  rw [link]
  -- Naming a group moves no list, and leaves the group one.
  generalize named : forest.update child _ = marked
  have lists : marked.childrenOf = forest.childrenOf := by
    rw [← named]
    exact childrenOf_update fun node => rfl
  have kinds : marked.isGroup = forest.isGroup := by
    rw [← named]
    exact isGroup_update fun node => rfl
  rw [← kinds] at grouping
  obtain ⟨node, alternating, children, present, content⟩ := isGroup_iff.mp grouping
  funext id
  rw [← lists, Function.update_apply, childrenOf, node?_update]
  by_cases here : group = id
  · subst here
    simp only [present, content, childrenOf, ScopeNode.children, ↓reduceIte, Option.map_some,
      Option.getD_some]
  · simp only [here, Ne.symm here, ↓reduceIte]
    rfl

theorem alone_link (id : ScopeId) : ((forest.link group child).node? id).map ScopeNode.alone =
    (forest.node? id).map ScopeNode.alone := by
  rw [link, map_node?_update, map_node?_update]
  · intro node
    rfl
  · intro node
    cases content : node.content <;> simp only [ScopeNode.alone, content]

include grouping in
theorem lists_link : (forest.link group child).Lists above below ↔
    forest.Lists above below ∨ above = group ∧ below = child := by
  rw [Lists, Lists, childrenOf_link grouping, Function.update_apply]
  split
  · next same =>
    subst same
    simp only [List.mem_append, List.mem_singleton, true_and]
  · next different => simp only [different, false_and, or_false]

include grouping in
/-- A way down in the new forest is one in the old, or leads to the group and on from the scope. -/
theorem encloses_link (encloses : (forest.link group child).Encloses above below) :
    forest.Encloses above below ∨
      Relation.ReflTransGen forest.Lists above group ∧
        Relation.ReflTransGen forest.Lists child below := by
  induction encloses with
  | single lists =>
    rcases (lists_link grouping).mp lists with old | ⟨rfl, rfl⟩
    · exact .inl (.single old)
    · exact .inr ⟨.refl, .refl⟩
  | tail _ lists ih =>
    rcases (lists_link grouping).mp lists with old | ⟨rfl, rfl⟩
    · rcases ih with way | ⟨down, on⟩
      · exact .inl (.tail way old)
      · exact .inr ⟨down, on.tail old⟩
    · rcases ih with way | ⟨down, -⟩
      · exact .inr ⟨way.to_reflTransGen, .refl⟩
      · exact .inr ⟨down, .refl⟩

include made grouping in
/-- A scope without a group can be put at the end of a group that it does not enclose and is not. -/
theorem Strict.link (strict : forest.Strict) (free : forest.parentOf child = none)
    (apart : child ≠ group) (outside : ¬forest.Encloses child group) :
    (forest.link group child).Strict where
  linked := by
    intro other scope
    rw [parentOf_link made, childrenOf_link grouping, Function.update_apply,
      Function.update_apply]
    have old := strict.linked other scope
    have unlisted : ∀ id, child ∉ forest.childrenOf id := by
      intro id listed
      rw [(strict.linked id child).mpr listed] at free
      cases free
    by_cases new : scope = child
    · subst new
      by_cases here : other = group
      · simp [here]
      · simp [here, Ne.symm here, unlisted]
    · by_cases here : other = group
      · subst here
        simp [new, old]
      · simp [new, here, old]
  once := by
    intro other
    rw [childrenOf_link grouping, Function.update_apply]
    split
    · refine List.nodup_append.mpr ⟨strict.once group, List.nodup_singleton child, ?_⟩
      rintro listed member _ last rfl
      obtain rfl := List.mem_singleton.mp last
      rw [(strict.linked group listed).mpr member] at free
      cases free
    · exact strict.once other
  acyclic := by
    intro id around
    rcases encloses_link grouping around with way | ⟨down, on⟩
    · exact strict.acyclic id way
    · rcases Relation.reflTransGen_iff_eq_or_transGen.mp (on.trans down) with same | encloses
      · exact apart same.symm
      · exact outside encloses

end Link

/-- Attaching succeeds if the scope is not the group, does not hold it and has no group. -/
theorem attach_eq_ok_iff {after : Forest} : forest.attach group child = .ok after ↔
    child ≠ group ∧ forest.holds child group = false ∧ forest.parentOf child = none ∧
      forest.link group child = after := by
  rw [attach]
  by_cases same : child = group
  · simp [same]
  · cases held : forest.holds child group with
    | true => simp
    | false => cases named : forest.parentOf child <;> simp [same]

/-- A scope that is attached joins the group. -/
theorem joined_of_attach {after : Forest} (made : forest.isMade child = true)
    (grouping : forest.isGroup group = true) (attached : forest.attach group child = .ok after) :
    forest.Joined group child after := by
  obtain ⟨-, -, free, rfl⟩ := attach_eq_ok_iff.mp attached
  exact ⟨free, parentOf_link made, childrenOf_link grouping, alone_link⟩

/-- The search before it keeps an attachment from closing a circle. -/
theorem Strict.attach (strict : forest.Strict) {after : Forest}
    (made : forest.isMade child = true) (grouping : forest.isGroup group = true)
    (attached : forest.attach group child = .ok after) : after.Strict := by
  obtain ⟨apart, missed, free, rfl⟩ := attach_eq_ok_iff.mp attached
  refine strict.link made grouping free apart fun encloses => ?_
  rw [strict.holds_iff.mpr encloses] at missed
  cases missed

/-- What leaves both views leaves the hierarchy. -/
theorem Strict.of_views {after : Forest} (strict : forest.Strict)
    (parents : after.parentOf = forest.parentOf) (children : after.childrenOf = forest.childrenOf) :
    after.Strict where
  linked := by
    rw [parents, children]
    exact strict.linked
  once := by
    rw [children]
    exact strict.once
  acyclic := by
    have same : after.Lists = forest.Lists := by
      funext group child
      rw [Lists, Lists, children]
    rw [Encloses, same]
    exact strict.acyclic

end Forest

end PatternForge
