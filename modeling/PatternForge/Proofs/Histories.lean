import PatternForge.Proofs.Hierarchy
import PatternForge.Workshop.Run

/-! # Histories of scopes

Whatever is done with the scopes of a workshop, one operation after the other, they stay in a strict
hierarchy: making a scope and changing one leave both views of the hierarchy, generation leaves the
forest altogether, and attaching is what `Forest.Strict.attach` is about.
-/

namespace PatternForge

/-- Something done with the scopes of a workshop. -/
inductive ScopeOperation where
  | makeLiteral (name : Text) (pool : List Text)
  | makeGroup (name : Text) (alternating : Bool)
  | attach (group child : ScopeId)
  /-- The children of a group are read, and the list read is changed. -/
  | readChildren (group : ScopeId) (edit : List ScopeId → List ScopeId)
  | setBounds (scope : ScopeId) (change : Bounds → Bounds)
  | addAlternative (scope : ScopeId) (literal : Text)
  | setAlternating (group : ScopeId) (alternating : Bool)
  | generateInto (scope : ScopeId) (source : SourceId) (sink : SinkId)
  | render (scope : ScopeId) (source : SourceId)
  /-- A scope generates a text, and its draws are recorded. -/
  | trace (scope : ScopeId) (source : SourceId)

namespace Work

/-- Does something with the tree below a scope, if the scope was made. It hands out no scope. -/
def withTree {α : Type} (scope : ScopeId) (work : Tree → Work α) : Work (List ScopeId) := do
  match (← get).forest.tree? scope with
  | some tree => discard (work tree)
  | none => pure ()
  return []

end Work

/-- Does it, and gives the scopes that it hands out. -/
def ScopeOperation.perform : ScopeOperation → Work (List ScopeId)
  | makeLiteral name pool => return [← Work.makeLiteral name pool]
  | makeGroup name alternating => return [← Work.makeGroup name alternating]
  | attach group child => do
    -- Nothing but a group can be asked to attach, and nothing be attached but what was made.
    let forest := (← get).forest
    if forest.isGroup group && forest.isMade child then Work.attach group child
    return [group]
  | readChildren group edit => return edit ((← get).forest.childrenOf group)
  | setBounds scope change => do
    Work.modifyForest (·.setBounds scope change)
    return []
  | addAlternative scope literal => do
    Work.modifyForest (·.addAlternative scope literal)
    return []
  | setAlternating group alternating => do
    Work.modifyForest (·.setAlternating group alternating)
    return []
  | generateInto scope source sink =>
    Work.withTree scope fun tree => Work.generateInto tree source sink
  | render scope source => Work.withTree scope fun tree => Work.render tree source
  | trace scope source => Work.withTree scope fun tree => Work.trace tree source

namespace Workshop

/-- The workshop after an operation, however that ended. -/
def after (shop : Workshop) (operation : ScopeOperation) : Workshop :=
  (operation.perform.run.run shop).2

def afterAll (shop : Workshop) (history : List ScopeOperation) : Workshop :=
  history.foldl after shop

end Workshop

namespace Work

variable {α β : Type}

/-- A piece of work leaves the forest, however it ends. -/
def KeepsForest (work : Work α) : Prop :=
  ∀ shop, (work.run.run shop).2.forest = shop.forest

theorem keepsForest_pure (result : α) : KeepsForest (pure result) := fun _ => rfl

theorem keepsForest_get : KeepsForest get := fun _ => rfl

theorem keepsForest_modify {change : Workshop → Workshop}
    (same : ∀ shop, (change shop).forest = shop.forest) : KeepsForest (modify change) := same

theorem keepsForest_ofExcept {ε : Type} (fault : ε → WorkFault) (answer : Except ε α) :
    KeepsForest (ofExcept fault answer) := by
  cases answer <;> exact fun _ => rfl

theorem keepsForest_bind {first : Work α} {next : α → Work β} (head : KeepsForest first)
    (rest : ∀ result, KeepsForest (next result)) : KeepsForest (first >>= next) := by
  intro shop
  have left := head shop
  rw [ExceptT.run_bind, StateT.run_bind]
  rcases ended : first.run.run shop with ⟨fault | result, after⟩
  · rw [ended] at left
    exact left
  · rw [ended] at left
    exact (rest result after).trans left

theorem keepsForest_attempt {work : Work α} (kept : KeepsForest work) :
    KeepsForest (attempt work) := kept

theorem keepsForest_discard {work : Work α} (kept : KeepsForest work) :
    KeepsForest (discard work) :=
  keepsForest_bind kept fun _ => keepsForest_pure _

theorem keepsForest_settings : KeepsForest settings :=
  keepsForest_bind keepsForest_get fun _ =>
    keepsForest_bind (keepsForest_modify fun _ => rfl) fun _ => keepsForest_ofExcept _ _

theorem keepsForest_limitFor (bounds : Bounds) : KeepsForest (limitFor bounds) := by
  rw [limitFor]
  split
  · exact keepsForest_bind keepsForest_settings fun _ => keepsForest_pure _
  · exact keepsForest_pure _

theorem keepsForest_forM_write (notices : List Notice) :
    KeepsForest (notices.forM fun notice => write (writerOf notice) notice.message) := by
  induction notices with
  | nil => exact keepsForest_pure _
  | cons notice rest ih => exact keepsForest_bind (keepsForest_modify fun _ => rfl) fun _ => ih

section Generation

variable {σ : Type} (tree : Tree) (source : SourceId)

theorem keepsForest_generateFrom (behaviour : Source σ) (state : σ) :
    KeepsForest (generateFrom tree behaviour state) := by
  refine keepsForest_bind (keepsForest_attempt (keepsForest_limitFor _)) fun answer => ?_
  cases answer with
  | error fault => exact keepsForest_pure _
  | ok limit => exact keepsForest_bind (keepsForest_forM_write _) fun _ => keepsForest_pure _

theorem keepsForest_generate : KeepsForest (generate tree source) :=
  keepsForest_bind keepsForest_get fun _ =>
    keepsForest_bind (keepsForest_generateFrom _ _ _) fun _ =>
      keepsForest_bind (keepsForest_modify fun _ => rfl) fun _ => keepsForest_pure _

theorem keepsForest_generateInto (sink : SinkId) : KeepsForest (generateInto tree source sink) :=
  keepsForest_bind (keepsForest_generate _ _) fun _ =>
    keepsForest_bind (keepsForest_modify fun _ => rfl) fun _ => keepsForest_ofExcept _ _

theorem keepsForest_render : KeepsForest (render tree source) :=
  keepsForest_bind (keepsForest_generate _ _) fun _ => keepsForest_ofExcept _ _

theorem keepsForest_trace : KeepsForest (trace tree source) := by
  refine keepsForest_bind ?_ fun _ => ?_
  · exact keepsForest_bind keepsForest_get fun _ =>
      keepsForest_bind (keepsForest_generateFrom _ _ _) fun _ =>
        keepsForest_bind (keepsForest_modify fun _ => rfl) fun _ => keepsForest_pure _
  · exact keepsForest_bind (keepsForest_ofExcept _ _) fun _ => keepsForest_pure _

end Generation

theorem keepsForest_withTree (scope : ScopeId) {work : Tree → Work α}
    (kept : ∀ tree, KeepsForest (work tree)) : KeepsForest (withTree scope work) := by
  refine keepsForest_bind keepsForest_get fun shop => ?_
  cases shop.forest.tree? scope with
  | none => exact keepsForest_pure _
  | some tree => exact keepsForest_bind (keepsForest_discard (kept tree)) fun _ => keepsForest_pure _

/-- Attaching ends with the forest that it leads to, or with nothing changed. -/
theorem run_attach (shop : Workshop) (group child : ScopeId) :
    (attach group child).run.run shop =
      match shop.forest.attach group child with
      | .ok forest => (.ok (), { shop with forest })
      | .error fault => (.error (.attach fault), shop) := by
  change (ofExcept WorkFault.attach (shop.forest.attach group child) >>= fun forest =>
    modifyForest fun _ => forest).run.run shop = _
  cases shop.forest.attach group child <;> rfl

end Work

namespace Workshop

variable {shop : Workshop}

theorem forest_after_attach (shop : Workshop) (group child : ScopeId) :
    (shop.after (.attach group child)).forest =
      if shop.forest.isGroup group && shop.forest.isMade child then
        (shop.forest.attach group child).toOption.getD shop.forest
      else shop.forest := by
  have performed : shop.after (.attach group child) =
      ((if shop.forest.isGroup group && shop.forest.isMade child then
        Work.attach group child >>= fun _ => pure [group]
      else pure [group]).run.run shop).2 := rfl
  rw [performed]
  split
  · rw [ExceptT.run_bind, StateT.run_bind, Work.run_attach]
    cases shop.forest.attach group child <;> rfl
  · rfl

/-- An operation leaves a strict hierarchy, whether it succeeds or fails. -/
theorem strict_after (strict : shop.forest.Strict) (operation : ScopeOperation) :
    (shop.after operation).forest.Strict := by
  have generated {scope : ScopeId} {α : Type} {work : Tree → Work α}
      (kept : ∀ tree, Work.KeepsForest (work tree)) :
      ((Work.withTree scope work).run.run shop).2.forest.Strict := by
    rw [Work.keepsForest_withTree scope kept shop]
    exact strict
  cases operation with
  | makeLiteral name pool =>
    exact strict.of_views (Forest.parentOf_add _) (Forest.childrenOf_add rfl)
  | makeGroup name alternating =>
    exact strict.of_views (Forest.parentOf_add _) (Forest.childrenOf_add rfl)
  | attach group child =>
    rw [forest_after_attach]
    split
    · next sensible =>
      rw [Bool.and_eq_true] at sensible
      cases attached : shop.forest.attach group child with
      | error fault => exact strict
      | ok forest => exact strict.attach sensible.2 sensible.1 attached
    · exact strict
  | readChildren group edit => exact strict
  | setBounds scope change =>
    exact strict.of_views (Forest.parentOf_update fun _ => rfl)
      (Forest.childrenOf_update fun _ => rfl)
  | addAlternative scope literal =>
    refine strict.of_views (Forest.parentOf_update ?_) (Forest.childrenOf_update ?_)
    · intro node
      cases node.content <;> rfl
    · intro node
      cases content : node.content <;> simp only [ScopeNode.children, content]
  | setAlternating group alternating =>
    refine strict.of_views (Forest.parentOf_update ?_) (Forest.childrenOf_update ?_)
    · intro node
      cases node.content <;> rfl
    · intro node
      cases content : node.content <;> simp only [ScopeNode.children, content]
  | generateInto scope source sink =>
    exact generated fun tree => Work.keepsForest_generateInto tree source sink
  | render scope source => exact generated fun tree => Work.keepsForest_render tree source
  | trace scope source => exact generated fun tree => Work.keepsForest_trace tree source

/-- So does a history of operations. -/
theorem strict_afterAll (strict : shop.forest.Strict) (history : List ScopeOperation) :
    (shop.afterAll history).forest.Strict := by
  induction history generalizing shop with
  | nil => exact strict
  | cons operation rest ih => exact ih (strict_after strict operation)

theorem strict_empty : ({} : Forest).Strict where
  linked group child := by
    constructor
    · intro named
      cases named
    · intro listed
      cases listed
  once group := List.nodup_nil
  acyclic id := by
    intro around
    obtain ⟨child, listed, -⟩ := Relation.TransGen.head'_iff.mp around
    cases listed

/-- Whatever was done with the scopes of a workshop that had none at first, they stand in a strict
hierarchy: the two views agree, no scope is listed twice, and none stands above itself. So every way
down ends, the search is exact, and there is a tree below every scope. Attaching either fails and
changes nothing, or puts the scope at the end of the group and changes nothing else. -/
theorem strict_hierarchy_of_history (start : Workshop) (bare : start.forest = {})
    (history : List ScopeOperation) :
    let shop := start.afterAll history
    let forest := shop.forest
    forest.Strict ∧
      (∀ first second child, child ∈ forest.childrenOf first → child ∈ forest.childrenOf second →
        first = second) ∧
      (WellFounded fun below above => below ∈ forest.childrenOf above) ∧
      (∀ above below levels, forest.nodes.size ≤ levels →
        (forest.holdsWithin levels above below = true ↔ forest.Encloses above below)) ∧
      (∀ id, forest.isMade id = true → ∃ tree, ∀ levels, forest.nodes.size ≤ levels →
        forest.treeWithin? levels id = some tree) ∧
      (∀ group child fault after,
        (Work.attach group child).run.run shop = (.error fault, after) → after = shop) ∧
      ∀ group child after, forest.isGroup group = true → forest.isMade child = true →
        (Work.attach group child).run.run shop = (.ok (), after) →
          forest.Joined group child after.forest ∧ after = { shop with forest := after.forest } := by
  intro shop forest
  have strict : forest.Strict := by
    refine strict_afterAll ?_ history
    rw [bare]
    exact strict_empty
  refine ⟨strict, fun _ _ _ => strict.unique, strict.wellFounded, ?_, ?_, ?_, ?_⟩
  · intro above below levels enough
    exact strict.holdsWithin_iff enough
  · intro id made
    exact strict.exists_tree (Forest.isMade_iff.mp made)
  · intro group child fault after ended
    rw [Work.run_attach] at ended
    cases attached : shop.forest.attach group child with
    | error fault =>
      rw [attached] at ended
      exact (Prod.mk.inj ended).2.symm
    | ok linked =>
      rw [attached] at ended
      cases (Prod.mk.inj ended).1
  · intro group child after grouping made ended
    rw [Work.run_attach] at ended
    cases attached : shop.forest.attach group child with
    | error fault =>
      rw [attached] at ended
      cases (Prod.mk.inj ended).1
    | ok linked =>
      rw [attached] at ended
      obtain rfl := (Prod.mk.inj ended).2
      exact ⟨Forest.joined_of_attach made grouping attached, rfl⟩

/-- A bar in a song: the bar cannot be put below itself, nor the beat into two groups, and what is
done to a list that was read is not done to the group. -/
theorem strict_hierarchy_of_history_song :
    let history : List ScopeOperation :=
      [.makeGroup "song" false, .makeGroup "bar" true, .makeLiteral "beat" ["dit", "dah"],
        .attach 1 2, .attach 0 1, .attach 1 0, .attach 0 2, .attach 1 1,
        .readChildren 0 fun _ => [], .setBounds 0 fun _ => ⟨2, 4⟩, .addAlternative 2 "dum"]
    let forest := (({} : Workshop).afterAll history).forest
    forest.childrenOf 0 = [1] ∧ forest.childrenOf 1 = [2] ∧ forest.parentOf 0 = none ∧
      forest.Strict := by
  refine ⟨by decide, by decide, by decide, (strict_hierarchy_of_history {} rfl _).1⟩

end Workshop

end PatternForge
