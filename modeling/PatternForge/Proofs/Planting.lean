import PatternForge.Proofs.Hierarchy
import PatternForge.Workshop.Basic

/-! # Planted descriptions

Planting makes one scope for each place of a description, each group before what stands below it,
and attaches every scope as soon as it is made. The scopes that come of it can be written down
beforehand (`Description.layout`), and planting puts just these behind the scopes that are there
(`Description.plant_eq`): the search of an attachment never goes back beyond the scope that is
attached, so no attachment is refused. What the scopes show, and that they are different ones at
different places, is read off the layout (`Forest.Planted`).
-/

namespace PatternForge

/-! ## What is planted -/

namespace Forest

/-- The scopes from a scope down, each group before what stands below it, within so many levels. A
scope that can be come to in two ways is named twice. -/
def scopesWithin (forest : Forest) : Nat → ScopeId → List ScopeId
  | 0, _ => []
  | levels + 1, id => id :: (forest.childrenOf id).flatMap (forest.scopesWithin levels)

end Forest

namespace Description

mutual

/-- A scope shows a description: it is what the description says and stands in the given group, and
the scopes that it lists show the children one by one. -/
def ShownBy (forest : Forest) (group : Option ScopeId) (id : ScopeId) : Description → Prop
  | ⟨name, .literal, literals, _, least, greatest, _⟩ =>
    forest.node? id = some ⟨name, ⟨least, greatest⟩, group, .literal literals⟩
  | ⟨name, .group, _, children, least, greatest, alternating⟩ =>
    ∃ ids, forest.node? id = some ⟨name, ⟨least, greatest⟩, group, .group alternating ids⟩ ∧
      AllShownBy forest id ids children

def AllShownBy (forest : Forest) (group : ScopeId) : List ScopeId → List Description → Prop
  | [], [] => True
  | id :: ids, description :: rest =>
    ShownBy forest (some group) id description ∧ AllShownBy forest group ids rest
  | _, _ => False

end

end Description

/-- A forest becomes another by a description being planted in it. -/
structure Forest.Planted (before : Forest) (description : Description) (root : ScopeId)
    (after : Forest) : Prop where
  /-- The root has no group, and shows the description with all that is below it. -/
  shown : description.ShownBy after none root
  /-- So the tree below the root is the one that is described. -/
  tree : ∀ levels, after.nodes.size ≤ levels →
    after.treeWithin? levels root = some description.toTree
  /-- No scope is come to twice. -/
  apart : ∀ levels, after.nodes.size ≤ levels → (after.scopesWithin levels root).Nodup
  /-- The scopes from the root down are those that were not made before. -/
  fresh : ∀ levels, after.nodes.size ≤ levels → ∀ id,
    id ∈ after.scopesWithin levels root ↔ after.isMade id = true ∧ before.isMade id = false
  /-- All others are what they were. -/
  kept : ∀ id, before.isMade id = true → after.node? id = before.node? id

/-! ## The layout of a description -/

namespace Description

mutual

/-- How many scopes a description is planted as. -/
def count : Description → Nat
  | ⟨_, .literal, _, _, _, _, _⟩ => 1
  | ⟨_, .group, _, children, _, _, _⟩ => countAll children + 1

def countAll : List Description → Nat
  | [] => 0
  | description :: rest => count description + countAll rest

end

/-- Where descriptions stand one after the other, the first of them at a place. -/
def places (place : ScopeId) : List Description → List ScopeId
  | [] => []
  | description :: rest => place :: places (place + description.count) rest

mutual

/-- The scopes that a description is planted as, the first of them at a place and in a group. -/
def layout (group : Option ScopeId) (place : ScopeId) : Description → List ScopeNode
  | ⟨name, .literal, literals, _, least, greatest, _⟩ =>
    [⟨name, ⟨least, greatest⟩, group, .literal literals⟩]
  | ⟨name, .group, _, children, least, greatest, alternating⟩ =>
    ⟨name, ⟨least, greatest⟩, group, .group alternating (places (place + 1) children)⟩
      :: layoutAll place (place + 1) children

def layoutAll (group place : ScopeId) : List Description → List ScopeNode
  | [] => []
  | description :: rest =>
    layout (some group) place description ++ layoutAll group (place + description.count) rest

end

mutual

theorem length_layout (group : Option ScopeId) (place : ScopeId) :
    ∀ description : Description, (description.layout group place).length = description.count
  | ⟨_, .literal, _, _, _, _, _⟩ => rfl
  | ⟨_, .group, _, children, _, _, _⟩ => by
    rw [layout, count, List.length_cons, length_layoutAll _ _ children]

theorem length_layoutAll (group place : ScopeId) :
    ∀ descriptions, (layoutAll group place descriptions).length = countAll descriptions
  | [] => rfl
  | description :: rest => by
    rw [layoutAll, countAll, List.length_append, length_layout _ _ description,
      length_layoutAll _ _ rest]

end

/-- Of the layout only the first scope depends on the group. -/
theorem exists_layout (place : ScopeId) (description : Description) :
    ∃ (node : ScopeNode) (rest : List ScopeNode), ∀ group,
      description.layout group place = { node with parent := group } :: rest := by
  obtain ⟨name, kind, literals, children, least, greatest, alternating⟩ := description
  cases kind with
  | literal => exact ⟨⟨name, ⟨least, greatest⟩, none, .literal literals⟩, [], fun _ => rfl⟩
  | group =>
    exact ⟨⟨name, ⟨least, greatest⟩, none, .group alternating (places (place + 1) children)⟩,
      layoutAll place (place + 1) children, fun _ => rfl⟩

theorem le_of_mem_places {place child : ScopeId} {descriptions : List Description}
    (listed : child ∈ places place descriptions) : place ≤ child := by
  induction descriptions generalizing place with
  | nil => cases listed
  | cons description rest ih =>
    rcases List.mem_cons.mp listed with rfl | listed
    · exact Nat.le_refl _
    · exact Nat.le_of_add_right_le (ih listed)

mutual

/-- No scope of a layout lists one that stands before the layout. -/
theorem le_of_mem_layout {group : Option ScopeId} {place child : ScopeId} {node : ScopeNode}
    (listed : child ∈ node.children) :
    ∀ description : Description, node ∈ description.layout group place → place ≤ child
  | ⟨_, .literal, _, _, _, _, _⟩, member => by
    obtain rfl := List.mem_singleton.mp member
    cases listed
  | ⟨_, .group, _, children, _, _, _⟩, member => by
    rcases List.mem_cons.mp member with rfl | member
    · exact Nat.le_of_succ_le (le_of_mem_places listed)
    · exact Nat.le_of_succ_le (le_of_mem_layoutAll listed children member)

theorem le_of_mem_layoutAll {group place child : ScopeId} {node : ScopeNode}
    (listed : child ∈ node.children) :
    ∀ descriptions, node ∈ layoutAll group place descriptions → place ≤ child
  | [], member => nomatch member
  | description :: rest, member => by
    rcases List.mem_append.mp member with member | member
    · exact le_of_mem_layout listed description member
    · exact Nat.le_of_add_right_le (le_of_mem_layoutAll listed rest member)

end

end Description

/-! ## Planting is laying out -/

namespace Forest

def ofList (nodes : List ScopeNode) : Forest :=
  ⟨nodes.toArray⟩

theorem ofList_toList (forest : Forest) : ofList forest.nodes.toList = forest := rfl

theorem node?_ofList (nodes : List ScopeNode) (id : ScopeId) :
    (ofList nodes).node? id = nodes[id]? := by
  simp [ofList, node?]

theorem add_ofList (nodes : List ScopeNode) (node : ScopeNode) :
    (ofList nodes).add node = (ofList (nodes ++ [{ node with parent := none }]), nodes.length) := by
  simp [ofList, add]

theorem update_ofList (before after : List ScopeNode) (node : ScopeNode)
    (change : ScopeNode → ScopeNode) :
    (ofList (before ++ node :: after)).update before.length change =
      ofList (before ++ change node :: after) := by
  simp [ofList, update, List.modify_eq_take_cons_drop]

/-- From where the child lists lead forward only, no way leads back. -/
theorem le_of_encloses {forest : Forest} {place above below : ScopeId}
    (forward : ∀ id, place ≤ id → ∀ child ∈ forest.childrenOf id, place ≤ child)
    (start : place ≤ above) (encloses : forest.Encloses above below) : place ≤ below := by
  induction encloses with
  | single lists => exact forward above start _ lists
  | tail _ lists ih => exact forward _ ih _ lists

end Forest

namespace Description

open Forest

/-- The scope that was planted last does not hold a scope that stood before it. -/
theorem holds_layout (nodes : List ScopeNode) (description : Description) {group : ℕ}
    (before : group < nodes.length) :
    (ofList (nodes ++ description.layout none nodes.length)).holds nodes.length group = false := by
  generalize placed : ofList (nodes ++ description.layout none nodes.length) = forest
  cases found : forest.holds nodes.length group with
  | false => rfl
  | true =>
    -- A layout lists no scope before itself, so no way out of it leads to the group.
    have back : nodes.length ≤ group := by
      refine le_of_encloses ?_ (Nat.le_refl _) (encloses_of_holdsWithin found)
      intro id later child listed
      rw [← placed, childrenOf, node?_ofList, List.getElem?_append_right later] at listed
      cases present : (description.layout none nodes.length)[id - nodes.length]? with
      | none =>
        rw [present] at listed
        cases listed
      | some node =>
        rw [present] at listed
        exact le_of_mem_layout listed description (List.mem_of_getElem? present)
    omega

/-- A forest while the children of a group are planted: the scopes that stood there before, the
group with the children that it lists so far, and the scopes made since. -/
def underWay (before : List ScopeNode) (name : Text) (alternating : Bool) (done : List ScopeId)
    (made : List ScopeNode) : Forest :=
  ofList (before ++ { name, content := .group alternating done } :: made)

section UnderWay

variable (before : List ScopeNode) (name : Text) (alternating : Bool) (done : List ScopeId)
  (made : List ScopeNode)

/-- The scope that was planted last is attached: it names the group, and the group lists it last. -/
theorem attach_underWay (description : Description) {next : ℕ}
    (last : before.length + 1 + made.length = next) :
    (underWay before name alternating done (made ++ description.layout none next)).attach
        before.length next =
      .ok (underWay before name alternating (done ++ [next])
        (made ++ description.layout (some before.length) next)) := by
  rw [underWay, underWay]
  generalize written : ({ name, content := .group alternating done } : ScopeNode) = node
  have length : (before ++ node :: made).length = next := by
    rw [List.length_append, List.length_cons]
    omega
  have earlier : before.length < (before ++ node :: made).length := by omega
  have apart : next ≠ before.length := by omega
  have missed := holds_layout (before ++ node :: made) description earlier
  obtain ⟨first, rest, laid⟩ := exists_layout next description
  have regroup (last : ScopeNode) : before ++ node :: (made ++ last :: rest) =
      (before ++ node :: made) ++ last :: rest := by
    rw [List.append_assoc, List.cons_append]
  rw [length, laid, ← regroup] at missed
  rw [laid, laid]
  refine attach_eq_ok_iff.mpr ⟨apart, missed, ?_, ?_⟩
  · rw [parentOf, node?_ofList, regroup, ← length, List.getElem?_append_right (Nat.le_refl _),
      Nat.sub_self]
    rfl
  · rw [link, regroup, ← length, update_ofList, ← regroup, update_ofList, ← written]

end UnderWay

mutual

/-- To plant a description is to put its layout behind the scopes that are there. -/
theorem plant_eq (nodes : List ScopeNode) : ∀ description : Description,
    description.plant (ofList nodes) =
      .ok (ofList (nodes ++ description.layout none nodes.length), nodes.length)
  | ⟨name, .literal, literals, _, least, greatest, _⟩ => by
    rw [plant, addLiteral, add_ofList]
    exact congrArg (fun forest => Except.ok (forest, nodes.length)) (update_ofList _ _ _ _)
  | ⟨name, .group, _, children, least, greatest, alternating⟩ => by
    have planted := plantAll_eq nodes name alternating [] [] children
    rw [plant, addGroup, add_ofList]
    dsimp only
    rw [← underWay, planted]
    exact congrArg (fun forest => Except.ok (forest, nodes.length)) (update_ofList _ _ _ _)

/-- The children of a group are laid out behind what was made of the group so far. -/
theorem plantAll_eq (before : List ScopeNode) (name : Text) (alternating : Bool)
    (done : List ScopeId) (made : List ScopeNode) : ∀ descriptions : List Description,
      let next := before.length + 1 + made.length
      plantAll before.length descriptions (underWay before name alternating done made) =
        .ok (underWay before name alternating (done ++ places next descriptions)
          (made ++ layoutAll before.length next descriptions))
  | [] => by
    intro next
    rw [plantAll, places, layoutAll, List.append_nil, List.append_nil]
  | description :: rest => by
    intro next
    -- The group stays where it is and lists one child more; a layout is added behind all others.
    have length : (before ++ { name, content := .group alternating done } :: made).length =
        next := by
      rw [List.length_append, List.length_cons]
      omega
    have planted : description.plant (underWay before name alternating done made) =
        .ok (underWay before name alternating done (made ++ description.layout none next),
          next) := by
      rw [underWay, plant_eq, length, List.append_assoc, List.cons_append]
      rfl
    have attached := attach_underWay before name alternating done made description
      (show before.length + 1 + made.length = next from rfl)
    have others := plantAll_eq before name alternating (done ++ [next])
      (made ++ description.layout (some before.length) next) rest
    have further :
        before.length + 1 + (made ++ description.layout (some before.length) next).length =
          next + description.count := by
      rw [List.length_append, length_layout]
      omega
    simp only [further] at others
    rw [List.append_assoc, List.append_assoc, List.singleton_append] at others
    calc plantAll before.length (description :: rest) (underWay before name alternating done made)
        = (underWay before name alternating done (made ++ description.layout none next)).attach
            before.length next >>= plantAll before.length rest := by
          rw [plantAll, planted]
          rfl
      _ = plantAll before.length rest (underWay before name alternating (done ++ [next])
            (made ++ description.layout (some before.length) next)) := by
          rw [attached]
          rfl
      _ = _ := others

end

end Description

/-! ## What a layout shows -/

namespace Forest

/-- Scopes stand in a forest one after the other, the first of them at a place. -/
def Carries (forest : Forest) (place : ℕ) (nodes : List ScopeNode) : Prop :=
  ∀ index node, nodes[index]? = some node → forest.node? (place + index) = some node

variable {forest : Forest} {place : ℕ}

theorem carries_ofList (before after : List ScopeNode) :
    (ofList (before ++ after)).Carries before.length after := by
  intro index node present
  rw [node?_ofList, List.getElem?_append_right (Nat.le_add_right _ _), Nat.add_sub_cancel_left,
    present]

theorem Carries.head {node : ScopeNode} {rest : List ScopeNode}
    (carries : forest.Carries place (node :: rest)) : forest.node? place = some node :=
  carries 0 node rfl

theorem Carries.tail {node : ScopeNode} {rest : List ScopeNode}
    (carries : forest.Carries place (node :: rest)) : forest.Carries (place + 1) rest := by
  intro index other present
  rw [Nat.add_right_comm]
  exact carries (index + 1) other present

theorem Carries.left {first second : List ScopeNode}
    (carries : forest.Carries place (first ++ second)) : forest.Carries place first := by
  intro index node present
  refine carries index node ?_
  rw [List.getElem?_append_left (List.getElem?_eq_some_iff.mp present).choose, present]

theorem Carries.right {first second : List ScopeNode}
    (carries : forest.Carries place (first ++ second)) :
    forest.Carries (place + first.length) second := by
  intro index node present
  rw [Nat.add_assoc]
  refine carries _ node ?_
  rw [List.getElem?_append_right (Nat.le_add_right _ _), Nat.add_sub_cancel_left, present]

end Forest

namespace Description

open Forest

mutual

/-- Where its layout stands a description is shown. -/
theorem shownBy_of_carries {forest : Forest} {group : Option ScopeId} {place : ℕ} :
    ∀ description : Description, forest.Carries place (description.layout group place) →
      description.ShownBy forest group place
  | ⟨_, .literal, _, _, _, _, _⟩, carries => carries.head
  | ⟨_, .group, _, children, _, _, _⟩, carries =>
    ⟨places (place + 1) children, carries.head, allShownBy_of_carries children carries.tail⟩

theorem allShownBy_of_carries {forest : Forest} {group : ScopeId} {place : ℕ} :
    ∀ descriptions, forest.Carries place (layoutAll group place descriptions) →
      AllShownBy forest group (places place descriptions) descriptions
  | [], _ => trivial
  | description :: rest, carries => by
    have others := carries.right
    rw [length_layout] at others
    exact ⟨shownBy_of_carries description carries.left, allShownBy_of_carries rest others⟩

end

mutual

/-- From its first scope down stand the scopes of a layout in order. -/
theorem scopesWithin_of_carries {forest : Forest} {group : Option ScopeId} {place levels : ℕ} :
    ∀ description : Description, description.count ≤ levels →
      forest.Carries place (description.layout group place) →
      forest.scopesWithin levels place = List.range' place description.count
  | ⟨_, .literal, _, _, _, _, _⟩, enough, carries => by
    obtain ⟨levels, rfl⟩ : ∃ more, levels = more + 1 := Nat.exists_eq_add_of_le' enough
    rw [scopesWithin, childrenOf, carries.head]
    rfl
  | ⟨_, .group, _, children, _, _, _⟩, enough, carries => by
    -- The group takes one level, and more levels than scopes are left for what is below it.
    obtain ⟨levels, rfl⟩ : ∃ more, levels = more + 1 :=
      Nat.exists_eq_add_of_le' (Nat.le_of_add_left_le enough)
    have below := flatMap_scopesWithin_of_carries children (Nat.le_of_succ_le_succ enough)
      carries.tail
    rw [scopesWithin, childrenOf, carries.head, count, List.range'_succ, ← below]
    rfl

theorem flatMap_scopesWithin_of_carries {forest : Forest} {group : ScopeId} {place levels : ℕ} :
    ∀ descriptions, countAll descriptions ≤ levels →
      forest.Carries place (layoutAll group place descriptions) →
      (places place descriptions).flatMap (forest.scopesWithin levels) =
        List.range' place (countAll descriptions)
  | [], _, _ => rfl
  | description :: rest, enough, carries => by
    rw [countAll] at enough
    have others := carries.right
    rw [length_layout] at others
    rw [places, countAll, List.flatMap_cons,
      scopesWithin_of_carries description (by omega) carries.left,
      flatMap_scopesWithin_of_carries rest (by omega) others, ← List.range'_append, Nat.one_mul]

end

mutual

/-- The tree below a scope is the one that the scope shows. -/
theorem treeWithin?_of_shownBy {forest : Forest} {group : Option ScopeId} {id : ScopeId}
    {levels : ℕ} : ∀ description : Description, description.count ≤ levels →
      description.ShownBy forest group id →
      forest.treeWithin? levels id = some description.toTree
  | ⟨_, .literal, _, _, _, _, _⟩, enough, shown => by
    obtain ⟨levels, rfl⟩ : ∃ more, levels = more + 1 := Nat.exists_eq_add_of_le' enough
    rw [ShownBy] at shown
    rw [treeWithin?, shown]
    rfl
  | ⟨_, .group, _, children, _, _, _⟩, enough, shown => by
    obtain ⟨levels, rfl⟩ : ∃ more, levels = more + 1 :=
      Nat.exists_eq_add_of_le' (Nat.le_of_add_left_le enough)
    obtain ⟨ids, present, each⟩ := shown
    rw [treeWithin?, present]
    dsimp only
    rw [mapM_treeWithin?_of_allShownBy ids children (Nat.le_of_succ_le_succ enough) each]
    rfl

theorem mapM_treeWithin?_of_allShownBy {forest : Forest} {group : ScopeId} {levels : ℕ} :
    ∀ (ids : List ScopeId) (descriptions : List Description), countAll descriptions ≤ levels →
      AllShownBy forest group ids descriptions →
      ids.mapM (forest.treeWithin? levels) = some (toTrees descriptions)
  | [], [], _, _ => rfl
  | id :: ids, description :: rest, enough, shown => by
    rw [countAll] at enough
    rw [List.mapM_cons, treeWithin?_of_shownBy description (by omega) shown.1,
      mapM_treeWithin?_of_allShownBy ids rest (by omega) shown.2]
    rfl

end

/-- Planting fails in no forest, and the description is planted in it. -/
theorem exists_planted (description : Description) (forest : Forest) :
    ∃ after, description.plant forest = .ok (after, forest.nodes.size) ∧
      forest.Planted description forest.nodes.size after := by
  have planted := plant_eq forest.nodes.toList description
  rw [ofList_toList] at planted
  refine ⟨_, planted, ?_⟩
  generalize same : ofList (forest.nodes.toList ++ _) = after
  have carries : after.Carries forest.nodes.size (description.layout none forest.nodes.size) :=
    same ▸ carries_ofList _ _
  have size : after.nodes.size = forest.nodes.size + description.count := by
    rw [← same, ofList, List.size_toArray, List.length_append, Array.length_toList, length_layout]
  have scopes : ∀ levels, after.nodes.size ≤ levels → after.scopesWithin levels forest.nodes.size =
      List.range' forest.nodes.size description.count :=
    fun levels enough => scopesWithin_of_carries description (by omega) carries
  exact {
    shown := shownBy_of_carries description carries
    tree := fun levels enough =>
      treeWithin?_of_shownBy description (by omega) (shownBy_of_carries description carries)
    apart := by
      intro levels enough
      rw [scopes levels enough]
      exact List.nodup_range'
    fresh := by
      intro levels enough id
      rw [scopes levels enough, List.mem_range'_1, isMade_iff, ← Bool.not_eq_true, isMade_iff, size,
        not_lt]
      exact and_comm
    kept := by
      intro id made
      rw [← same, node?_ofList, List.getElem?_append_left (isMade_iff.mp made), node?,
        Array.getElem?_toList] }

end Description

namespace Work

/-- A piece of work ends well with a description planted in the forest of a workshop, gives the root
and changes nothing else. -/
def Plants (work : Work ScopeId) (shop : Workshop) (description : Description) : Prop :=
  ∃ root forest, work.run.run shop = (.ok root, { shop with forest }) ∧
    shop.forest.Planted description root forest

theorem plants_plant (shop : Workshop) (description : Description) :
    Plants (plant description) shop description := by
  obtain ⟨forest, planted, shows⟩ := description.exists_planted shop.forest
  refine ⟨_, forest, ?_, shows⟩
  change (ofExcept WorkFault.attach (description.plant shop.forest) >>= fun made => do
    modifyForest fun _ => made.1
    return made.2).run.run shop = _
  rw [planted]
  rfl

/-- A description that was read is planted, and without one nothing is done. -/
theorem plants_of_reading (reading : Except LoadFault Description) (shop : Workshop) :
    match reading with
    | .error fault => (ofExcept .load reading >>= plant).run.run shop = (.error (.load fault), shop)
    | .ok description => Plants (ofExcept .load reading >>= plant) shop description := by
  cases reading with
  | error fault => rfl
  | ok description => exact plants_plant shop description

/-- The same beat twice makes two scopes, each attached to the bar. -/
example :
    let beat : Description := { name := "beat", literals := ["dit", "dit"] }
    let bar : Description := { name := "bar", kind := .group, children := [beat, beat] }
    ∃ forest, bar.plant {} = .ok (forest, 0) ∧ forest.childrenOf 0 = [1, 2] ∧
      forest.nodes.toList.map (·.parent) = [none, some 0, some 0] :=
  ⟨_, rfl, rfl, rfl⟩

end Work

end PatternForge
