import PatternForge.Proofs.Tracing

/-! # The parts of a visit

A visit to a scope consists of what the scope does itself and of the visits to its children
(`Tree.splits_generate`). What it does itself is kept apart by `Tree.ownVisit`, so that every draw
of a run is traced to the visit in which a scope made it (`Tree.exists_visit_of_mem_draws`).
-/

namespace PatternForge

variable {σ α β : Type}

/-- The draw that is recorded of an event. -/
def Event.draw? (event : Event) : Option RecordedDraw :=
  event.exchange?.bind Exchange.recorded?

namespace Visit

theorem draws_eq (visit : Visit σ α) : visit.draws = visit.events.filterMap Event.draw? := by
  rw [draws, exchanges, List.filterMap_filterMap]
  rfl

def muted (visit : Visit σ α) : Visit σ α :=
  { visit with events := [] }

section AndThen

variable {visit : Visit σ α} {next : α → σ → Visit σ β}

theorem andThen_of_error {fault : GenerationFault} (ended : visit.outcome = .error fault) :
    visit.andThen next = ⟨.error fault, visit.events, visit.source⟩ := by
  simp only [andThen, ended]

theorem andThen_of_ok {result : α} (ended : visit.outcome = .ok result) :
    visit.andThen next =
      { next result visit.source with
        events := visit.events ++ (next result visit.source).events } := by
  simp only [andThen, ended]

/-- What follows a visit ends well only if the visit ended well. -/
theorem ok_of_andThen {last : β} (returned : (visit.andThen next).outcome = .ok last) :
    ∃ result, visit.outcome = .ok result ∧ (next result visit.source).outcome = .ok last := by
  cases ended : visit.outcome with
  | error fault =>
    rw [andThen_of_error ended] at returned
    cases returned
  | ok result =>
    rw [andThen_of_ok ended] at returned
    exact ⟨result, rfl, returned⟩

theorem draws_andThen {result : α} (ended : visit.outcome = .ok result) :
    (visit.andThen next).draws = visit.draws ++ (next result visit.source).draws := by
  simp only [draws_eq, andThen_of_ok ended, List.filterMap_append]

theorem emitted_andThen {result : α} (ended : visit.outcome = .ok result) :
    (visit.andThen next).emitted = visit.emitted ++ (next result visit.source).emitted := by
  simp only [emitted, andThen_of_ok ended, List.filterMap_append]

theorem mem_draws_andThen {step : RecordedDraw} (member : step ∈ (visit.andThen next).draws) :
    step ∈ visit.draws ∨
      ∃ result, visit.outcome = .ok result ∧ step ∈ (next result visit.source).draws := by
  cases ended : visit.outcome with
  | error fault =>
    rw [andThen_of_error ended] at member
    exact .inl member
  | ok result =>
    rw [draws_andThen ended] at member
    rcases List.mem_append.mp member with member | member
    · exact .inl member
    · exact .inr ⟨result, rfl, member⟩

theorem muted_andThen :
    (visit.andThen next).muted = visit.muted.andThen fun result state => (next result state).muted := by
  cases ended : visit.outcome with
  | error fault =>
    have silent : visit.muted.outcome = .error fault := ended
    rw [andThen_of_error ended, andThen_of_error silent]
    rfl
  | ok result =>
    have silent : visit.muted.outcome = .ok result := ended
    rw [andThen_of_ok ended, andThen_of_ok silent]
    rfl

end AndThen

end Visit

namespace Visiting

/-- Does the same and leaves no record of it. -/
def muted (visiting : Visiting σ α) : Visiting σ α :=
  fun state => (visiting state).muted

theorem muted_bind (first : Visiting σ α) (next : α → Visiting σ β) :
    (first >>= next).muted = first.muted >>= fun result => (next result).muted :=
  funext fun _ => Visit.muted_andThen

/-- Checks a scope, settles how often it repeats, and repeats. A vacant scope has nothing to
repeat. -/
def repeated (limit : Option Int) (source : Source σ) (name : Text) (bounds : Bounds)
    (vacant : Prop) [Decidable vacant] (fault : ScopeFault) (notice : Int → Notice)
    (body : Visiting σ Unit) : Visiting σ Unit := do
  refuse (bounds.fault? name limit)
  if bounds.greatest = 0 then pure ()
  else if vacant then fail (.scope fault)
  else
    let count := (← bounds.resolve source name).number
    tell (notice count)
    times count.toNat body

end Visiting

/-- The literal of a pool that the source chooses. -/
def visitPool (source : Source σ) (name : Text) (pool : List Text) : Visiting σ Unit := do
  let index ← drawValue source name Purpose.literal.name 0 (pool.length - 1)
  Visiting.emit (pool.getD index.number.toNat [])

/-- One repetition of a group. -/
def visitChildren (source : Source σ) (name : Text) (alternating : Bool) (count : Nat)
    (all : Visiting σ Unit) (one : Nat → Visiting σ Unit) : Visiting σ Unit :=
  if alternating then do
    let index ← drawValue source name Purpose.child.name 0 ((count : Int) - 1)
    one index.number.toNat
  else all

theorem visitLiteral_eq (limit : Option Int) (source : Source σ) (name : Text) (bounds : Bounds)
    (pool : List Text) :
    visitLiteral limit source name bounds pool =
      Visiting.repeated limit source name bounds pool.isEmpty (.emptyPool name)
        (fun count => .emitting name count pool.length) (visitPool source name pool) := rfl

theorem visitGroup_eq (limit : Option Int) (source : Source σ) (name : Text) (bounds : Bounds)
    (alternating : Bool) (count : Nat) (all : Visiting σ Unit) (one : Nat → Visiting σ Unit) :
    visitGroup limit source name bounds alternating count all one =
      Visiting.repeated limit source name bounds (count = 0) (.emptyGroup name)
        (fun repetitions => .repeating name repetitions count alternating)
        (visitChildren source name alternating count all one) := rfl

namespace Tree

def children : Tree → List Tree
  | literal .. => []
  | group _ _ _ children => children

/-- A visit to a scope of which only what the scope does itself is kept. -/
def ownVisit (limit : Option Int) (source : Source σ) : Tree → Visiting σ Unit
  | literal name bounds pool => visitLiteral limit source name bounds pool
  | group name bounds alternating children =>
    visitGroup limit source name bounds alternating children.length
      (generateAll limit source children).muted
      fun index => (generateOne limit source children index).muted

end Tree

inductive Part (σ : Type) where
  | own (event : Event)
  /-- A visit to a child, which finds the source in a state. -/
  | child (tree : Tree) (state : σ)

namespace Part

def events (limit : Option Int) (source : Source σ) : Part σ → List Event
  | own event => [event]
  | child tree state => (tree.generate limit source state).events

/-- What the scope does itself. -/
def own? : Part σ → Option Event
  | own event => some event
  | child .. => none

end Part

/-- A visit is made of parts, and of these a visit by itself keeps what the scope does itself. -/
structure Visit.ConsistsOf (limit : Option Int) (source : Source σ) (children : List Tree)
    (whole own : Visit σ α) (parts : List (Part σ)) : Prop where
  outcome : own.outcome = whole.outcome
  after : own.source = whole.source
  /-- What happens is what happens in the parts. -/
  events : whole.events = parts.flatMap (Part.events limit source)
  /-- What is kept is what the scope does itself. -/
  kept : own.events = parts.filterMap Part.own?
  /-- The rest are visits to the children. -/
  among : ∀ tree state, .child tree state ∈ parts → tree ∈ children
  /-- If the visit ends well, they do. -/
  finished : ∀ result, whole.outcome = .ok result → ∀ tree state, .child tree state ∈ parts →
    (tree.generate limit source state).outcome = .ok ()

namespace Visit.ConsistsOf

variable {limit : Option Int} {source : Source σ} {children : List Tree}

/-- What a scope does itself consists of its events. -/
theorem self (visit : Visit σ α) :
    ConsistsOf limit source children visit visit (visit.events.map Part.own) where
  outcome := rfl
  after := rfl
  events := by
    rw [List.flatMap_map]
    exact (List.flatMap_singleton' _).symm
  kept := by
    rw [List.filterMap_map]
    exact List.filterMap_some.symm
  among tree state member := by
    obtain ⟨event, -, other⟩ := List.mem_map.mp member
    cases other
  finished _ _ tree state member := by
    obtain ⟨event, -, other⟩ := List.mem_map.mp member
    cases other

/-- A visit to a child is a single part. -/
theorem child {tree : Tree} (member : tree ∈ children) (state : σ) :
    ConsistsOf limit source children (tree.generate limit source state)
      (tree.generate limit source state).muted [.child tree state] where
  outcome := rfl
  after := rfl
  events := (List.append_nil _).symm
  kept := rfl
  among other later listed := by
    cases List.mem_singleton.mp listed
    exact member
  finished result returned other later listed := by
    cases List.mem_singleton.mp listed
    exact returned

theorem andThen {first kept : Visit σ α} {parts : List (Part σ)}
    (consists : ConsistsOf limit source children first kept parts)
    {next keptNext : α → σ → Visit σ β}
    (following : ∀ result state, ∃ parts,
      ConsistsOf limit source children (next result state) (keptNext result state) parts) :
    ∃ parts, ConsistsOf limit source children (first.andThen next) (kept.andThen keptNext) parts := by
  obtain ⟨outcome, left, events, own, among, finished⟩ := consists
  cases ended : first.outcome with
  | error fault =>
    refine ⟨parts, ?_⟩
    rw [Visit.andThen_of_error ended, Visit.andThen_of_error (outcome.trans ended)]
    exact ⟨rfl, left, events, own, among, fun result returned => by cases returned⟩
  | ok result =>
    obtain ⟨others, later⟩ := following result first.source
    refine ⟨parts ++ others, ?_⟩
    rw [Visit.andThen_of_ok ended, Visit.andThen_of_ok (outcome.trans ended), left]
    refine ⟨later.outcome, later.after, ?_, ?_, ?_, ?_⟩
    · simp only [events, later.events, List.flatMap_append]
    · simp only [own, later.kept, List.filterMap_append]
    · intro tree state member
      rcases List.mem_append.mp member with member | member
      · exact among tree state member
      · exact later.among tree state member
    · intro last returned tree state member
      rcases List.mem_append.mp member with member | member
      · exact finished result ended tree state member
      · exact later.finished last returned tree state member

end Visit.ConsistsOf

/-- Every visit is made of visits to children and of what the other one does. -/
def Visiting.Splits (limit : Option Int) (source : Source σ) (children : List Tree)
    (whole own : Visiting σ α) : Prop :=
  ∀ state, ∃ parts, Visit.ConsistsOf limit source children (whole state) (own state) parts

namespace Visiting

variable {limit : Option Int} {source : Source σ} {children : List Tree}

theorem splits_self (visiting : Visiting σ α) :
    Splits limit source children visiting visiting :=
  fun state => ⟨_, .self (visiting state)⟩

theorem Splits.bind {first kept : Visiting σ α} {next keptNext : α → Visiting σ β}
    (splits : Splits limit source children first kept)
    (following : ∀ result, Splits limit source children (next result) (keptNext result)) :
    Splits limit source children (first >>= next) (kept >>= keptNext) := by
  intro state
  obtain ⟨parts, consists⟩ := splits state
  exact consists.andThen following

theorem Splits.times {body kept : Visiting σ Unit}
    (splits : Splits limit source children body kept) (count : Nat) :
    Splits limit source children (times count body) (times count kept) := by
  induction count with
  | zero => exact splits_self _
  | succ count ih => exact splits.bind fun _ => ih

theorem Splits.repeated {name : Text} {bounds : Bounds} {vacant : Prop} [Decidable vacant]
    {fault : ScopeFault} {notice : Int → Notice} {body kept : Visiting σ Unit}
    (splits : Splits limit source children body kept) :
    Splits limit source children
      (repeated limit source name bounds vacant fault notice body)
      (repeated limit source name bounds vacant fault notice kept) := by
  refine (splits_self _).bind fun _ => ?_
  split
  · exact splits_self _
  · split
    · exact splits_self _
    · exact (splits_self _).bind fun value => (splits_self _).bind fun _ => splits.times _

end Visiting

namespace Tree

variable {limit : Option Int} {source : Source σ}

theorem splits_generateAll {children listed : List Tree} (among : ∀ tree ∈ listed, tree ∈ children) :
    Visiting.Splits limit source children (generateAll limit source listed)
      (generateAll limit source listed).muted := by
  induction listed with
  | nil => exact Visiting.splits_self _
  | cons tree rest ih =>
    rw [generateAll, Visiting.muted_bind]
    refine Visiting.Splits.bind ?_ fun _ => ih fun other member => among other (.tail _ member)
    exact fun state => ⟨_, .child (among tree List.mem_cons_self) state⟩

theorem splits_generateOne {children listed : List Tree} (among : ∀ tree ∈ listed, tree ∈ children)
    (index : Nat) :
    Visiting.Splits limit source children (generateOne limit source listed index)
      (generateOne limit source listed index).muted := by
  induction listed generalizing index with
  | nil => exact Visiting.splits_self _
  | cons tree rest ih =>
    cases index with
    | zero => exact fun state => ⟨_, .child (among tree List.mem_cons_self) state⟩
    | succ index => exact ih (fun other member => among other (.tail _ member)) index

/-- A visit to a scope is what the scope does itself and visits to its children. -/
theorem splits_generate (limit : Option Int) (source : Source σ) (tree : Tree) :
    Visiting.Splits limit source tree.children (tree.generate limit source)
      (tree.ownVisit limit source) := by
  cases tree with
  | literal name bounds pool =>
    rw [generate]
    exact Visiting.splits_self _
  | group name bounds alternating children =>
    -- Both visits settle alike how often they repeat, so a single repetition decides.
    rw [generate, ownVisit, visitGroup_eq, visitGroup_eq]
    refine Visiting.Splits.repeated ?_
    rw [visitChildren, visitChildren]
    cases alternating with
    | true =>
      exact (Visiting.splits_self _).bind fun index =>
        splits_generateOne (fun _ member => member) _
    | false => exact splits_generateAll fun _ member => member

/-- A visit to a tree, which finds the source in a state, comes to a visit to a scope below, which
finds it in another. -/
inductive Visits (limit : Option Int) (source : Source σ) : Tree → σ → Tree → σ → Prop where
  | itself (tree : Tree) (state : σ) : Visits limit source tree state tree state
  | through {tree child node : Tree} {state middle last : σ} {parts : List (Part σ)}
      (consists : Visit.ConsistsOf limit source tree.children (tree.generate limit source state)
        (tree.ownVisit limit source state) parts)
      (part : .child child middle ∈ parts) (later : Visits limit source child middle node last) :
      Visits limit source tree state node last

/-- What holds of a tree if it holds of the children of its root holds of all trees. -/
theorem induct_children {motive : Tree → Prop}
    (step : ∀ tree, (∀ child ∈ tree.children, motive child) → motive tree) (tree : Tree) :
    motive tree := by
  induction tree using Tree.induct with
  | literal name bounds pool => exact step _ fun child member => absurd member List.not_mem_nil
  | group name bounds alternating children each => exact step _ each

/-- Every draw of a visit is made by a scope, in a visit to it. -/
theorem exists_visit_of_mem_draws {tree : Tree} {state : σ} {draw : RecordedDraw}
    (made : draw ∈ (tree.generate limit source state).draws) :
    ∃ node last, Visits limit source tree state node last ∧
      draw ∈ (node.ownVisit limit source last).draws := by
  induction tree using induct_children generalizing state with
  | step tree each =>
    obtain ⟨parts, consists⟩ := splits_generate limit source tree state
    rw [Visit.draws_eq, consists.events] at made
    obtain ⟨event, member, drawn⟩ := List.mem_filterMap.mp made
    obtain ⟨part, listed, within⟩ := List.mem_flatMap.mp member
    cases part with
    | own happened =>
      obtain rfl := List.mem_singleton.mp within
      refine ⟨tree, state, .itself tree state, ?_⟩
      rw [Visit.draws_eq, consists.kept]
      exact List.mem_filterMap.mpr ⟨event, List.mem_filterMap.mpr ⟨_, listed, rfl⟩, drawn⟩
    | child child middle =>
      have inner : draw ∈ (child.generate limit source middle).draws := by
        rw [Visit.draws_eq]
        exact List.mem_filterMap.mpr ⟨event, within, drawn⟩
      obtain ⟨node, last, visits, own⟩ := each child (consists.among child middle listed) inner
      exact ⟨node, last, .through consists listed visits, own⟩

end Tree

end PatternForge
