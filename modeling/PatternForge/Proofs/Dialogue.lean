import PatternForge.Generation

/-! # Generation as a dialogue

A visit depends on its source only through the numbers that the source gives. A dialogue is a visit
without the source: what is emitted and asked, and how it goes on for each number that may be the
answer. `Tree.generate_eq_run` says that generation is the run of the dialogue of a tree, so that
what holds of all dialogues holds of all trees, and a tree is taken apart only once. Sources that
answer alike lead to the same run (`run_of_alike`).
-/

namespace PatternForge

/-- What a visit does, for every answer that it may get. -/
inductive Dialogue (α : Type) where
  | finish (result : α)
  /-- The end at a scope that can generate nothing. -/
  | fail (fault : ScopeFault)
  | emit (literal : Text) (rest : Dialogue α)
  | tell (notice : Notice) (rest : Dialogue α)
  /-- A number of a range is asked for. -/
  | ask (announcement : Announcement) (low high : Int) (next : Int → Dialogue α)

namespace Dialogue

variable {α β : Type}

protected def bind : Dialogue α → (α → Dialogue β) → Dialogue β
  | finish result, following => following result
  | fail fault, _ => fail fault
  | emit literal rest, following => emit literal (rest.bind following)
  | tell notice rest, following => tell notice (rest.bind following)
  | ask announcement low high next, following =>
    ask announcement low high fun number => (next number).bind following

instance : Monad Dialogue where
  pure := finish
  bind := Dialogue.bind

def refuse : Option ScopeFault → Dialogue Unit
  | some fault => fail fault
  | none => pure ()

def times : Nat → Dialogue Unit → Dialogue Unit
  | 0, _ => pure ()
  | more + 1, body => do
    body
    times more body

end Dialogue

/-- How often a scope repeats. Fixed bounds ask for nothing. -/
def Bounds.settle (scope : Text) (bounds : Bounds) : Dialogue Int :=
  if bounds.least = bounds.greatest then .finish bounds.least
  else .ask ⟨scope, Purpose.count.name⟩ bounds.least bounds.greatest .finish

namespace Dialogue

/-- The literal of a pool that the source chooses. -/
def pick (name : Text) (pool : List Text) : Dialogue Unit :=
  .ask ⟨name, Purpose.literal.name⟩ 0 (pool.length - 1) fun index =>
    .emit (pool.getD index.toNat []) (.finish ())

/-- The child that the source chooses, given the dialogue of each. -/
def turn (name : Text) (count : Nat) (one : Nat → Dialogue Unit) : Dialogue Unit :=
  .ask ⟨name, Purpose.child.name⟩ 0 ((count : Int) - 1) fun index => one index.toNat

/-- The dialogue of a scope, given what it repeats. A scope that is vacant has nothing to repeat. -/
def repeated (limit : Option Int) (name : Text) (bounds : Bounds) (vacant : Prop)
    [Decidable vacant] (fault : ScopeFault) (notice : Int → Notice) (body : Dialogue Unit) :
    Dialogue Unit := do
  refuse (bounds.fault? name limit)
  if bounds.greatest = 0 then pure ()
  else if vacant then fail fault
  else
    let count ← bounds.settle name
    tell (notice count) (times count.toNat body)

def literal (limit : Option Int) (name : Text) (bounds : Bounds) (pool : List Text) :
    Dialogue Unit :=
  repeated limit name bounds pool.isEmpty (.emptyPool name)
    (fun count => .emitting name count pool.length) (pick name pool)

/-- The dialogue of a group, given that of all children and that of the child of a number. -/
def group (limit : Option Int) (name : Text) (bounds : Bounds) (alternating : Bool) (count : Nat)
    (all : Dialogue Unit) (one : Nat → Dialogue Unit) : Dialogue Unit :=
  repeated limit name bounds (count = 0) (.emptyGroup name)
    (fun repetitions => .repeating name repetitions count alternating)
    (if alternating then turn name count one else all)

end Dialogue

namespace Tree

mutual

/-- The dialogue of a tree under a limit on repetitions. -/
def dialogue (limit : Option Int) : Tree → Dialogue Unit
  | literal name bounds pool => .literal limit name bounds pool
  | group name bounds alternating children =>
    .group limit name bounds alternating children.length (dialogueAll limit children)
      (dialogueOne limit children)

def dialogueAll (limit : Option Int) : List Tree → Dialogue Unit
  | [] => pure ()
  | tree :: rest => do
    dialogue limit tree
    dialogueAll limit rest

def dialogueOne (limit : Option Int) : List Tree → Nat → Dialogue Unit
  | [], _ => pure ()
  | tree :: _, 0 => dialogue limit tree
  | _ :: rest, index + 1 => dialogueOne limit rest index

end

end Tree

namespace Dialogue

variable {σ α β : Type}

/-- The visit that a dialogue makes with a source. -/
def run (source : Source σ) : Dialogue α → Visiting σ α
  | finish result => pure result
  | fail fault => Visiting.fail (.scope fault)
  | emit literal rest => fun state => (run source rest state).precededBy (.emitted literal)
  | tell notice rest => fun state => (run source rest state).precededBy (.told notice)
  | ask announcement low high next => do
    let value ← drawValue source announcement.scope announcement.purpose low high
    run source (next value.number)

theorem run_bind (source : Source σ) (first : Dialogue α) (following : α → Dialogue β) :
    (first >>= following).run source =
      first.run source >>= fun result => (following result).run source := by
  change (first.bind following).run source = _
  induction first with
  | finish result => rfl
  | fail fault => rfl
  | emit literal rest ih =>
    funext state
    change (Dialogue.run source (rest.bind following) state).precededBy _ = _
    rw [ih]
    exact (Visit.andThen_precededBy _ _ _).symm
  | tell notice rest ih =>
    funext state
    change (Dialogue.run source (rest.bind following) state).precededBy _ = _
    rw [ih]
    exact (Visit.andThen_precededBy _ _ _).symm
  | ask announcement low high next ih =>
    simp only [Dialogue.bind, run, ih]
    exact (Visiting.bind_assoc _ _ _).symm

theorem run_times (source : Source σ) (count : Nat) (body : Dialogue Unit) :
    (times count body).run source = Visiting.times count (body.run source) := by
  induction count with
  | zero => rfl
  | succ count ih =>
    rw [times, run_bind, ih]
    rfl

theorem run_refuse (source : Source σ) (fault : Option ScopeFault) :
    (refuse fault).run source = Visiting.refuse fault := by
  cases fault <;> rfl

theorem run_tell (source : Source σ) (notice : Notice) (rest : Dialogue α) :
    (tell notice rest).run source = Visiting.tell notice >>= fun _ => rest.run source := rfl

theorem run_settle (source : Source σ) (scope : Text) (bounds : Bounds)
    (following : Int → Visiting σ β) :
    (bounds.settle scope).run source >>= following =
      bounds.resolve source scope >>= fun value => following value.number := by
  by_cases fixed : bounds.least = bounds.greatest
  · simp only [Bounds.settle, Bounds.resolve, fixed, ↓reduceIte]
    rfl
  · simp only [Bounds.settle, Bounds.resolve, fixed, ↓reduceIte]
    exact Visiting.bind_assoc _ _ _

/-- A visit to a scope checks it, settles how often it repeats, and repeats. -/
theorem run_repeated (limit : Option Int) (source : Source σ) (name : Text) (bounds : Bounds)
    (vacant : Prop) [Decidable vacant] (fault : ScopeFault) (notice : Int → Notice)
    (body : Dialogue Unit) :
    (repeated limit name bounds vacant fault notice body).run source = (do
      Visiting.refuse (bounds.fault? name limit)
      if bounds.greatest = 0 then pure ()
      else if vacant then Visiting.fail (.scope fault)
      else
        let count := (← bounds.resolve source name).number
        Visiting.tell (notice count)
        Visiting.times count.toNat (body.run source)) := by
  rw [repeated, run_bind, run_refuse]
  congr 1
  funext _
  split
  · rfl
  · split
    · rfl
    · rw [run_bind, run_settle]
      congr 1
      funext count
      rw [run_tell, run_times]

theorem run_literal (limit : Option Int) (source : Source σ) (name : Text) (bounds : Bounds)
    (pool : List Text) :
    (literal limit name bounds pool).run source = visitLiteral limit source name bounds pool :=
  run_repeated ..

theorem run_group (limit : Option Int) (source : Source σ) (name : Text) (bounds : Bounds)
    (alternating : Bool) (count : Nat) (all : Dialogue Unit) (one : Nat → Dialogue Unit) :
    (group limit name bounds alternating count all one).run source =
      visitGroup limit source name bounds alternating count (all.run source)
        (fun index => (one index).run source) := by
  rw [group, run_repeated, visitGroup]
  cases alternating <;> rfl

section Ask

variable {source : Source σ} {announcement : Announcement} {low high : Int}
  {next : Int → Dialogue α} {state after : σ}

/-- A request that the source refuses ends the visit. -/
theorem run_ask_refused {fault : DrawFault}
    (drawn : source.draw low high (source.announce announcement state) = (.error fault, after)) :
    (ask announcement low high next).run source state =
      ⟨.error (.source fault), [.asked ⟨announcement, low, high, .error fault⟩], after⟩ := by
  change (drawValue source announcement.scope announcement.purpose low high state).andThen _ = _
  simp only [drawValue, drawn, judge, Visit.andThen]

/-- So does an answer outside the range. -/
theorem run_ask_rejected {value : Value}
    (drawn : source.draw low high (source.announce announcement state) = (.ok value, after))
    (outside : value.inRange low high = false) :
    (ask announcement low high next).run source state =
      ⟨.error (.outOfRange announcement.scope low high value),
        [.asked ⟨announcement, low, high, .ok value⟩], after⟩ := by
  change (drawValue source announcement.scope announcement.purpose low high state).andThen _ = _
  simp only [drawValue, drawn, judge, outside, Bool.false_eq_true, ↓reduceIte, Visit.andThen]

/-- After an answer in the range the visit goes on with its number. -/
theorem run_ask_accepted {value : Value}
    (drawn : source.draw low high (source.announce announcement state) = (.ok value, after))
    (inside : value.inRange low high = true) :
    (ask announcement low high next).run source state =
      ((next value.number).run source after).precededBy
        (.asked ⟨announcement, low, high, .ok value⟩) := by
  change (drawValue source announcement.scope announcement.purpose low high state).andThen _ = _
  simp only [drawValue, drawn, judge, inside, ↓reduceIte, Visit.andThen]
  rfl

variable (source announcement low high next state)

/-- Nothing else comes of a request. -/
theorem run_ask_cases :
    (∃ fault after,
      source.draw low high (source.announce announcement state) = (.error fault, after) ∧
      (ask announcement low high next).run source state =
        ⟨.error (.source fault), [.asked ⟨announcement, low, high, .error fault⟩], after⟩) ∨
    (∃ value after,
      source.draw low high (source.announce announcement state) = (.ok value, after) ∧
      value.inRange low high = false ∧
      (ask announcement low high next).run source state =
        ⟨.error (.outOfRange announcement.scope low high value),
          [.asked ⟨announcement, low, high, .ok value⟩], after⟩) ∨
    ∃ value after,
      source.draw low high (source.announce announcement state) = (.ok value, after) ∧
      value.inRange low high = true ∧
      (ask announcement low high next).run source state =
        ((next value.number).run source after).precededBy
          (.asked ⟨announcement, low, high, .ok value⟩) := by
  rcases drawn : source.draw low high (source.announce announcement state) with
    ⟨fault | value, after⟩
  · exact .inl ⟨fault, after, rfl, run_ask_refused drawn⟩
  · cases inside : value.inRange low high with
    | false => exact .inr (.inl ⟨value, after, rfl, inside, run_ask_rejected drawn inside⟩)
    | true => exact .inr (.inr ⟨value, after, rfl, inside, run_ask_accepted drawn inside⟩)

end Ask

section Alike

variable {τ : Type} {source : Source σ} {other : Source τ} {linked : σ → τ → Prop}

/-- Sources that answer alike cannot be told apart by a run. -/
theorem run_of_alike (alike : source.Alike other linked) {dialogue : Dialogue α} {state : σ}
    {twin : τ} (start : linked state twin) :
    (dialogue.run source state).outcome = (dialogue.run other twin).outcome ∧
      (dialogue.run source state).events = (dialogue.run other twin).events ∧
      linked (dialogue.run source state).source (dialogue.run other twin).source := by
  induction dialogue generalizing state twin with
  | finish result => exact ⟨rfl, rfl, start⟩
  | fail fault => exact ⟨rfl, rfl, start⟩
  | emit literal rest ih =>
    obtain ⟨outcome, events, still⟩ := ih start
    exact ⟨outcome, congrArg (List.cons _) events, still⟩
  | tell notice rest ih =>
    obtain ⟨outcome, events, still⟩ := ih start
    exact ⟨outcome, congrArg (List.cons _) events, still⟩
  | ask announcement low high next ih =>
    have heard := alike.announce announcement state twin start
    obtain ⟨same, still⟩ := alike.draw low high _ _ heard
    rcases drawn : source.draw low high (source.announce announcement state) with ⟨answer, after⟩
    rcases matched : other.draw low high (other.announce announcement twin) with ⟨reply, later⟩
    rw [drawn, matched] at same still
    obtain rfl : answer = reply := same
    cases answer with
    | error fault =>
      rw [run_ask_refused drawn, run_ask_refused matched]
      exact ⟨rfl, rfl, still⟩
    | ok value =>
      cases inside : value.inRange low high with
      | false =>
        rw [run_ask_rejected drawn inside, run_ask_rejected matched inside]
        exact ⟨rfl, rfl, still⟩
      | true =>
        obtain ⟨outcome, events, later⟩ := ih value.number still
        rw [run_ask_accepted drawn inside, run_ask_accepted matched inside]
        exact ⟨outcome, congrArg (List.cons _) events, later⟩

end Alike

/-- In a run that ends well every request was answered by a number of its range. -/
theorem inRange_of_run {source : Source σ} {dialogue : Dialogue α} {state : σ} {result : α}
    (returned : (dialogue.run source state).outcome = .ok result) :
    ∀ exchange ∈ (dialogue.run source state).exchanges,
      ∃ value, exchange.answer = .ok value ∧ value.inRange exchange.low exchange.high := by
  induction dialogue generalizing state with
  | finish => exact fun exchange member => absurd member List.not_mem_nil
  | fail => cases returned
  | emit literal rest ih => exact ih returned
  | tell notice rest ih => exact ih returned
  | ask announcement low high next ih =>
    rcases run_ask_cases source announcement low high next state with
      ⟨fault, after, drawn, run⟩ | ⟨value, after, drawn, outside, run⟩ |
      ⟨value, after, drawn, inside, run⟩
    · rw [run] at returned
      cases returned
    · rw [run] at returned
      cases returned
    · rw [run] at returned ⊢
      intro exchange member
      rw [Visit.exchanges_precededBy] at member
      rcases List.mem_cons.mp member with rfl | member
      · exact ⟨value, rfl, inside⟩
      · exact ih value.number returned exchange member

end Dialogue

namespace Tree

variable {σ : Type}

private theorem generateAll_eq_run (limit : Option Int) (source : Source σ) (children : List Tree)
    (each : ∀ child ∈ children,
      child.generate limit source = (child.dialogue limit).run source) :
    generateAll limit source children = (dialogueAll limit children).run source := by
  induction children with
  | nil => rfl
  | cons child rest ih =>
    rw [generateAll, dialogueAll, Dialogue.run_bind, each child List.mem_cons_self,
      ih fun other member => each other (List.mem_cons_of_mem _ member)]

private theorem generateOne_eq_run (limit : Option Int) (source : Source σ) (children : List Tree)
    (each : ∀ child ∈ children,
      child.generate limit source = (child.dialogue limit).run source) :
    generateOne limit source children = fun index =>
      (dialogueOne limit children index).run source := by
  funext index
  induction children generalizing index with
  | nil => rfl
  | cons child rest ih =>
    cases index with
    | zero => exact each child List.mem_cons_self
    | succ index => exact ih (fun other member => each other (List.mem_cons_of_mem _ member)) index

/-- To generate from a tree with a source is to lead the dialogue of the tree with it. -/
theorem generate_eq_run (limit : Option Int) (source : Source σ) (tree : Tree) :
    tree.generate limit source = (tree.dialogue limit).run source := by
  induction tree using Tree.induct with
  | literal name bounds pool =>
    rw [generate, dialogue, Dialogue.run_literal]
  | group name bounds alternating children each =>
    rw [generate, dialogue, Dialogue.run_group, generateAll_eq_run limit source children each,
      generateOne_eq_run limit source children each]

end Tree

/-- Sources that answer alike cannot be told apart by a tree that is generated with them. -/
theorem Source.Alike.generate {σ τ : Type} {source : Source σ} {other : Source τ}
    {linked : σ → τ → Prop} (alike : source.Alike other linked) (limit : Option Int) (tree : Tree)
    {state : σ} {twin : τ} (start : linked state twin) :
    let visit := tree.generate limit source state
    let same := tree.generate limit other twin
    visit.outcome = same.outcome ∧ visit.events = same.events ∧
      linked visit.source same.source := by
  simp only [Tree.generate_eq_run]
  exact Dialogue.run_of_alike alike start

end PatternForge
