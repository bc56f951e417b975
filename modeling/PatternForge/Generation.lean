import PatternForge.Scope.Tree
import PatternForge.Source.Basic

/-!
# Generation

Generation visits a scope tree with a source at hand. Each visit checks the scope, settles how often
it repeats, and emits literals; what was emitted before a fault stays emitted. The limit on
repetitions is one for the whole tree.
-/

namespace PatternForge

/-- Why a visit fails. -/
inductive GenerationFault where
  | scope (fault : ScopeFault)
  | source (fault : DrawFault)
  /-- The source gave a value that is no whole number of the range. -/
  | outOfRange (scope : Text) (low high : Int) (value : Value)

def GenerationFault.report : GenerationFault → Report
  | scope fault => fault.report
  | source fault => fault.report
  | outOfRange name low high value =>
    .ofWording .randomSourceError do
      return "Random source returned " ++ (← value.written?) ++ " for scope '" ++ name
        ++ "', outside the requested range [" ++ (← Text.ofInt? low) ++ ", "
        ++ (← Text.ofInt? high) ++ "]"

/-- Only the objection of a scope is a configuration error, and only if it can be worded. -/
theorem GenerationFault.kind_report_eq_iff {fault : GenerationFault} :
    fault.report.kind = .configurationError ↔
      ∃ reason, fault = .scope reason ∧ reason.wording?.isSome = true := by
  cases fault with
  | scope reason =>
    simp only [report, ScopeFault.kind_report_eq_iff, scope.injEq, exists_eq_left']
  | source fault => exact iff_of_false fault.kind_report_ne nofun
  | outOfRange name low high value =>
    exact iff_of_false (Report.kind_ofWording_ne nofun nofun) nofun

theorem GenerationFault.kind_report_outOfRange {scope : Text} {low high : Int} {value : Value}
    (lower : Numeral.isWritable low = true) (upper : Numeral.isWritable high = true)
    (given : value.isWritable = true) :
    (outOfRange scope low high value).report.kind = .randomSourceError := by
  simp only [report, Text.ofInt?, Value.written?, lower, upper, given, ↓reduceIte]
  rfl

/-- What a visit tells an observer. -/
inductive Notice where
  /-- A leaf is about to emit so many literals of a pool of the given size. -/
  | emitting (scope : Text) (count : Int) (pool : Nat)
  /-- A group is about to repeat so many times over so many children. -/
  | repeating (scope : Text) (count : Int) (children : Nat) (alternating : Bool)
deriving DecidableEq

/-- The wording of a notice. Numbers in it are written in full, however long they are. -/
def Notice.message : Notice → Text
  | emitting scope count pool =>
    "Scope '" ++ scope ++ "' emitting " ++ Text.ofInt count ++ " literal(s) from a pool of "
      ++ Text.ofNat pool
  | repeating scope count children alternating =>
    "Scope '" ++ scope ++ "' repeating " ++ Text.ofInt count ++ " time(s) over "
      ++ Text.ofNat children ++ " child(ren), alternating=" ++ Scalar.displayBool alternating

/-- What was asked of a source, and the answer. -/
structure Exchange where
  announcement : Announcement
  low : Int
  high : Int
  answer : Except DrawFault Value

def Exchange.range (exchange : Exchange) : Int × Int :=
  (exchange.low, exchange.high)

inductive Event where
  | emitted (literal : Text)
  | told (notice : Notice)
  | asked (exchange : Exchange)

namespace Event

def literal? : Event → Option Text
  | emitted literal => some literal
  | _ => none

def notice? : Event → Option Notice
  | told notice => some notice
  | _ => none

def exchange? : Event → Option Exchange
  | asked exchange => some exchange
  | _ => none

end Event

/-- The end of a visit and everything that it did. -/
@[ext] structure Visit (σ α : Type) where
  outcome : Except GenerationFault α
  events : List Event := []
  source : σ

namespace Visit

variable {σ α β : Type}

def emitted (visit : Visit σ α) : List Text :=
  visit.events.filterMap Event.literal?

def notices (visit : Visit σ α) : List Notice :=
  visit.events.filterMap Event.notice?

def exchanges (visit : Visit σ α) : List Exchange :=
  visit.events.filterMap Event.exchange?

/-- The text of a visit so far as it came. -/
def text (visit : Visit σ α) : Text :=
  visit.emitted.flatten

/-- The visit and what follows on its result. A fault ends both. -/
def andThen (visit : Visit σ α) (next : α → σ → Visit σ β) : Visit σ β :=
  match visit.outcome with
  | .error fault => { visit with outcome := .error fault }
  | .ok result =>
    let rest := next result visit.source
    { rest with events := visit.events ++ rest.events }

/-- The visit with something done before it. -/
def precededBy (event : Event) (visit : Visit σ α) : Visit σ α :=
  { visit with events := event :: visit.events }

@[simp] theorem outcome_precededBy (event : Event) (visit : Visit σ α) :
    (visit.precededBy event).outcome = visit.outcome := rfl

@[simp] theorem source_precededBy (event : Event) (visit : Visit σ α) :
    (visit.precededBy event).source = visit.source := rfl

@[simp] theorem emitted_precededBy (event : Event) (visit : Visit σ α) :
    (visit.precededBy event).emitted = event.literal?.toList ++ visit.emitted := by
  cases event <;> rfl

@[simp] theorem exchanges_precededBy (event : Event) (visit : Visit σ α) :
    (visit.precededBy event).exchanges = event.exchange?.toList ++ visit.exchanges := by
  cases event <;> rfl

theorem andThen_precededBy (event : Event) (visit : Visit σ α) (next : α → σ → Visit σ β) :
    (visit.precededBy event).andThen next = (visit.andThen next).precededBy event := by
  cases ended : visit.outcome <;> simp [andThen, precededBy, ended]

theorem andThen_assoc {γ : Type} (visit : Visit σ α) (next : α → σ → Visit σ β)
    (last : β → σ → Visit σ γ) :
    (visit.andThen next).andThen last =
      visit.andThen fun result state => (next result state).andThen last := by
  cases ended : visit.outcome with
  | error fault => simp only [andThen, ended]
  | ok result =>
    cases finished : (next result visit.source).outcome <;>
      simp [andThen, ended, finished, List.append_assoc]

end Visit

/-- Something to do with a source that is in a state of the given type. -/
def Visiting (σ α : Type) := σ → Visit σ α

namespace Visiting

variable {σ α β : Type}

protected def pure (result : α) : Visiting σ α :=
  fun state => { outcome := .ok result, source := state }

def fail (fault : GenerationFault) : Visiting σ α :=
  fun state => { outcome := .error fault, source := state }

def emit (literal : Text) : Visiting σ Unit :=
  fun state => { outcome := .ok (), events := [.emitted literal], source := state }

def tell (notice : Notice) : Visiting σ Unit :=
  fun state => { outcome := .ok (), events := [.told notice], source := state }

/-- One thing after the other; a fault ends both. -/
protected def bind (first : Visiting σ α) (next : α → Visiting σ β) : Visiting σ β :=
  fun state => (first state).andThen next

instance : Monad (Visiting σ) where
  pure := Visiting.pure
  bind := Visiting.bind

theorem bind_assoc {γ : Type} (first : Visiting σ α) (next : α → Visiting σ β)
    (last : β → Visiting σ γ) :
    first >>= next >>= last = first >>= fun result => next result >>= last :=
  funext fun state => (first state).andThen_assoc next last

/-- Fails if there is a fault. -/
def refuse (fault : Option ScopeFault) : Visiting σ Unit :=
  match fault with
  | some fault => fail (.scope fault)
  | none => pure ()

def times : Nat → Visiting σ Unit → Visiting σ Unit
  | 0, _ => pure ()
  | more + 1, body => do
    body
    times more body

end Visiting

/-- Whether a value is a whole number of a range. -/
def Value.inRange (value : Value) (low high : Int) : Bool :=
  match value.toInt? with
  | some number => low ≤ number && number ≤ high
  | none => false

variable {σ : Type}

/-- The answer to a request as the scope that made it takes it. -/
def judge (scope : Text) (low high : Int) : Except DrawFault Value → Except GenerationFault Value
  | .error fault => .error (.source fault)
  | .ok value =>
    if value.inRange low high then .ok value else .error (.outOfRange scope low high value)

/-- A scope fails with the source, or turns a value down. -/
theorem judge_eq_error_iff {scope : Text} {low high : Int} {answer : Except DrawFault Value}
    {fault : GenerationFault} : judge scope low high answer = .error fault ↔
      (∃ refusal, answer = .error refusal ∧ fault = .source refusal) ∨
        ∃ value, answer = .ok value ∧ value.inRange low high = false ∧
          fault = .outOfRange scope low high value := by
  cases answer with
  | error refusal =>
    constructor
    · intro judged
      exact .inl ⟨refusal, rfl, (Except.error.inj judged).symm⟩
    · rintro (⟨_, ⟨⟩, rfl⟩ | ⟨_, ⟨⟩, -⟩)
      rfl
  | ok value =>
    rw [judge]
    split
    · next inside =>
      refine iff_of_false nofun ?_
      rintro (⟨_, ⟨⟩, -⟩ | ⟨_, ⟨⟩, outside, -⟩)
      exact Bool.false_ne_true (outside.symm.trans inside)
    · next outside =>
      constructor
      · intro judged
        exact .inr ⟨value, rfl, Bool.eq_false_iff.mpr outside, (Except.error.inj judged).symm⟩
      · rintro (⟨_, ⟨⟩, -⟩ | ⟨_, ⟨⟩, -, rfl⟩)
        rfl

/-- Announces a request and makes it. The answer is checked and handed on as it is. -/
def drawValue (source : Source σ) (scope purpose : Text) (low high : Int) : Visiting σ Value :=
  fun state =>
    let announcement : Announcement := ⟨scope, purpose⟩
    let (answer, state) := source.draw low high (source.announce announcement state)
    { outcome := judge scope low high answer
      events := [.asked ⟨announcement, low, high, answer⟩]
      source := state }

/-- The number that an accepted value is. -/
def Value.number (value : Value) : Int :=
  value.toInt?.getD 0

@[simp] theorem Value.number_int (number : Int) : (Value.int number).number = number := rfl

theorem Value.inRange_int_iff {number low high : Int} :
    (Value.int number).inRange low high = true ↔ low ≤ number ∧ number ≤ high := by
  simp only [Value.inRange, Value.toInt?_int, Bool.and_eq_true, decide_eq_true_eq]

/-- A whole number is in a range if the number that it is stands there. -/
theorem Value.inRange_number {value : Value} (whole : value.toInt?.isSome) (low high : Int) :
    (Value.int value.number).inRange low high = value.inRange low high := by
  obtain ⟨number, is⟩ := Option.isSome_iff_exists.mp whole
  simp only [Value.inRange, Value.number, is, Option.getD_some, Value.toInt?_int]

theorem Value.whole_of_inRange {value : Value} {low high : Int}
    (inside : value.inRange low high = true) : value.toInt?.isSome := by
  cases known : value.toInt? with
  | none => simp only [Value.inRange, known, Bool.false_eq_true] at inside
  | some number => rfl

theorem Value.number_of_inRange {value : Value} {low high : Int}
    (inside : value.inRange low high = true) : low ≤ value.number ∧ value.number ≤ high := by
  have whole : value.toInt?.isSome := Value.whole_of_inRange inside
  exact Value.inRange_int_iff.mp ((Value.inRange_number whole low high).trans inside)

/-- How often a scope repeats, as a value. Fixed bounds ask for nothing. -/
def Bounds.resolve (source : Source σ) (scope : Text) (bounds : Bounds) : Visiting σ Value :=
  if bounds.least = bounds.greatest then pure (.int bounds.least)
  else drawValue source scope Purpose.count.name bounds.least bounds.greatest

/-- A visit to a leaf: so many literals, each drawn from the pool by its number. -/
def visitLiteral (limit : Option Int) (source : Source σ) (name : Text) (bounds : Bounds)
    (pool : List Text) : Visiting σ Unit := do
  Visiting.refuse (bounds.fault? name limit)
  if bounds.greatest = 0 then pure ()
  else if pool.isEmpty then Visiting.fail (.scope (.emptyPool name))
  else
    let count := (← bounds.resolve source name).number
    Visiting.tell (.emitting name count pool.length)
    Visiting.times count.toNat do
      let index ← drawValue source name Purpose.literal.name 0 (pool.length - 1)
      Visiting.emit (pool.getD index.number.toNat [])

/-- A visit to a group, given what visits all children, and what visits the child of a number. -/
def visitGroup (limit : Option Int) (source : Source σ) (name : Text) (bounds : Bounds)
    (alternating : Bool) (count : Nat) (all : Visiting σ Unit) (one : Nat → Visiting σ Unit) :
    Visiting σ Unit := do
  Visiting.refuse (bounds.fault? name limit)
  if bounds.greatest = 0 then pure ()
  else if count = 0 then Visiting.fail (.scope (.emptyGroup name))
  else
    let repetitions := (← bounds.resolve source name).number
    Visiting.tell (.repeating name repetitions count alternating)
    Visiting.times repetitions.toNat do
      if alternating then
        let index ← drawValue source name Purpose.child.name 0 ((count : Int) - 1)
        one index.number.toNat
      else all

namespace Tree

mutual

/-- Generates from a tree under a limit on repetitions. Visits may be nested to any depth: the limit
that an interpreter's stack puts on recursion is left out. -/
def generate (limit : Option Int) (source : Source σ) : Tree → Visiting σ Unit
  | literal name bounds pool => visitLiteral limit source name bounds pool
  | group name bounds alternating children =>
    visitGroup limit source name bounds alternating children.length
      (generateAll limit source children) (generateOne limit source children)

def generateAll (limit : Option Int) (source : Source σ) : List Tree → Visiting σ Unit
  | [] => pure ()
  | tree :: rest => do
    generate limit source tree
    generateAll limit source rest

/-- Generates from the tree of a number. -/
def generateOne (limit : Option Int) (source : Source σ) : List Tree → Nat → Visiting σ Unit
  | [], _ => pure ()
  | tree :: _, 0 => generate limit source tree
  | _ :: rest, index + 1 => generateOne limit source rest index

end

/-- The text of a run from a fresh start. A run that fails gives none. -/
def render (limit : Option Int) (source : Source σ) (tree : Tree) (state : σ) :
    Except GenerationFault Text :=
  let visit := tree.generate limit source state
  visit.outcome.map fun _ => visit.text

end Tree

end PatternForge
