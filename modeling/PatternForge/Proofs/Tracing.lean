import PatternForge.Proofs.Dialogue
import PatternForge.Sink
import PatternForge.Source.Scripted
import PatternForge.Trace

/-! # Recorded runs

A recording source stands between a visit and the source that answers. As long as the answers are
whole numbers the visit cannot tell the difference, and the trace grows by one draw for each of them
(`run_recorded`). A run that ends well has had no other answers, so nothing has to be known
beforehand about a source whose recorded run ended well (`outcome_of_recorded`).
-/

namespace PatternForge

namespace Exchange

/-- The source gave no value, or a value that is a whole number. -/
def isWhole (exchange : Exchange) : Bool :=
  match exchange.answer with
  | .ok value => value.toInt?.isSome
  | .error _ => true

/-- The draw that is recorded of an exchange. A refused request leaves none. -/
def recorded? (exchange : Exchange) : Option RecordedDraw :=
  match exchange.answer with
  | .ok value =>
    some ⟨some exchange.announcement.scope, some exchange.announcement.purpose, exchange.low,
      exchange.high, value.number⟩
  | .error _ => none

end Exchange

/-- The draws that a visit leaves in a trace. -/
def Visit.draws {σ α : Type} (visit : Visit σ α) : List RecordedDraw :=
  visit.exchanges.filterMap Exchange.recorded?

/-- The text of a finished visit to a root of the given name, and the trace of its draws. -/
def Visit.written {σ α : Type} (visit : Visit σ α) (root : Text) : Text × Trace :=
  (visit.text, { root, output := some visit.text, draws := visit.draws })

/-- The state of a recording source after a visit, given the visit that its source would have had by
itself. -/
def Traced.after {σ α : Type} (start : Traced σ) (visit : Visit σ α) : Traced σ where
  inner := visit.source
  trace := start.trace.append visit.draws
  pending := if visit.exchanges.isEmpty then start.pending else none

theorem Visit.draws_precededBy {σ α : Type} (exchange : Exchange) (visit : Visit σ α) :
    (visit.precededBy (.asked exchange)).draws = exchange.recorded?.toList ++ visit.draws := by
  rw [draws, exchanges_precededBy]
  cases known : exchange.recorded? <;> simp [Event.exchange?, draws, known]

namespace Traced

variable {σ α : Type} (start : Traced σ)

theorem after_of_silent {visit : Visit σ α} (silent : visit.exchanges = []) :
    start.after visit = { start with inner := visit.source } := by
  simp only [after, Visit.draws, silent, List.filterMap_nil, Trace.append_nil, List.isEmpty_nil,
    ↓reduceIte]

theorem after_precededBy_of_none (visit : Visit σ α) {event : Event}
    (silent : event.exchange? = none) : start.after (visit.precededBy event) = start.after visit := by
  have same : (visit.precededBy event).exchanges = visit.exchanges := by
    rw [Visit.exchanges_precededBy, silent]
    rfl
  simp only [after, Visit.draws, same, Visit.source_precededBy]

/-- The first exchange of a visit is recorded first and uses up what was announced before it. -/
theorem after_precededBy_asked (exchange : Exchange) (visit : Visit σ α) (inner : σ) :
    start.after (visit.precededBy (.asked exchange)) =
      Traced.after ⟨inner, start.trace.append exchange.recorded?.toList, none⟩ visit := by
  simp only [after, Visit.draws_precededBy, Visit.exchanges_precededBy, Visit.source_precededBy,
    Event.exchange?, Option.toList_some, List.singleton_append, List.isEmpty_cons,
    Bool.false_eq_true, ↓reduceIte, ite_self, Trace.append_append]

theorem after_asked (outcome : Except GenerationFault α) (exchange : Exchange) (inner : σ) :
    start.after ⟨outcome, [.asked exchange], inner⟩ =
      ⟨inner, start.trace.append exchange.recorded?.toList, none⟩ :=
  (start.after_precededBy_asked exchange ⟨outcome, [], inner⟩ inner).trans (after_of_silent _ rfl)

end Traced

/-- What is recorded of a value is the number that it is. -/
theorem Exchange.recorded?_of_toInt? {value : Value} {number : Int}
    (is : value.toInt? = some number) (announcement : Announcement) (low high : Int) :
    recorded? ⟨announcement, low, high, .ok value⟩ =
      some ⟨some announcement.scope, some announcement.purpose, low, high, number⟩ := by
  simp only [recorded?, Value.number, is, Option.getD_some]

namespace Dialogue

variable {σ α : Type} {draw : (low high : Int) → σ → Except DrawFault Value × σ}

/-- A run through a recording source is the run without it, and leaves one draw for each value. -/
theorem run_recorded {dialogue : Dialogue α} {start : Traced σ}
    (whole : ∀ exchange ∈ (dialogue.run (.ofDraw draw) start.inner).exchanges, exchange.isWhole) :
    dialogue.run (Traced.source (.ofDraw draw)) start =
      { outcome := (dialogue.run (.ofDraw draw) start.inner).outcome
        events := (dialogue.run (.ofDraw draw) start.inner).events
        source := start.after (dialogue.run (.ofDraw draw) start.inner) } := by
  induction dialogue generalizing start with
  | finish result =>
    rw [start.after_of_silent rfl]
    rfl
  | fail fault =>
    rw [start.after_of_silent rfl]
    rfl
  | emit literal rest ih =>
    change (rest.run _ start).precededBy _ = ⟨_, _, start.after ((rest.run _ _).precededBy _)⟩
    rw [ih whole, Traced.after_precededBy_of_none _ _ rfl]
    rfl
  | tell notice rest ih =>
    change (rest.run _ start).precededBy _ = ⟨_, _, start.after ((rest.run _ _).precededBy _)⟩
    rw [ih whole, Traced.after_precededBy_of_none _ _ rfl]
    rfl
  | ask announcement low high next ih =>
    rcases run_ask_cases (.ofDraw draw) announcement low high next start.inner with
      ⟨fault, after, drawn, plain⟩ | ⟨value, after, drawn, outside, plain⟩ |
      ⟨value, after, drawn, inside, plain⟩
    · have recorded : (ask announcement low high next).run (Traced.source (.ofDraw draw)) start = _ :=
        run_ask_refused (Traced.draw_of_refused drawn)
      rw [recorded, plain, Traced.after_asked]
      simp only [Exchange.recorded?, Option.toList_none, Trace.append_nil]
      rfl
    · rw [plain] at whole ⊢
      obtain ⟨number, is⟩ := Option.isSome_iff_exists.mp (whole _ List.mem_cons_self)
      have recorded : (ask announcement low high next).run (Traced.source (.ofDraw draw)) start = _ :=
        run_ask_rejected (Traced.draw_of_whole rfl drawn is) outside
      rw [recorded, Traced.after_asked, Exchange.recorded?_of_toInt? is]
      rfl
    · rw [plain] at whole ⊢
      obtain ⟨number, is⟩ := Option.isSome_iff_exists.mp (Value.whole_of_inRange inside)
      have recorded : (ask announcement low high next).run (Traced.source (.ofDraw draw)) start = _ :=
        run_ask_accepted (Traced.draw_of_whole rfl drawn is) inside
      rw [Visit.exchanges_precededBy] at whole
      rw [recorded, start.after_precededBy_asked _ _ after, Exchange.recorded?_of_toInt? is]
      exact congrArg (Visit.precededBy _)
        (ih _ fun exchange member => whole exchange (List.mem_append_right _ member))

/-- A recorded run that ends well ends as the run by itself, whatever the source gives: a value that
is no whole number ends both. -/
theorem outcome_of_recorded {dialogue : Dialogue α} {start : Traced σ} {result : α}
    (returned : (dialogue.run (Traced.source (.ofDraw draw)) start).outcome = .ok result) :
    (dialogue.run (.ofDraw draw) start.inner).outcome = .ok result := by
  induction dialogue generalizing start with
  | finish ended => exact returned
  | fail fault => exact returned
  | emit literal rest ih => exact ih returned
  | tell notice rest ih => exact ih returned
  | ask announcement low high next ih =>
    rcases run_ask_cases (Traced.source (.ofDraw draw)) announcement low high next start with
      ⟨fault, after, answered, recorded⟩ | ⟨value, after, answered, outside, recorded⟩ |
      ⟨value, after, answered, inside, recorded⟩
    · rw [recorded] at returned
      cases returned
    · rw [recorded] at returned
      cases returned
    · rw [recorded] at returned
      have drawn := Traced.inner_of_draw_ok answered
      have plain : (ask announcement low high next).run (.ofDraw draw) start.inner = _ :=
        run_ask_accepted drawn inside
      rw [plain]
      exact ih value.number returned

end Dialogue

namespace Tree

variable {σ : Type} {draw : (low high : Int) → σ → Except DrawFault Value × σ}

theorem generate_traced {limit : Option Int} {tree : Tree} {start : Traced σ}
    (whole : ∀ exchange ∈ (tree.generate limit (.ofDraw draw) start.inner).exchanges,
      exchange.isWhole) :
    tree.generate limit (Traced.source (.ofDraw draw)) start =
      { outcome := (tree.generate limit (.ofDraw draw) start.inner).outcome
        events := (tree.generate limit (.ofDraw draw) start.inner).events
        source := start.after (tree.generate limit (.ofDraw draw) start.inner) } := by
  simp only [generate_eq_run] at whole ⊢
  exact Dialogue.run_recorded whole

/-- The answers of a run that ends well under a recording source were whole numbers. -/
theorem whole_of_recorded {limit : Option Int} {tree : Tree} {start : Traced σ} {result : Unit}
    (returned : (tree.generate limit (Traced.source (.ofDraw draw)) start).outcome = .ok result) :
    ∀ exchange ∈ (tree.generate limit (.ofDraw draw) start.inner).exchanges, exchange.isWhole := by
  simp only [generate_eq_run] at returned ⊢
  intro exchange member
  obtain ⟨value, answer, inside⟩ :=
    Dialogue.inRange_of_run (Dialogue.outcome_of_recorded returned) exchange member
  simp only [Exchange.isWhole, answer, Value.whole_of_inRange inside]

theorem trace_eq_of_whole {limit : Option Int} {tree : Tree} {state : σ}
    (whole : ∀ exchange ∈ (tree.generate limit (.ofDraw draw) state).exchanges, exchange.isWhole) :
    tree.trace limit (.ofDraw draw) state =
      (tree.generate limit (.ofDraw draw) state).outcome.map fun _ =>
        (tree.generate limit (.ofDraw draw) state).written tree.name := by
  have recorded : tree.generate limit (Traced.source (.ofDraw draw))
      (Traced.start tree.name state) = _ := generate_traced whole
  rw [trace, recorded]
  rfl

/-- A recorded run that ends well is the run by itself, and wrote its text and its draws. -/
theorem ran_of_trace {limit : Option Int} {tree : Tree} {state : σ} {result : Text × Trace}
    (traced : tree.trace limit (.ofDraw draw) state = .ok result) :
    (tree.generate limit (.ofDraw draw) state).outcome = .ok () ∧
      (∀ exchange ∈ (tree.generate limit (.ofDraw draw) state).exchanges, exchange.isWhole) ∧
      (tree.generate limit (.ofDraw draw) state).written tree.name = result := by
  have whole : ∀ exchange ∈ (tree.generate limit (.ofDraw draw) state).exchanges,
      exchange.isWhole := by
    cases ended : (tree.generate limit (Traced.source (.ofDraw draw))
      (Traced.start tree.name state)).outcome with
    | error fault =>
      rw [trace, ended] at traced
      cases traced
    | ok _ => exact whole_of_recorded ended
  rw [trace_eq_of_whole whole] at traced
  cases returned : (tree.generate limit (.ofDraw draw) state).outcome with
  | error fault =>
    rw [returned] at traced
    cases traced
  | ok _ =>
    rw [returned] at traced
    exact ⟨rfl, whole, Except.ok.inj traced⟩

/-- Recording changes nothing about a run whose source gives whole numbers only: neither how it ends
nor what it does, nor how it leaves the source. The trace gains one draw for each value that the
source gave, also for one that the scope then turned down, and none for a refused request. -/
theorem generate_recorded (limit : Option Int)
    (draw : (low high : Int) → σ → Except DrawFault Value × σ) (tree : Tree) (start : Traced σ)
    (whole : ∀ exchange ∈ (tree.generate limit (.ofDraw draw) start.inner).exchanges,
      exchange.isWhole) :
    let plain := tree.generate limit (.ofDraw draw) start.inner
    let recorded := tree.generate limit (Traced.source (.ofDraw draw)) start
    recorded.outcome = plain.outcome ∧ recorded.events = plain.events ∧
      (∀ sink : Sink, sink.append recorded.emitted = sink.append plain.emitted) ∧
      recorded.source.inner = plain.source ∧
      recorded.source.trace =
        start.trace.append (plain.exchanges.filterMap Exchange.recorded?) := by
  intro plain recorded
  have same : recorded = ⟨plain.outcome, plain.events, start.after plain⟩ := generate_traced whole
  rw [same]
  exact ⟨rfl, rfl, fun sink => rfl, rfl, rfl⟩

def vote : Tree :=
  .literal "vote" ⟨0, 2⟩ ["yes", "no"]

/-- A truth value is recorded as its number, and a number is recorded although no answer has it. -/
theorem generate_recorded_vote :
    let script : Scripted := { values := [.int 2, .bool true, .int 7] }
    let plain := vote.generate none Scripted.source script
    let recorded := vote.generate none (Traced.source Scripted.source) (Traced.start "vote" script)
    (∀ exchange ∈ plain.exchanges, exchange.isWhole) ∧
      recorded.source.trace.values = [2, 1, 7] ∧
      recorded.outcome = plain.outcome ∧ recorded.events = plain.events ∧
      (∀ sink : Sink, sink.append recorded.emitted = sink.append plain.emitted) ∧
      recorded.source.inner = plain.source ∧
      recorded.source.trace =
        (Traced.start "vote" script).trace.append
          (plain.exchanges.filterMap Exchange.recorded?) := by
  refine ⟨?_, ?_, generate_recorded none Scripted.draw vote (Traced.start "vote" _) ?_⟩
  · decide
  · decide
  · decide

end Tree

end PatternForge
