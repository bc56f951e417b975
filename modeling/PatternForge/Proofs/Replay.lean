import PatternForge.Proofs.Tracing
import PatternForge.Source.Scripted

/-! # Replay

The numbers of a recorded run are a script. Generating with it leads to the same requests and the
same literals, and ends as the recorded run did (`run_replay`): well, or at the same scope, or with
a number that is turned down again. Where the source had refused a request the script has run out.
-/

namespace PatternForge

/-- How a replay with so many numbers ends where a run ended with a fault. -/
def GenerationFault.replayed (count : Nat) : GenerationFault → GenerationFault
  | scope fault => scope fault
  | source _ => source (.exhausted count)
  | outOfRange name low high value => outOfRange name low high (.int value.number)

/-- An exchange as a replay with so many numbers has it. -/
def Exchange.replayed (count : Nat) (exchange : Exchange) : Exchange :=
  { exchange with
    answer :=
      match exchange.answer with
      | .ok value => .ok (.int value.number)
      | .error _ => .error (.exhausted count) }

def Event.replayed (count : Nat) : Event → Event
  | asked exchange => asked (exchange.replayed count)
  | event => event

/-- Values that were given are recorded with the ranges that they were asked for. -/
theorem Exchange.ranges_recorded {exchanges : List Exchange}
    (answered : ∀ exchange ∈ exchanges, ∃ value, exchange.answer = .ok value) :
    (exchanges.filterMap recorded?).map (fun step => (step.low, step.high)) =
      exchanges.map range := by
  induction exchanges with
  | nil => rfl
  | cons exchange rest ih =>
    obtain ⟨value, answer⟩ := answered exchange List.mem_cons_self
    have known : exchange.recorded? = some ⟨some exchange.announcement.scope,
        some exchange.announcement.purpose, exchange.low, exchange.high, value.number⟩ := by
      simp only [recorded?, answer]
    rw [List.filterMap_cons_some known, List.map_cons, List.map_cons,
      ih fun other member => answered other (List.mem_cons_of_mem _ member)]
    rfl

/-- The script of the numbers of a trace. -/
def Trace.script (trace : Trace) (expectation : Expectation := .anything) : Scripted where
  values := trace.values.map Value.int
  expectation := expectation

/-- The visit that replays a visit on a script. -/
def Visit.replayed {σ α : Type} (visit : Visit σ α) (script : Scripted) : Visit Scripted α where
  outcome := visit.outcome.mapError (.replayed script.values.length)
  events := visit.events.map (Event.replayed script.values.length)
  source :=
    { script with
      calls := script.calls ++ visit.exchanges.map Exchange.range
      position := script.position + visit.draws.length }

namespace Visit

variable {σ α : Type} (visit : Visit σ α) (script : Scripted)

theorem replayed_precededBy_of_none {event : Event} (silent : event.exchange? = none) :
    (visit.precededBy event).replayed script = (visit.replayed script).precededBy event := by
  cases event with
  | emitted literal => rfl
  | told notice => rfl
  | asked exchange => cases silent

/-- The first value of a visit is the first one that its replay takes from the script. -/
theorem replayed_precededBy_asked (announcement : Announcement) (low high : Int) (value : Value) :
    (visit.precededBy (.asked ⟨announcement, low, high, .ok value⟩)).replayed script =
      (visit.replayed (script.answered low high)).precededBy
        (.asked ⟨announcement, low, high, .ok (.int value.number)⟩) := by
  have calls : script.calls ++ (low, high) :: visit.exchanges.map Exchange.range =
      script.calls ++ [(low, high)] ++ visit.exchanges.map Exchange.range :=
    List.append_cons _ _ _
  have position : script.position + (visit.draws.length + 1) =
      script.position + 1 + visit.draws.length := by omega
  change Visit.mk _ _ { script with
    calls := script.calls ++ (low, high) :: visit.exchanges.map Exchange.range
    position := script.position + (visit.draws.length + 1) } = _
  rw [calls, position]
  rfl

theorem outcome_replayed : (visit.replayed script).outcome =
    visit.outcome.mapError (.replayed script.values.length) := rfl

theorem emitted_replayed : (visit.replayed script).emitted = visit.emitted := by
  simp only [emitted, replayed, List.filterMap_map]
  congr 1
  funext event
  cases event <;> rfl

theorem exchanges_replayed : (visit.replayed script).exchanges =
    visit.exchanges.map (Exchange.replayed script.values.length) := by
  simp only [exchanges, replayed, List.filterMap_map, List.map_filterMap]
  congr 1
  funext event
  cases event <;> rfl

/-- A replay leaves the draws that it was made from. -/
theorem draws_replayed : (visit.replayed script).draws = visit.draws := by
  rw [draws, exchanges_replayed, List.filterMap_map, draws]
  congr 1
  funext exchange
  obtain ⟨announcement, low, high, fault | value⟩ := exchange <;> rfl

/-- A replay writes what the visit wrote. -/
theorem written_replayed (root : Text) :
    (visit.replayed script).written root = visit.written root := by
  simp only [written, text, emitted_replayed, draws_replayed]

theorem whole_replayed : ∀ exchange ∈ (visit.replayed script).exchanges, exchange.isWhole := by
  rw [exchanges_replayed]
  intro exchange member
  obtain ⟨⟨announcement, low, high, fault | value⟩, -, rfl⟩ := List.mem_map.mp member <;> rfl

end Visit

namespace Dialogue

variable {σ α : Type}

/-- A script with the numbers of a run replays it, if it agrees to the requests of the run. -/
theorem run_replay {source : Source σ} {dialogue : Dialogue α} {state : σ} {script : Scripted}
    (whole : ∀ exchange ∈ (dialogue.run source state).exchanges, exchange.isWhole)
    (once : script.repeats = false)
    (left : script.remaining =
      (dialogue.run source state).draws.map fun step => Value.int step.value)
    (admits : ∀ index range,
      ((dialogue.run source state).exchanges.map Exchange.range)[index]? = some range →
        Scripted.Admits script.expectation (script.calls.length + index) range) :
    dialogue.run Scripted.source script = (dialogue.run source state).replayed script := by
  induction dialogue generalizing state script with
  | finish result =>
    change _ = Visit.mk _ _ { script with calls := script.calls ++ [] }
    rw [List.append_nil]
    rfl
  | fail fault =>
    change _ = Visit.mk _ _ { script with calls := script.calls ++ [] }
    rw [List.append_nil]
    rfl
  | emit literal rest ih =>
    change (rest.run _ script).precededBy _ = ((rest.run source state).precededBy _).replayed script
    rw [ih whole once left admits, Visit.replayed_precededBy_of_none _ _ rfl]
  | tell notice rest ih =>
    change (rest.run _ script).precededBy _ = ((rest.run source state).precededBy _).replayed script
    rw [ih whole once left admits, Visit.replayed_precededBy_of_none _ _ rfl]
  | ask announcement low high next ih =>
    rcases run_ask_cases source announcement low high next state with
      ⟨fault, after, drawn, plain⟩ | ⟨value, after, drawn, outside, plain⟩ |
      ⟨value, after, drawn, inside, plain⟩
    · rw [plain] at left admits ⊢
      have answered := Scripted.draw_of_remaining_nil once (admits 0 (low, high) rfl) left
      have replay : (ask announcement low high next).run Scripted.source script = _ :=
        run_ask_refused answered
      rw [replay]
      rfl
    · rw [plain] at whole left admits ⊢
      have answered := Scripted.draw_of_remaining_cons once (admits 0 (low, high) rfl) left
      have beyond := (Value.inRange_number (whole _ List.mem_cons_self) low high).trans outside
      have replay : (ask announcement low high next).run Scripted.source script = _ :=
        run_ask_rejected answered beyond
      rw [replay]
      rfl
    · rw [plain] at whole left admits ⊢
      have answered := Scripted.draw_of_remaining_cons once (admits 0 (low, high) rfl) left
      have within := (Value.inRange_number (Value.whole_of_inRange inside) low high).trans inside
      have replay : (ask announcement low high next).run Scripted.source script = _ :=
        run_ask_accepted answered within
      rw [Visit.exchanges_precededBy] at whole admits
      rw [Visit.draws_precededBy] at left
      have later : (next value.number).run Scripted.source (script.answered low high) =
          ((next value.number).run source after).replayed (script.answered low high) := by
        refine ih value.number ?_ once (Scripted.remaining_answered low high left) ?_
        · exact fun exchange member => whole exchange (List.mem_append_right _ member)
        · intro index range asked
          -- The script has taken one request more, and the run has one less to come.
          rw [Scripted.length_calls_answered, Nat.add_assoc, Nat.add_comm 1 index]
          exact admits (index + 1) range asked
      rw [replay, Value.number_int, later, Visit.replayed_precededBy_asked]

end Dialogue

namespace Tree

variable {σ : Type} {limit : Option Int} {source : Source σ} {tree : Tree} {state : σ}
  {trace : Trace} {expectation : Expectation}

/-- The script of a trace replays the run that the trace was made of. -/
theorem generate_script
    (whole : ∀ exchange ∈ (tree.generate limit source state).exchanges, exchange.isWhole)
    (made : trace.draws = (tree.generate limit source state).draws)
    (admits : ∀ index range,
      ((tree.generate limit source state).exchanges.map Exchange.range)[index]? = some range →
        Scripted.Admits expectation index range) :
    tree.generate limit Scripted.source (trace.script expectation) =
      (tree.generate limit source state).replayed (trace.script expectation) := by
  rw [generate_eq_run] at whole made admits
  rw [generate_eq_run, generate_eq_run]
  refine Dialogue.run_replay whole rfl ?_ ?_
  · rw [← made]
    exact List.map_map
  · intro index range asked
    change Scripted.Admits expectation (0 + index) range
    rw [Nat.zero_add]
    exact admits index range asked

/-- A run that ends well asked for the ranges that are recorded of it, and for no other. -/
theorem ranges_of_ok {result : Unit}
    (returned : (tree.generate limit source state).outcome = .ok result) :
    (tree.generate limit source state).exchanges.map Exchange.range =
      (tree.generate limit source state).draws.map fun step => (step.low, step.high) := by
  refine (Exchange.ranges_recorded fun exchange member => ?_).symm
  rw [generate_eq_run] at returned member
  obtain ⟨value, answer, -⟩ := Dialogue.inRange_of_run returned exchange member
  exact ⟨value, answer⟩

section Again

variable {script : Scripted}
  (replay : tree.generate limit Scripted.source script =
    (tree.generate limit source state).replayed script)
include replay

private theorem whole_of_replay :
    ∀ exchange ∈ (tree.generate limit Scripted.source script).exchanges, exchange.isWhole := by
  rw [replay]
  exact Visit.whole_replayed _ _

private theorem render_of_replay
    (returned : (tree.generate limit source state).outcome = .ok ()) :
    tree.render limit Scripted.source script = .ok (tree.generate limit source state).text := by
  rw [render, replay, Visit.outcome_replayed, returned, Visit.text, Visit.emitted_replayed]
  rfl

/-- A replay of a run that ended well writes the same text and the same draws. -/
private theorem trace_of_replay
    (returned : (tree.generate limit source state).outcome = .ok ()) :
    tree.trace limit Scripted.source script =
      .ok ((tree.generate limit source state).written tree.name) := by
  have retold : tree.trace limit Scripted.source script =
      (tree.generate limit Scripted.source script).outcome.map fun _ =>
        (tree.generate limit Scripted.source script).written tree.name :=
    trace_eq_of_whole (whole_of_replay replay)
  rw [retold, replay, Visit.outcome_replayed, returned, Visit.written_replayed]
  rfl

/-- A recorder that listens to a replay ends with the draws of the run that is replayed. -/
private theorem recorded_of_replay :
    (tree.generate limit (Traced.source Scripted.source)
      (Traced.start tree.name script)).source.trace =
        (Traced.start tree.name script).trace.append (tree.generate limit source state).draws := by
  have retold : tree.generate limit (Traced.source Scripted.source) (Traced.start tree.name script) =
      ⟨_, _, (Traced.start tree.name script).after (tree.generate limit Scripted.source script)⟩ :=
    generate_traced (whole_of_replay replay)
  rw [retold, replay]
  simp only [Traced.after, Visit.draws_replayed]

end Again

/-- A recorded run is replayed by the script of its trace. If it ended well, the script may expect
the ranges of the trace: they are what the replay asks for, and the text and the trace come out the
same. If it failed, and the source gives whole numbers only, the replay fails at the same point. -/
theorem replay_of_recorded (limit : Option Int)
    (draw : (low high : Int) → σ → Except DrawFault Value × σ) (tree : Tree) (state : σ) :
    (∀ text trace, tree.trace limit (.ofDraw draw) state = .ok (text, trace) →
      ∃ expectation, Expectation.ofValue trace.expected = .ok expectation ∧
        let script := trace.script expectation
        let calls := (tree.generate limit Scripted.source script).source.calls
        tree.render limit Scripted.source script = .ok text ∧
          calls = trace.ranges ∧ calls.length = trace.draws.length ∧
          tree.trace limit Scripted.source script = .ok (text, trace)) ∧
    let recorded := tree.generate limit (Traced.source (.ofDraw draw)) (Traced.start tree.name state)
    let script := recorded.source.trace.script
    let replay := tree.generate limit Scripted.source script
    let again := tree.generate limit (Traced.source Scripted.source) (Traced.start tree.name script)
    ∀ fault, recorded.outcome = .error fault →
      (∀ exchange ∈ (tree.generate limit (.ofDraw draw) state).exchanges, exchange.isWhole) →
      replay.outcome = .error (fault.replayed script.values.length) ∧
        (∀ reason, fault = .scope reason → replay.outcome = .error (.scope reason)) ∧
        (∀ sink : Sink, sink.append replay.emitted = sink.append recorded.emitted) ∧
        replay.source.calls = recorded.exchanges.map Exchange.range ∧
        again.source.trace = recorded.source.trace := by
  constructor
  · intro text trace traced
    obtain ⟨returned, whole, written⟩ := ran_of_trace traced
    cases written
    have asked := ranges_of_ok returned
    refine ⟨_, Expectation.ofValue_list_pair _, ?_⟩
    intro script calls
    have replay : tree.generate limit Scripted.source script =
        (tree.generate limit (.ofDraw draw) state).replayed script :=
      generate_script whole rfl fun index range present => by
        rw [asked] at present
        exact Scripted.admits_ofRanges present
    have taken : calls = (tree.generate limit (.ofDraw draw) state).draws.map
        fun step => (step.low, step.high) := by
      simp only [calls]
      rw [replay, ← asked]
      rfl
    refine ⟨render_of_replay replay returned, taken, ?_, trace_of_replay replay returned⟩
    rw [taken, List.length_map]
  · intro recorded script replay again fault failed whole
    have same : recorded = ⟨_, _, (Traced.start tree.name state).after _⟩ := generate_traced whole
    have replayed : replay = (tree.generate limit (.ofDraw draw) state).replayed script :=
      generate_script whole (congrArg (·.source.trace.draws) same) fun _ _ _ => trivial
    have ended : replay.outcome = .error (fault.replayed script.values.length) := by
      have alone : (tree.generate limit (.ofDraw draw) state).outcome = .error fault := by
        rw [same] at failed
        exact failed
      rw [replayed, Visit.outcome_replayed, alone]
      rfl
    refine ⟨ended, ?_, ?_, ?_, ?_⟩
    · rintro reason rfl
      exact ended
    · intro sink
      rw [replayed, Visit.emitted_replayed, same]
      rfl
    · rw [replayed, same]
      rfl
    · rw [same]
      exact recorded_of_replay replayed

/-- A vote that ends well is replayed under the ranges of its trace. One that a wrong number ends
is replayed up to that number. -/
theorem replay_of_recorded_vote :
    let trace : Trace := ⟨"vote", some "noyes", [⟨some "vote", some "count", 0, 2, 2⟩,
      ⟨some "vote", some "literal", 0, 1, 1⟩, ⟨some "vote", some "literal", 0, 1, 0⟩]⟩
    let wrong : Scripted := { values := [.int 2, .bool true, .int 7] }
    let recorded := vote.generate none (Traced.source Scripted.source) (Traced.start "vote" wrong)
    let replay := vote.generate none Scripted.source recorded.source.trace.script
    (∃ expectation, Expectation.ofValue trace.expected = .ok expectation ∧
      let script := trace.script expectation
      let calls := (vote.generate none Scripted.source script).source.calls
      vote.render none Scripted.source script = .ok "noyes" ∧
        calls = trace.ranges ∧ calls.length = trace.draws.length ∧
        vote.trace none Scripted.source script = .ok ("noyes", trace)) ∧
      recorded.outcome = .error (.outOfRange "vote" 0 1 (.int 7)) ∧
      replay.outcome = .error (.outOfRange "vote" 0 1 (.int 7)) ∧
      (∀ sink : Sink, sink.append replay.emitted = sink.append recorded.emitted) ∧
      replay.source.calls = recorded.exchanges.map Exchange.range := by
  have traced := replay_of_recorded none Scripted.draw vote { values := [.int 2, .bool true, .int 0] }
  have failed := (replay_of_recorded none Scripted.draw vote
    { values := [.int 2, .bool true, .int 7] }).2 (.outOfRange "vote" 0 1 (.int 7)) rfl (by decide)
  refine ⟨traced.1 _ _ rfl, rfl, failed.1, failed.2.2.1, failed.2.2.2.1⟩

end Tree

end PatternForge
