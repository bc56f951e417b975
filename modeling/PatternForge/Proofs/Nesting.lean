import PatternForge.Proofs.Discipline
import PatternForge.Proofs.Labels
import PatternForge.Proofs.Reseeding

/-! # Recorders behind recorders

A recording source keeps to itself what it hears. So of two that stand one behind the other only the
outer one learns what a draw is for. The inner one records the same numbers for the same ranges, in
the same order, but none of them under a label, unless the first under one that was left over from
before the run (`Dialogue.run_unheard`).
-/

namespace PatternForge

namespace RecordedDraw

/-- The draw as it is recorded under another label. -/
def under (label : Option Announcement) (draw : RecordedDraw) : RecordedDraw :=
  { draw with scope := label.map (·.scope), purpose := label.map (·.purpose) }

/-- The draws as they are recorded by a source that hears no announcement: the first under what was
announced before, all others under nothing. -/
def unheard (pending : Option Announcement) : List RecordedDraw → List RecordedDraw
  | [] => []
  | draw :: rest => draw.under pending :: rest.map (under none)

@[simp] theorem under_under (first second : Option Announcement) (draw : RecordedDraw) :
    (draw.under first).under second = draw.under second := rfl

theorem unheard_none (draws : List RecordedDraw) : unheard none draws = draws.map (under none) := by
  cases draws <;> rfl

/-- But for the labels nothing is lost. -/
theorem map_under_unheard (pending label : Option Announcement) (draws : List RecordedDraw) :
    (unheard pending draws).map (under label) = draws.map (under label) := by
  cases draws with
  | nil => rfl
  | cons draw rest =>
    rw [unheard, List.map_cons, List.map_cons, List.map_map, under_under]
    rfl

/-- Labelled draws are told apart from unheard ones by the second of them, or by the label of the
only one. -/
theorem unheard_eq_self_iff {pending : Option Announcement} {draws : List RecordedDraw}
    (labelled : ∀ draw ∈ draws, draw.scope ≠ none) :
    unheard pending draws = draws ↔
      draws.length ≤ 1 ∧ ∀ draw ∈ draws, draw.under pending = draw := by
  cases draws with
  | nil => exact iff_of_true rfl ⟨Nat.zero_le 1, nofun⟩
  | cons draw rest =>
    rw [unheard, List.cons.injEq]
    cases rest with
    | nil => simp
    | cons second others =>
      have named : second.scope ≠ none := labelled second (.tail _ (.head _))
      constructor
      · rintro ⟨-, same⟩
        have unnamed : second.under none = second := (List.cons.inj same).1
        exact absurd (congrArg RecordedDraw.scope unnamed).symm named
      · rintro ⟨few, -⟩
        exact absurd few (by simp)

/-- A draw that is not labelled is for no purpose. -/
theorem countP_isFor_map_under_none (purpose : Purpose) (draws : List RecordedDraw) :
    (draws.map (under none)).countP (isFor purpose) = 0 := by
  rw [List.countP_map]
  exact List.countP_eq_zero.mpr fun draw _ => Bool.false_ne_true

end RecordedDraw

theorem Trace.countOf_append (trace : Trace) (draws : List RecordedDraw) (purpose : Purpose) :
    (trace.append draws).countOf purpose =
      trace.countOf purpose + draws.countP (RecordedDraw.isFor purpose) := by
  rw [countOf_eq, countOf_eq, append, List.countP_append]

/-- What is recorded of a visit is labelled. -/
theorem Visit.scope_of_mem_draws {σ α : Type} {visit : Visit σ α} {draw : RecordedDraw}
    (recorded : draw ∈ visit.draws) : draw.scope ≠ none := by
  obtain ⟨⟨announcement, low, high, answer⟩, -, made⟩ := List.mem_filterMap.mp recorded
  cases answer with
  | error fault => cases made
  | ok value =>
    cases made
    exact Option.some_ne_none _

namespace Traced

variable {σ α : Type}

/-- The state of a recording source after a visit of which it heard nothing, given the visit that
its source would have had by itself. -/
def afterUnheard (start : Traced σ) (visit : Visit σ α) : Traced σ :=
  { start.after visit with
    trace := start.trace.append (RecordedDraw.unheard start.pending visit.draws) }

variable (start : Traced σ)

theorem afterUnheard_of_silent {visit : Visit σ α} (silent : visit.exchanges = []) :
    start.afterUnheard visit = { start with inner := visit.source } := by
  have none : visit.draws = [] := by rw [Visit.draws, silent, List.filterMap_nil]
  rw [afterUnheard, start.after_of_silent silent, none, RecordedDraw.unheard, Trace.append_nil]

theorem afterUnheard_precededBy_of_none (visit : Visit σ α) {event : Event}
    (silent : event.exchange? = none) :
    start.afterUnheard (visit.precededBy event) = start.afterUnheard visit := by
  have same : (visit.precededBy event).draws = visit.draws := by
    rw [Visit.draws, Visit.exchanges_precededBy, silent]
    rfl
  rw [afterUnheard, start.after_precededBy_of_none visit silent, same, afterUnheard]

/-- The first value of a visit is recorded under what was announced before. -/
theorem afterUnheard_precededBy_asked {exchange : Exchange} {draw : RecordedDraw}
    (recorded : exchange.recorded? = some draw) (visit : Visit σ α) (inner : σ) :
    start.afterUnheard (visit.precededBy (.asked exchange)) =
      Traced.afterUnheard ⟨inner, start.trace.push (draw.under start.pending), none⟩ visit := by
  have draws : (visit.precededBy (.asked exchange)).draws = draw :: visit.draws := by
    rw [Visit.draws_precededBy, recorded]
    rfl
  rw [afterUnheard, start.after_precededBy_asked exchange visit inner, draws, afterUnheard,
    RecordedDraw.unheard, ← RecordedDraw.unheard_none, Trace.push, Trace.append_append]
  rfl

/-- A request that is refused uses up what was announced before, and leaves no draw. -/
theorem afterUnheard_asked_of_none {exchange : Exchange} (lost : exchange.recorded? = none)
    (outcome : Except GenerationFault α) (inner : σ) :
    start.afterUnheard ⟨outcome, [.asked exchange], inner⟩ =
      { start with inner, pending := none } := by
  have none : Visit.draws ⟨outcome, [.asked exchange], inner⟩ = [] :=
    List.filterMap_cons_none lost
  rw [afterUnheard, start.after_asked, none, RecordedDraw.unheard, Trace.append_nil]

/-- A whole number is recorded under whatever was announced. -/
theorem draw_of_pending {source : Source σ} {low high : Int} {value : Value} {number : Int}
    {after : σ} (drawn : source.draw low high start.inner = (.ok value, after))
    (is : value.toInt? = some number) :
    draw source low high start = (.ok value,
      { inner := after
        trace := start.trace.push
          ⟨start.pending.map (·.scope), start.pending.map (·.purpose), low, high, number⟩ }) := by
  rw [draw, drawn]
  dsimp only
  rw [record_eq, Field.readInteger_of_toInt? is]
  rfl

end Traced

namespace Dialogue

variable {σ α : Type} {draw : (low high : Int) → σ → Except DrawFault Value × σ}

/-- A run through a recording source that hears nothing of it is the run without it, and leaves one
draw for each value. -/
theorem run_unheard {dialogue : Dialogue α} {start : Traced σ}
    (whole : ∀ exchange ∈ (dialogue.run (.ofDraw draw) start.inner).exchanges, exchange.isWhole) :
    dialogue.run (.ofDraw (Traced.draw (.ofDraw draw))) start =
      { outcome := (dialogue.run (.ofDraw draw) start.inner).outcome
        events := (dialogue.run (.ofDraw draw) start.inner).events
        source := start.afterUnheard (dialogue.run (.ofDraw draw) start.inner) } := by
  induction dialogue generalizing start with
  | finish result =>
    rw [start.afterUnheard_of_silent rfl]
    rfl
  | fail fault =>
    rw [start.afterUnheard_of_silent rfl]
    rfl
  | emit literal rest ih =>
    change (rest.run _ start).precededBy _ =
      ⟨_, _, start.afterUnheard ((rest.run _ _).precededBy _)⟩
    rw [ih whole, Traced.afterUnheard_precededBy_of_none _ _ rfl]
    rfl
  | tell notice rest ih =>
    change (rest.run _ start).precededBy _ =
      ⟨_, _, start.afterUnheard ((rest.run _ _).precededBy _)⟩
    rw [ih whole, Traced.afterUnheard_precededBy_of_none _ _ rfl]
    rfl
  | ask announcement low high next ih =>
    rcases run_ask_cases (.ofDraw draw) announcement low high next start.inner with
      ⟨fault, after, drawn, plain⟩ | ⟨value, after, drawn, outside, plain⟩ |
      ⟨value, after, drawn, inside, plain⟩
    · have unheard : (ask announcement low high next).run
          (.ofDraw (Traced.draw (.ofDraw draw))) start = _ :=
        run_ask_refused (Traced.draw_of_refused drawn)
      rw [unheard, plain, start.afterUnheard_asked_of_none rfl]
      rfl
    · rw [plain] at whole ⊢
      obtain ⟨number, is⟩ := Option.isSome_iff_exists.mp (whole _ List.mem_cons_self)
      have unheard : (ask announcement low high next).run
          (.ofDraw (Traced.draw (.ofDraw draw))) start = _ :=
        run_ask_rejected (start.draw_of_pending drawn is) outside
      rw [unheard]
      refine congrArg (Visit.mk _ _) ?_
      exact ((start.afterUnheard_precededBy_asked (Exchange.recorded?_of_toInt? is announcement low
        high) ⟨_, [], after⟩ after).trans (Traced.afterUnheard_of_silent _ rfl)).symm
    · rw [plain] at whole ⊢
      obtain ⟨number, is⟩ := Option.isSome_iff_exists.mp (Value.whole_of_inRange inside)
      have unheard : (ask announcement low high next).run
          (.ofDraw (Traced.draw (.ofDraw draw))) start = _ :=
        run_ask_accepted (start.draw_of_pending drawn is) inside
      rw [Visit.exchanges_precededBy] at whole
      rw [unheard, start.afterUnheard_precededBy_asked (Exchange.recorded?_of_toInt? is announcement
        low high) _ after]
      exact congrArg (Visit.precededBy _)
        (ih _ fun exchange member => whole exchange (List.mem_append_right _ member))

end Dialogue

namespace Tree

variable {σ : Type}

/-- A run through two recording sources is the run by itself. The outer one has its draws as the
scopes announced them, the inner one as it could not hear. -/
theorem generate_nested {limit : Option Int} {tree : Tree}
    {draw : (low high : Int) → σ → Except DrawFault Value × σ} {start : Traced (Traced σ)}
    (whole : ∀ exchange ∈ (tree.generate limit (.ofDraw draw) start.inner.inner).exchanges,
      exchange.isWhole) :
    let plain := tree.generate limit (.ofDraw draw) start.inner.inner
    tree.generate limit (Traced.source (Traced.source (.ofDraw draw))) start =
      { outcome := plain.outcome
        events := plain.events
        source := start.after { plain with source := start.inner.afterUnheard plain } } := by
  intro plain
  have unheard : tree.generate limit (.ofDraw (Traced.draw (.ofDraw draw))) start.inner =
      ⟨plain.outcome, plain.events, start.inner.afterUnheard plain⟩ := by
    simp only [plain, generate_eq_run] at whole ⊢
    exact Dialogue.run_unheard whole
  -- The outer one passes requests on and nothing else, so the inner one may as well be deaf.
  change tree.generate limit (Traced.source (.ofDraw (Traced.draw (.ofDraw draw)))) start = _
  rw [generate_traced (by rw [unheard]; exact whole), unheard]

/-- The same of a recorder on a bench and a recording source in front of it. -/
theorem generateTraced_recorder {bench : Bench} {recorder behind : SourceId} {number : TraceId}
    {written : Trace} {pending : Option Announcement}
    (stands : bench.source? recorder = some (.recording behind number pending))
    (known : bench.trace? number = some written) (below : behind < recorder)
    (plain : bench.Plain behind) {limit : Option Int} {tree : Tree}
    (whole : ∀ exchange ∈ (tree.generate limit (Bench.source behind) bench).exchanges,
      exchange.isWhole) :
    let alone := tree.generate limit (Bench.source behind) bench
    let traced := tree.generate limit (Traced.source (Bench.source recorder))
      (Traced.start tree.name bench)
    traced.outcome = alone.outcome ∧ traced.events = alone.events ∧
      traced.source.trace = { root := tree.name, draws := alone.draws } ∧
      traced.source.inner.trace? number =
        some (written.append (RecordedDraw.unheard pending alone.draws)) := by
  rw [generate_of_plain plain] at whole ⊢
  intro alone traced
  let state : Traced Bench := ⟨bench, written, pending⟩
  have nested : tree.generate limit (Traced.source (Traced.source (.ofDraw (Bench.draw behind))))
      (Traced.start tree.name state) = _ := generate_nested whole
  obtain ⟨outcome, events, trace, seats⟩ :=
    (Bench.alike_of_below below).generateTraced limit tree (Bench.seats_self stands known plain)
  have same : (state.inner = state.inner ∧ state.inner.Plain behind) ∧ state.trace = state.trace ∧
      state.pending = state.pending := ⟨⟨rfl, plain⟩, rfl, rfl⟩
  obtain ⟨sameOutcome, sameEvents, sameTrace, -, same, -⟩ :=
    (Bench.alike_ofDraw behind).traced.generateTraced limit tree same
  rw [nested] at sameOutcome sameEvents same sameTrace
  refine ⟨outcome.symm.trans sameOutcome, events.symm.trans sameEvents, trace.symm.trans sameTrace,
    ?_⟩
  rw [show traced.source.inner = _ from seats.made, Bench.trace?_withRecorder seats.kept, same]
  rfl

/-- Two recording sources, one behind the other, change nothing about a run whose source gives whole
numbers only. Both gain one draw for each of them, with the same ranges in the same order. The outer
one has the draws as they were announced; the inner one has no label for them, except that one which
was left over goes to the first. So they have the same draws only if there is one at most, and its
label was left over; with nothing left over the inner one has gained no draw for any purpose. A
recorder on a bench fares the same when a run with it is traced. -/
theorem draws_of_nested (limit : Option Int)
    (draw : (low high : Int) → σ → Except DrawFault Value × σ) (tree : Tree)
    (start : Traced (Traced σ))
    (whole : ∀ exchange ∈ (tree.generate limit (.ofDraw draw) start.inner.inner).exchanges,
      exchange.isWhole) :
    let plain := tree.generate limit (.ofDraw draw) start.inner.inner
    let nested := tree.generate limit (Traced.source (Traced.source (.ofDraw draw))) start
    let unheard := RecordedDraw.unheard start.inner.pending plain.draws
    nested.outcome = plain.outcome ∧ nested.events = plain.events ∧
      nested.source.inner.inner = plain.source ∧
      nested.source.trace = start.trace.append plain.draws ∧
      nested.source.inner.trace = start.inner.trace.append unheard ∧
      unheard.map (RecordedDraw.under none) = plain.draws.map (RecordedDraw.under none) ∧
      (unheard = plain.draws ↔ plain.draws.length ≤ 1 ∧
        ∀ step ∈ plain.draws, step.under start.inner.pending = step) ∧
      (∀ purpose, nested.source.trace.countOf purpose =
        start.trace.countOf purpose + plain.draws.countP (RecordedDraw.isFor purpose)) ∧
      (start.inner.pending = none → ∀ purpose,
        nested.source.inner.trace.countOf purpose = start.inner.trace.countOf purpose) ∧
      ∀ (bench : Bench) (recorder behind : SourceId) (number : TraceId) (written : Trace)
        (pending : Option Announcement),
        bench.source? recorder = some (.recording behind number pending) →
          bench.trace? number = some written → behind < recorder → bench.Plain behind →
            let alone := tree.generate limit (Bench.source behind) bench
            let traced := tree.generate limit (Traced.source (Bench.source recorder))
              (Traced.start tree.name bench)
            (∀ exchange ∈ alone.exchanges, exchange.isWhole) →
              traced.outcome = alone.outcome ∧ traced.events = alone.events ∧
                traced.source.trace = { root := tree.name, draws := alone.draws } ∧
                traced.source.inner.trace? number =
                  some (written.append (RecordedDraw.unheard pending alone.draws)) := by
  intro plain nested unheard
  have same : nested = ⟨plain.outcome, plain.events,
      start.after { plain with source := start.inner.afterUnheard plain }⟩ := generate_nested whole
  have outer : nested.source.trace = start.trace.append plain.draws :=
    congrArg (fun visit => visit.source.trace) same
  have inner : nested.source.inner.trace = start.inner.trace.append unheard :=
    congrArg (fun visit => visit.source.inner.trace) same
  refine ⟨congrArg Visit.outcome same, congrArg Visit.events same,
    congrArg (fun visit => visit.source.inner.inner) same, outer, inner, ?_, ?_, ?_, ?_, ?_⟩
  · exact RecordedDraw.map_under_unheard _ _ _
  · exact RecordedDraw.unheard_eq_self_iff fun step recorded => Visit.scope_of_mem_draws recorded
  · intro purpose
    rw [outer, Trace.countOf_append]
  · intro nothing purpose
    have unlabelled : unheard = plain.draws.map (RecordedDraw.under none) := by
      simp only [unheard, nothing, RecordedDraw.unheard_none]
    rw [inner, Trace.countOf_append, unlabelled, RecordedDraw.countP_isFor_map_under_none,
      Nat.add_zero]
  · intro bench recorder behind number written pending stands known below silent alone traced whole
    exact generateTraced_recorder stands known below silent whole

/-- A vote of one answer, with a label left over for the inner of two recording sources. -/
theorem draws_of_nested_vote :
    let script : Scripted := { values := [.int 1, .bool true] }
    let start : Traced (Traced Scripted) :=
      Traced.start "vote" { Traced.start "poll" script with pending := some ⟨"poll", "turn"⟩ }
    let plain := vote.generate none Scripted.source script
    let nested := vote.generate none (Traced.source (Traced.source Scripted.source)) start
    (∀ exchange ∈ plain.exchanges, exchange.isWhole) ∧ nested.outcome = plain.outcome ∧
      nested.source.trace.draws = [⟨some "vote", some "count", 0, 2, 1⟩,
        ⟨some "vote", some "literal", 0, 1, 1⟩] ∧
      nested.source.inner.trace.draws = [⟨some "poll", some "turn", 0, 2, 1⟩,
        ⟨none, none, 0, 1, 1⟩] ∧
      (∀ purpose, nested.source.trace.countOf purpose =
        start.trace.countOf purpose + plain.draws.countP (RecordedDraw.isFor purpose)) := by
  intro script start plain nested
  have whole : ∀ exchange ∈ plain.exchanges, exchange.isWhole := by decide
  obtain ⟨outcome, -, -, outer, inner, -, -, counts, -⟩ :=
    draws_of_nested none Scripted.draw vote start whole
  refine ⟨whole, outcome, ?_, ?_, counts⟩
  · rw [show nested.source.trace = _ from outer]
    decide
  · rw [show nested.source.inner.trace = _ from inner]
    decide

/-- The same vote with nothing left over: the outer recording source has a draw for the count and
one for a literal, the inner one has two for nobody. -/
theorem nested_draws_differ :
    let script : Scripted := { values := [.int 1, .int 0] }
    let nested := vote.generate none (Traced.source (Traced.source Scripted.source))
      (Traced.start "vote" (Traced.start "vote" script))
    let outer := nested.source.trace
    let inner := nested.source.inner.trace
    (∀ exchange ∈ nested.exchanges, exchange.isWhole) ∧ nested.outcome = .ok () ∧
      outer.draws = [⟨some "vote", some "count", 0, 2, 1⟩, ⟨some "vote", some "literal", 0, 1, 0⟩] ∧
      inner.draws = [⟨none, none, 0, 2, 1⟩, ⟨none, none, 0, 1, 0⟩] ∧ inner.draws ≠ outer.draws ∧
      (outer.countOf .count, outer.countOf .literal) = (1, 1) ∧
      (inner.countOf .count, inner.countOf .literal) = (0, 0) := by
  refine ⟨by decide, rfl, by decide, by decide, by decide, by decide, by decide⟩

end Tree

end PatternForge
