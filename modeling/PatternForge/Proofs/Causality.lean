import PatternForge.Proofs.Dialogue
import PatternForge.Sink
import PatternForge.Source.Scripted

/-! # Causality

What a run does before a request depends on the answers before it only. Runs on two scripts that
agree for a while are the same for as long (`Dialogue.run_of_agree`), and a run on a script that is
too short ends at the first request that finds no value, with what was emitted until then
(`Dialogue.run_once`).
-/

namespace PatternForge

/-- A request, and what the visit had emitted when it was made. -/
structure Request where
  /-- The literals emitted before. -/
  emitted : List Text
  announcement : Announcement
  low : Int
  high : Int
deriving DecidableEq

namespace Request

/-- The request with a literal emitted before all others. -/
def after (literal : Text) (request : Request) : Request :=
  { request with emitted := literal :: request.emitted }

def range (request : Request) : Int × Int :=
  (request.low, request.high)

def ofEvents : List Event → List Request
  | [] => []
  | .emitted literal :: rest => (ofEvents rest).map (after literal)
  | .told _ :: rest => ofEvents rest
  | .asked exchange :: rest =>
    ⟨[], exchange.announcement, exchange.low, exchange.high⟩ :: ofEvents rest

/-- The requests are the exchanges, without the answers. -/
theorem map_range_ofEvents (events : List Event) :
    (ofEvents events).map range = (events.filterMap Event.exchange?).map Exchange.range := by
  induction events with
  | nil => rfl
  | cons event rest ih =>
    cases event with
    | emitted literal => exact List.map_map.trans ih
    | told notice => exact ih
    | asked exchange => exact congrArg (List.cons exchange.range) ih

/-- What was emitted before a request is a beginning of all that is emitted. -/
theorem emitted_prefix_of_mem_ofEvents {request : Request} {events : List Event}
    (member : request ∈ ofEvents events) :
    request.emitted <+: events.filterMap Event.literal? := by
  induction events generalizing request with
  | nil => cases member
  | cons event rest ih =>
    cases event with
    | emitted literal =>
      obtain ⟨later, listed, rfl⟩ := List.mem_map.mp member
      exact (List.prefix_cons_inj literal).mpr (ih listed)
    | told notice => exact ih member
    | asked exchange =>
      rcases List.mem_cons.mp member with rfl | listed
      · exact List.nil_prefix
      · exact ih listed

end Request

namespace Visit

variable {σ α : Type}

/-- The requests of a visit, each with what was emitted before it. -/
def requests (visit : Visit σ α) : List Request :=
  Request.ofEvents visit.events

theorem map_range_requests (visit : Visit σ α) :
    visit.requests.map Request.range = visit.exchanges.map Exchange.range :=
  Request.map_range_ofEvents visit.events

theorem emitted_prefix_of_mem_requests {visit : Visit σ α} {request : Request}
    (member : request ∈ visit.requests) : request.emitted <+: visit.emitted :=
  Request.emitted_prefix_of_mem_ofEvents member

/-- Two visits do the same up to the request that comes after so many others: they end before it and
are the same altogether, or they both come to it. -/
inductive SameThrough (count : Nat) (first second : Visit σ α) : Prop where
  | ended (few : first.requests.length ≤ count) (outcome : first.outcome = second.outcome)
      (events : first.events = second.events)
  | reached (one : count < first.requests.length) (other : count < second.requests.length)
      (same : first.requests.take (count + 1) = second.requests.take (count + 1))

namespace SameThrough

variable {count : Nat} {first second : Visit σ α}

theorem precededBy_emitted (same : SameThrough count first second) (literal : Text) :
    SameThrough count (first.precededBy (.emitted literal))
      (second.precededBy (.emitted literal)) := by
  have requests (visit : Visit σ α) : (visit.precededBy (.emitted literal)).requests =
      visit.requests.map (Request.after literal) := rfl
  cases same with
  | ended few outcome events =>
    refine .ended ?_ outcome (congrArg (List.cons _) events)
    rwa [requests, List.length_map]
  | reached one other same =>
    refine .reached ?_ ?_ ?_
    · rwa [requests, List.length_map]
    · rwa [requests, List.length_map]
    · rw [requests, requests, ← List.map_take, ← List.map_take, same]

theorem precededBy_told (same : SameThrough count first second) (notice : Notice) :
    SameThrough count (first.precededBy (.told notice)) (second.precededBy (.told notice)) := by
  cases same with
  | ended few outcome events => exact .ended few outcome (congrArg (List.cons _) events)
  | reached one other same => exact .reached one other same

theorem precededBy_asked (same : SameThrough count first second) (exchange : Exchange) :
    SameThrough (count + 1) (first.precededBy (.asked exchange))
      (second.precededBy (.asked exchange)) := by
  cases same with
  | ended few outcome events =>
    exact .ended (Nat.succ_le_succ few) outcome (congrArg (List.cons _) events)
  | reached one other same =>
    exact .reached (Nat.succ_lt_succ one) (Nat.succ_lt_succ other) (congrArg (List.cons _) same)

end SameThrough

end Visit

namespace Scripted

/-- A script that was just made or seeded, takes any range and does not repeat. -/
structure Plain (script : Scripted) : Prop where
  free : script.expectation = .anything
  once : script.repeats = false
  unasked : script.calls = []
  fresh : script.position = 0

/-- Two scripts stand at the same place and have the same next values, so many of them. -/
structure Agree (count : Nat) (first second : Scripted) : Prop where
  free : first.expectation = .anything ∧ second.expectation = .anything
  once : first.repeats = false ∧ second.repeats = false
  position : first.position = second.position
  /-- Up to the last of the values in question they have the same ones. -/
  values : first.values.take (first.position + count) = second.values.take (first.position + count)

theorem Plain.agree {count : Nat} {first second : Scripted} (plain : first.Plain)
    (other : second.Plain) (same : first.values.take count = second.values.take count) :
    Agree count first second where
  free := ⟨plain.free, other.free⟩
  once := ⟨plain.once, other.once⟩
  position := plain.fresh.trans other.fresh.symm
  values := by rwa [plain.fresh, Nat.zero_add]

/-- Other values make a plain script of a plain one. -/
theorem Plain.withValues {script : Scripted} (plain : script.Plain) (values : List Value) :
    Plain { script with values } :=
  ⟨plain.free, plain.once, plain.unasked, plain.fresh⟩

theorem admits_of_free {script : Scripted} (free : script.expectation = .anything) (index : Nat)
    (range : Int × Int) : Admits script.expectation index range := by
  rw [free]
  trivial

theorem calls_draw_of_free {script : Scripted} (free : script.expectation = .anything)
    (low high : Int) : (script.draw low high).2.calls = script.calls ++ [(low, high)] ∧
      (script.draw low high).2.expectation = .anything := by
  rw [draw_of_admits (admits_of_free free script.calls.length (low, high)), advance]
  cases (script.took low high).upcoming? <;> exact ⟨rfl, free⟩

/-- Scripts that agree on the next value answer the next request alike. -/
theorem Agree.draw {count : Nat} {first second : Scripted} (agree : Agree (count + 1) first second)
    (low high : Int) : (first.draw low high).1 = (second.draw low high).1 ∧
      Agree count (first.draw low high).2 (second.draw low high).2 := by
  have admits := admits_of_free agree.free.1 first.calls.length (low, high)
  have admitted := admits_of_free agree.free.2 second.calls.length (low, high)
  have ahead : first.remaining.take (count + 1) = second.remaining.take (count + 1) := by
    rw [remaining, remaining, List.take_drop, List.take_drop, ← agree.position, agree.values]
  cases left : first.remaining with
  | nil =>
    have gone : second.remaining = [] := by
      rw [left, List.take_nil] at ahead
      exact (List.take_eq_nil_iff.mp ahead.symm).resolve_left (Nat.succ_ne_zero count)
    -- Neither script goes as far as to the values in question, so they have the same ones.
    have values : first.values = second.values := by
      have short : first.values.length ≤ first.position := List.drop_eq_nil_iff.mp left
      have small : second.values.length ≤ first.position :=
        agree.position ▸ List.drop_eq_nil_iff.mp gone
      have same := agree.values
      rwa [List.take_of_length_le (Nat.le_add_right_of_le short),
        List.take_of_length_le (Nat.le_add_right_of_le small)] at same
    rw [draw_of_remaining_nil agree.once.1 admits left,
      draw_of_remaining_nil agree.once.2 admitted gone, values]
    exact ⟨rfl, agree.free, agree.once, agree.position, congrArg (List.take _) values⟩
  | cons value rest =>
    obtain ⟨others, same⟩ : ∃ others, second.remaining = value :: others := by
      rw [left, List.take_succ_cons] at ahead
      cases present : second.remaining with
      | nil =>
        rw [present, List.take_nil] at ahead
        cases ahead
      | cons next others =>
        rw [present, List.take_succ_cons] at ahead
        exact ⟨others, by rw [(List.cons.inj ahead).1]⟩
    rw [draw_of_remaining_cons agree.once.1 admits left,
      draw_of_remaining_cons agree.once.2 admitted same]
    refine ⟨rfl, agree.free, agree.once, congrArg (· + 1) agree.position, ?_⟩
    have values := agree.values
    rwa [Nat.add_comm count 1, ← Nat.add_assoc] at values

end Scripted

namespace Dialogue

variable {σ α : Type}

/-- The first request of a dialogue that asks is made whatever the answer. -/
theorem requests_run_ask (source : Source σ) (announcement : Announcement) (low high : Int)
    (next : Int → Dialogue α) (state : σ) :
    ∃ rest, ((ask announcement low high next).run source state).requests =
      ⟨[], announcement, low, high⟩ :: rest := by
  rcases run_ask_cases source announcement low high next state with
    ⟨fault, after, -, run⟩ | ⟨value, after, -, -, run⟩ | ⟨value, after, -, -, run⟩
  · exact ⟨[], by rw [run]; rfl⟩
  · exact ⟨[], by rw [run]; rfl⟩
  · exact ⟨((next value.number).run source after).requests, by rw [run]; rfl⟩

/-- Runs on scripts that agree on so many values are the same up to the request after as many. -/
theorem run_of_agree {dialogue : Dialogue α} {count : Nat} {first second : Scripted}
    (agree : Scripted.Agree count first second) :
    Visit.SameThrough count (dialogue.run Scripted.source first)
      (dialogue.run Scripted.source second) := by
  induction dialogue generalizing count first second with
  | finish result => exact .ended (Nat.zero_le count) rfl rfl
  | fail fault => exact .ended (Nat.zero_le count) rfl rfl
  | emit literal rest ih => exact (ih agree).precededBy_emitted literal
  | tell notice rest ih => exact (ih agree).precededBy_told notice
  | ask announcement low high next ih =>
    cases count with
    | zero =>
      -- The answers may differ, but the request comes before them.
      obtain ⟨rest, asked⟩ :=
        requests_run_ask Scripted.source announcement low high next first
      obtain ⟨others, again⟩ :=
        requests_run_ask Scripted.source announcement low high next second
      refine .reached ?_ ?_ ?_
      · exact asked ▸ Nat.succ_pos rest.length
      · exact again ▸ Nat.succ_pos others.length
      · rw [asked, again]
        rfl
    | succ count =>
      obtain ⟨same, still⟩ := agree.draw low high
      rcases drawn : first.draw low high with ⟨answer, after⟩
      rcases matched : second.draw low high with ⟨reply, later⟩
      rw [drawn, matched] at same still
      obtain rfl : answer = reply := same
      cases answer with
      | error fault =>
        rw [run_ask_refused drawn, run_ask_refused matched]
        exact .ended (Nat.succ_le_succ (Nat.zero_le count)) rfl rfl
      | ok value =>
        cases inside : value.inRange low high with
        | false =>
          rw [run_ask_rejected drawn inside, run_ask_rejected matched inside]
          exact .ended (Nat.succ_le_succ (Nat.zero_le count)) rfl rfl
        | true =>
          rw [run_ask_accepted drawn inside, run_ask_accepted matched inside]
          exact (ih value.number still).precededBy_asked _

/-- A script that takes any range takes the requests of a run as its calls. -/
theorem calls_run {dialogue : Dialogue α} {script : Scripted}
    (free : script.expectation = .anything) :
    (dialogue.run Scripted.source script).source.calls =
      script.calls ++ (dialogue.run Scripted.source script).requests.map Request.range := by
  rw [Visit.map_range_requests]
  induction dialogue generalizing script with
  | finish result => exact (List.append_nil script.calls).symm
  | fail fault => exact (List.append_nil script.calls).symm
  | emit literal rest ih => exact ih free
  | tell notice rest ih => exact ih free
  | ask announcement low high next ih =>
    obtain ⟨calls, still⟩ := Scripted.calls_draw_of_free free low high
    rcases run_ask_cases Scripted.source announcement low high next script with
      ⟨fault, after, drawn, run⟩ | ⟨value, after, drawn, outside, run⟩ |
      ⟨value, after, drawn, inside, run⟩
    · rw [run]
      exact (congrArg (·.2.calls) drawn).symm.trans calls
    · rw [run]
      exact (congrArg (·.2.calls) drawn).symm.trans calls
    · obtain rfl : (script.draw low high).2 = after := congrArg Prod.snd drawn
      rw [run, Visit.exchanges_precededBy, Visit.source_precededBy, ih value.number still, calls]
      exact (List.append_cons _ _ _).symm

/-- How far a visit came with a script: each request took a value, or the values ended and the visit
with them. -/
inductive Consumed (script : Scripted) (visit : Visit Scripted α) : Prop where
  | enough (few : visit.requests.length ≤ script.remaining.length)
      (position : visit.source.position = script.position + visit.requests.length)
  | short (last : Request) (asked : visit.requests[script.remaining.length]? = some last)
      (emitted : last.emitted = visit.emitted)
      (position : visit.source.position = script.position + script.remaining.length)
      (outcome : visit.outcome = .error (.source (.exhausted script.values.length)))

theorem Consumed.precededBy_emitted {script : Scripted} {visit : Visit Scripted α}
    (consumed : Consumed script visit) (literal : Text) :
    Consumed script (visit.precededBy (.emitted literal)) := by
  have requests : (visit.precededBy (.emitted literal)).requests =
      visit.requests.map (Request.after literal) := rfl
  cases consumed with
  | enough few position =>
    refine .enough ?_ ?_
    · rwa [requests, List.length_map]
    · rwa [requests, List.length_map]
  | short last asked emitted position outcome =>
    refine .short (last.after literal) ?_ (congrArg (List.cons literal) emitted) position outcome
    rw [requests, List.getElem?_map, asked]
    rfl

/-- A value that is handed out is one less that is left for the visit. -/
theorem Consumed.precededBy_asked {script : Scripted} {visit : Visit Scripted α} {value : Value}
    {rest : List Value} {low high : Int} (left : script.remaining = value :: rest)
    (consumed : Consumed (script.answered low high) visit) (exchange : Exchange) :
    Consumed script (visit.precededBy (.asked exchange)) := by
  have fewer := Scripted.remaining_answered low high left
  cases consumed with
  | enough few position =>
    rw [fewer] at few
    refine .enough ?_ ?_
    · rw [left]
      exact Nat.succ_le_succ few
    · exact position.trans (Nat.add_right_comm script.position 1 _)
  | short last asked emitted position outcome =>
    rw [fewer] at asked position
    refine .short last ?_ emitted ?_ outcome
    · rw [left]
      exact asked
    · rw [left]
      exact position.trans (Nat.add_right_comm script.position 1 _)

/-- A run hands out the values of a script in order, and ends when it needs one more. -/
theorem run_once {dialogue : Dialogue α} {script : Scripted}
    (free : script.expectation = .anything) (once : script.repeats = false) :
    Consumed script (dialogue.run Scripted.source script) := by
  induction dialogue generalizing script with
  | finish result => exact .enough (Nat.zero_le _) rfl
  | fail fault => exact .enough (Nat.zero_le _) rfl
  | emit literal rest ih => exact (ih free once).precededBy_emitted literal
  | tell notice rest ih =>
    cases ih free once with
    | enough few position => exact .enough few position
    | short last asked emitted position outcome => exact .short last asked emitted position outcome
  | ask announcement low high next ih =>
    have admits := Scripted.admits_of_free free script.calls.length (low, high)
    cases left : script.remaining with
    | nil =>
      have drawn : Scripted.source.draw low high (Scripted.source.announce announcement script) = _ :=
        Scripted.draw_of_remaining_nil once admits left
      rw [run_ask_refused drawn]
      refine .short ⟨[], announcement, low, high⟩ ?_ rfl ?_ rfl
      · rw [left]
        rfl
      · rw [left]
        rfl
    | cons value rest =>
      have drawn : Scripted.source.draw low high (Scripted.source.announce announcement script) = _ :=
        Scripted.draw_of_remaining_cons once admits left
      cases inside : value.inRange low high with
      | false =>
        rw [run_ask_rejected drawn inside]
        refine .enough ?_ rfl
        rw [left]
        exact Nat.succ_le_succ (Nat.zero_le rest.length)
      | true =>
        rw [run_ask_accepted drawn inside]
        have consumed : Consumed (script.answered low high) _ := ih value.number free once
        exact consumed.precededBy_asked left _

end Dialogue

namespace Tree

variable {limit : Option Int} {tree : Tree} {script : Scripted}

theorem generate_of_agree {count : Nat} {other : Scripted}
    (agree : Scripted.Agree count script other) :
    Visit.SameThrough count (tree.generate limit Scripted.source script)
      (tree.generate limit Scripted.source other) := by
  rw [generate_eq_run]
  exact Dialogue.run_of_agree agree

theorem calls_generate (plain : script.Plain) :
    (tree.generate limit Scripted.source script).source.calls =
      (tree.generate limit Scripted.source script).requests.map Request.range := by
  rw [generate_eq_run, Dialogue.calls_run plain.free, plain.unasked, List.nil_append]

theorem length_calls_generate (plain : script.Plain) :
    (tree.generate limit Scripted.source script).source.calls.length =
      (tree.generate limit Scripted.source script).requests.length := by
  rw [calls_generate plain, List.length_map]

theorem consumed_generate (plain : script.Plain) :
    Dialogue.Consumed script (tree.generate limit Scripted.source script) := by
  rw [generate_eq_run]
  exact Dialogue.run_once plain.free plain.once

/-- A run that ends well made as many requests as it took values. -/
theorem length_requests_of_ok (plain : script.Plain)
    (returned : (tree.generate limit Scripted.source script).outcome = .ok ()) :
    (tree.generate limit Scripted.source script).requests.length =
        (tree.generate limit Scripted.source script).source.position ∧
      (tree.generate limit Scripted.source script).source.position ≤ script.values.length := by
  cases consumed_generate plain with
  | enough few position =>
    rw [plain.fresh, Nat.zero_add] at position
    rw [Scripted.remaining, plain.fresh, List.drop_zero, ← position] at few
    exact ⟨position.symm, few⟩
  | short last asked emitted position outcome =>
    rw [returned] at outcome
    cases outcome

/-- A run that ends well depends on the values that it takes only. -/
theorem generate_of_used (plain : script.Plain)
    (returned : (tree.generate limit Scripted.source script).outcome = .ok ()) {other : Scripted}
    (alike : other.Plain)
    (same : script.values.take (tree.generate limit Scripted.source script).source.position =
      other.values.take (tree.generate limit Scripted.source script).source.position) :
    (tree.generate limit Scripted.source script).outcome =
        (tree.generate limit Scripted.source other).outcome ∧
      (tree.generate limit Scripted.source script).events =
        (tree.generate limit Scripted.source other).events := by
  have through : Visit.SameThrough _ (tree.generate limit Scripted.source script)
      (tree.generate limit Scripted.source other) := generate_of_agree (plain.agree alike same)
  cases through with
  | ended few outcome events => exact ⟨outcome, events⟩
  | reached one other same =>
    have length := (length_requests_of_ok plain returned).1
    omega

/-- A script with too few of the values that a run takes ends it when they are used up. What was
emitted until then is what the run begins with. -/
theorem generate_of_fewer (plain : script.Plain)
    (returned : (tree.generate limit Scripted.source script).outcome = .ok ()) {fewer : Nat}
    (less : fewer < (tree.generate limit Scripted.source script).source.position) :
    let cut := tree.generate limit Scripted.source
      { script with values := script.values.take fewer }
    cut.outcome = .error (.source (.exhausted fewer)) ∧ cut.source.position = fewer ∧
      cut.emitted <+: (tree.generate limit Scripted.source script).emitted := by
  intro cut
  obtain ⟨length, enough⟩ := length_requests_of_ok plain returned
  have short : (script.values.take fewer).length = fewer := by
    rw [List.length_take]
    omega
  have plainer := plain.withValues (script.values.take fewer)
  have remaining : Scripted.remaining { script with values := script.values.take fewer } =
      script.values.take fewer := by
    rw [Scripted.remaining, plainer.fresh, List.drop_zero]
  have same : script.values.take fewer = (script.values.take fewer).take fewer := by
    rw [List.take_take, Nat.min_self]
  have through : Visit.SameThrough fewer (tree.generate limit Scripted.source script) cut :=
    generate_of_agree (plain.agree plainer same)
  have consumed : Dialogue.Consumed _ cut := consumed_generate plainer
  -- The run goes on to another request, and there the shorter script has no value left.
  cases through with
  | ended few outcome events => omega
  | reached one other same =>
    cases consumed with
    | enough few position =>
      rw [remaining, short] at few
      omega
    | short last asked emitted position outcome =>
      rw [remaining, short] at asked position
      rw [plainer.fresh, Nat.zero_add] at position
      rw [short] at outcome
      refine ⟨outcome, position, ?_⟩
      have first : (tree.generate limit Scripted.source script).requests[fewer]? = some last := by
        rw [← asked, ← List.getElem?_take_of_lt (Nat.lt_succ_self fewer), same,
          List.getElem?_take_of_lt (Nat.lt_succ_self fewer)]
      rw [← emitted]
      exact Visit.emitted_prefix_of_mem_requests (List.mem_of_getElem? first)

/-- What a run does before a request depends on the values before it only. With a script that has
the same first values it ends before the request after them, and ends alike, or it makes the same
requests up to that one, each after the same literals. So a run that ends well depends on the values
that it takes only, and a script with fewer of them ends it when they are used up, with a beginning
of its literals. -/
theorem generate_causal (limit : Option Int) (tree : Tree) {script : Scripted}
    (plain : script.Plain) :
    let run := tree.generate limit Scripted.source
    let full := run script
    full.source.calls = full.requests.map Request.range ∧
      (∀ (other : Scripted) (count : Nat), other.Plain →
        script.values.take count = other.values.take count →
        let also := run other
        (full.source.calls.length ≤ count ∧ also.source.calls.length ≤ count ∧
            full.outcome = also.outcome ∧
            tree.render limit Scripted.source script = tree.render limit Scripted.source other ∧
            full.source.calls = also.source.calls ∧
            ∀ sink : Sink, sink.append full.emitted = sink.append also.emitted) ∨
          (count < full.source.calls.length ∧ count < also.source.calls.length ∧
            full.requests.take (count + 1) = also.requests.take (count + 1))) ∧
      (full.outcome = .ok () →
        let used := full.source.position
        (∀ more, let again := run { script with values := script.values.take used ++ more }
          again.outcome = .ok () ∧ again.text = full.text ∧
            again.source.calls = full.source.calls) ∧
        ∀ fewer < used, let cut := run { script with values := script.values.take fewer }
          cut.outcome = .error (.source (.exhausted fewer)) ∧ cut.source.position = fewer ∧
            cut.emitted <+: full.emitted) := by
  intro run full
  have calls {script : Scripted} (plain : script.Plain) :
      (run script).source.calls = (run script).requests.map Request.range := calls_generate plain
  have lengths {script : Scripted} (plain : script.Plain) :
      (run script).source.calls.length = (run script).requests.length :=
    length_calls_generate plain
  refine ⟨calls plain, ?_, ?_⟩
  · intro other count alike same also
    have through : Visit.SameThrough count full also :=
      generate_of_agree (plain.agree alike same)
    rw [lengths plain, lengths alike]
    cases through with
    | ended few outcome events =>
      have requests : full.requests = also.requests := congrArg Request.ofEvents events
      have emitted : full.emitted = also.emitted := congrArg (List.filterMap _) events
      refine .inl ⟨few, requests ▸ few, outcome, ?_, ?_, fun sink => congrArg sink.append emitted⟩
      · change full.outcome.map (fun _ => full.emitted.flatten) =
          also.outcome.map fun _ => also.emitted.flatten
        rw [outcome, emitted]
      · rw [calls plain, calls alike, requests]
    | reached one twin same => exact .inr ⟨one, twin, same⟩
  · intro returned used
    refine ⟨?_, fun fewer less => generate_of_fewer plain returned less⟩
    intro more again
    have enough : used ≤ script.values.length := (length_requests_of_ok plain returned).2
    have plainer := plain.withValues (script.values.take used ++ more)
    have same : script.values.take used = (script.values.take used ++ more).take used := by
      have length : (script.values.take used).length = used := List.length_take_of_le enough
      rw [List.take_append_of_le_length (Nat.le_of_eq length.symm), List.take_take, Nat.min_self]
    obtain ⟨outcome, events⟩ : full.outcome = again.outcome ∧ full.events = again.events :=
      generate_of_used plain returned plainer same
    refine ⟨outcome.symm.trans returned, ?_, ?_⟩
    · exact congrArg (fun events => (events.filterMap Event.literal?).flatten) events.symm
    · rw [calls plainer, calls plain]
      exact congrArg (fun events => (Request.ofEvents events).map Request.range) events.symm

/-- A tally of up to two marks, each a stroke of some kind or a gap that may be left out. -/
def tally : Tree :=
  .group "tally" ⟨0, 2⟩ true [.literal "stroke" ⟨1, 1⟩ ["|", "/"], .literal "gap" ⟨0, 1⟩ [" "]]

/-- A tally takes six of seven values. Without the sixth it ends after its stroke, and with another
third value it asks for the first three in the same way. -/
theorem generate_causal_tally :
    let script : Scripted := { values := [2, 0, 1, 1, 1, 0, 9].map Value.int }
    let other : Scripted := { values := [2, 0, 7].map Value.int }
    let run := tally.generate none Scripted.source
    let full := run script
    let cut := run { script with values := script.values.take 5 }
    let again := run { script with values := script.values.take 6 ++ [.bool true] }
    script.Plain ∧ full.outcome = .ok () ∧ full.source.position = 6 ∧ full.text = "/ " ∧
      cut.outcome = .error (.source (.exhausted 5)) ∧ cut.emitted = (["/"] : List Text) ∧
      cut.emitted <+: full.emitted ∧ again.outcome = .ok () ∧ again.text = "/ " ∧
      other.Plain ∧ script.values.take 2 = other.values.take 2 ∧
      full.requests.take 3 = (run other).requests.take 3 := by
  have plain : Scripted.Plain { values := [2, 0, 1, 1, 1, 0, 9].map Value.int } :=
    ⟨rfl, rfl, rfl, rfl⟩
  have alike : Scripted.Plain { values := [2, 0, 7].map Value.int } := ⟨rfl, rfl, rfl, rfl⟩
  obtain ⟨-, through, consequences⟩ := generate_causal none tally plain
  obtain ⟨extended, shortened⟩ := consequences rfl
  obtain ⟨failed, -, beginning⟩ := shortened 5 (by decide)
  obtain ⟨returned, text, -⟩ := extended [.bool true]
  refine ⟨plain, rfl, rfl, rfl, failed, rfl, beginning, returned, text, alike, rfl, ?_⟩
  rcases through _ 2 alike rfl with ⟨few, -⟩ | ⟨-, -, same⟩
  · exact absurd few (by decide)
  · exact same

end Tree

end PatternForge
