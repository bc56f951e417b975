import PatternForge.Proofs.Containment
import PatternForge.Proofs.Progress
import PatternForge.Proofs.Runs

/-! # Generating by a script

A script holds arbitrary values, so it is the case in point for answers that are kept within bounds.
It answers a request by one of its values or refuses it (`Scripted.replies_draw`), and a scope takes
the answer or turns it down. So a run by a script fails in few ways (`Tree.fault_of_script`), and if
all numbers in question can be written, by errors of two classes (`Tree.kind_of_script`).
-/

namespace PatternForge

variable {σ α β : Type}

/-! ## Requests of a run -/

/-- Whatever is asked of a source, its state stays good. -/
structure Source.Keeps (source : Source σ) (good : σ → Prop) : Prop where
  announce : ∀ announcement state, good state → good (source.announce announcement state)
  draw : ∀ low high state, good state → good (source.draw low high state).2

/-- What is asked of a source is for a range of the dialogue, and is answered by the source. -/
theorem Dialogue.exists_draw_of_run {source : Source σ} {good : σ → Prop}
    (keeps : source.Keeps good) {range : Int → Int → Prop} {dialogue : Dialogue α}
    (asks : dialogue.Asks range) {state : σ} (start : good state) :
    ∀ exchange ∈ (dialogue.run source state).exchanges, range exchange.low exchange.high ∧
      ∃ before, good before ∧
        exchange.answer = (source.draw exchange.low exchange.high before).1 := by
  induction dialogue generalizing state with
  | finish => exact fun exchange member => absurd member List.not_mem_nil
  | fail => exact fun exchange member => absurd member List.not_mem_nil
  | emit literal rest ih => exact ih asks start
  | tell notice rest ih => exact ih asks start
  | ask announcement low high next ih =>
    obtain ⟨here, further⟩ := asks
    have heard := keeps.announce announcement state start
    intro exchange member
    rcases run_ask_cases source announcement low high next state with
      ⟨fault, after, drawn, run⟩ | ⟨value, after, drawn, -, run⟩ |
      ⟨value, after, drawn, inside, run⟩
    · rw [run] at member
      obtain rfl := List.mem_singleton.mp member
      exact ⟨here, _, heard, (congrArg Prod.fst drawn).symm⟩
    · rw [run] at member
      obtain rfl := List.mem_singleton.mp member
      exact ⟨here, _, heard, (congrArg Prod.fst drawn).symm⟩
    · rw [run, Visit.exchanges_precededBy] at member
      rcases List.mem_cons.mp member with rfl | member
      · exact ⟨here, _, heard, (congrArg Prod.fst drawn).symm⟩
      · obtain ⟨lower, upper⟩ := Value.number_of_inRange inside
        have still : good after := by
          have kept := keeps.draw low high _ heard
          rwa [drawn] at kept
        exact ih value.number (further _ lower upper) still exchange member

/-- A run that does not fail at a scope fails at a request that it makes, as the scope that makes it
judges the answer. -/
theorem Tree.exists_judged_of_outcome {source : Source σ} {good : σ → Prop}
    (keeps : source.Keeps good) {limit : Option Int} {tree : Tree} {range : Int → Int → Prop}
    (asks : (tree.dialogue limit).Asks range) {state : σ} (start : good state)
    {fault : GenerationFault}
    (ended : (tree.generate limit source state).outcome = .error fault) :
    (∃ reason, fault = .scope reason) ∨
      ∃ scope low high before, range low high ∧ good before ∧
        judge scope low high (source.draw low high before).1 = .error fault := by
  have contained := contained_generate limit source tree state
  rw [ended] at contained
  refine contained.exists_judged.imp_right ?_
  rintro ⟨⟨announcement, low, high, answer⟩, member, judged⟩
  have made : ⟨announcement, low, high, answer⟩ ∈
      ((tree.dialogue limit).run source state).exchanges := by
    rw [← generate_eq_run]
    exact Visit.mem_exchanges_iff.mpr member
  obtain ⟨inside, before, still, answered⟩ := Dialogue.exists_draw_of_run keeps asks start _ made
  exact ⟨announcement.scope, low, high, before, inside, still, answered ▸ judged⟩

/-! ## Answers of a script -/

/-- A script refuses a request that it does not expect, and one that it has no value left for. Other
faults of a source are not for a script to raise. -/
def DrawFault.OfScript : DrawFault → Prop
  | unexpectedCall .. => True
  | unexpectedRange .. => True
  | exhausted _ => True
  | _ => False

/-- The source is at fault, and it is a script: it refused a request, or a scope turned its value
down. -/
def GenerationFault.OfScript : GenerationFault → Prop
  | scope _ => False
  | source fault => fault.OfScript
  | outOfRange .. => True

namespace Scripted

variable {script : Scripted} {low high : Int}

/-- A request is answered by the next value, or refused by a fault of scripts, in which there is no
number but those of the range and those that were expected. -/
inductive Replies (script : Scripted) (low high : Int) : Except DrawFault Value → Prop where
  /-- There is a next value. -/
  | value {value : Value} (member : value ∈ script.values) : Replies script low high (.ok value)
  | exhausted (count : ℕ) : Replies script low high (.error (.exhausted count))
  | unexpectedCall (number known : ℕ) :
      Replies script low high (.error (.unexpectedCall number known))
  | unexpectedRange (number : ℕ) {expected : Value × Value}
      (written : script.expectation.areWritable = true →
        expected.1.isWritable = true ∧ expected.2.isWritable = true) :
      Replies script low high (.error (.unexpectedRange number low high expected.1 expected.2))

theorem replies_advance (script : Scripted) (low high : Int) :
    script.Replies low high script.advance.1 := by
  rw [advance]
  cases upcoming : script.upcoming? with
  | none => exact .exhausted _
  | some value => exact .value (List.mem_of_getElem? upcoming)

theorem replies_advanceIf (script : Scripted) (low high : Int) {expected : Value × Value}
    (written : script.expectation.areWritable = true →
      expected.1.isWritable = true ∧ expected.2.isWritable = true) :
    script.Replies low high (script.advanceIf low high expected).1 := by
  rw [advanceIf]
  split
  · exact replies_advance script low high
  · exact .unexpectedRange _ written

theorem replies_draw (script : Scripted) (low high : Int) :
    script.Replies low high (script.draw low high).1 := by
  have taken {answer : Except DrawFault Value}
      (replies : (script.took low high).Replies low high answer) :
      script.Replies low high answer := by
    cases replies with
    | value member => exact .value member
    | exhausted count => exact .exhausted count
    | unexpectedCall number known => exact .unexpectedCall number known
    | unexpectedRange number written => exact .unexpectedRange number written
  rw [draw]
  cases expects : script.expectation with
  | anything => exact taken (replies_advance _ _ _)
  | always least greatest =>
    refine taken (replies_advanceIf _ _ _ fun written => ?_)
    change script.expectation.areWritable = true at written
    rw [expects] at written
    exact Bool.and_eq_true_iff.mp written
  | each ranges =>
    dsimp only
    cases present : ranges[script.calls.length]? with
    | none => exact .unexpectedCall _ _
    | some expected =>
      refine taken (replies_advanceIf _ _ _ fun written => ?_)
      change script.expectation.areWritable = true at written
      rw [expects] at written
      exact Bool.and_eq_true_iff.mp
        (List.all_eq_true.mp written expected (List.mem_of_getElem? present))

/-- What is written down in a script stays as it is. -/
theorem areWritable_draw (script : Scripted) (low high : Int) :
    (script.draw low high).2.areWritable = script.areWritable := by
  have advanced (script : Scripted) : script.advance.2.areWritable = script.areWritable := by
    rw [advance]
    cases script.upcoming? <;> rfl
  have advancedIf (script : Scripted) (expected : Value × Value) :
      (script.advanceIf low high expected).2.areWritable = script.areWritable := by
    rw [advanceIf]
    split
    · exact advanced script
    · rfl
  rw [draw]
  split
  · exact advanced (script.took low high)
  · exact advancedIf (script.took low high) _
  · split
    · exact advancedIf (script.took low high) _
    · rfl

end Scripted

/-! ## Runs by a script -/

/-- A run with a script fails at a scope that can generate nothing, or at the script. -/
theorem Tree.fault_of_script {limit : Option Int} {tree : Tree} {script : Scripted}
    {fault : GenerationFault}
    (ended : (tree.generate limit Scripted.source script).outcome = .error fault) :
    (∃ reason, fault = .scope reason) ∨ fault.OfScript := by
  have keeps : Scripted.source.Keeps fun _ => True := ⟨fun _ _ _ => trivial, fun _ _ _ _ => trivial⟩
  have asks : (tree.dialogue limit).Asks fun _ _ => True :=
    asks_dialogue limit (fun _ _ _ _ => trivial) fun _ _ _ => trivial
  refine (exists_judged_of_outcome keeps asks trivial ended).imp_right ?_
  rintro ⟨scope, low, high, before, -, -, judged⟩
  rcases judge_eq_error_iff.mp judged with ⟨refusal, answered, rfl⟩ | ⟨value, -, -, rfl⟩
  · have replies := before.replies_draw low high
    change (before.draw low high).1 = _ at answered
    rw [answered] at replies
    cases replies <;> trivial
  · trivial

/-- Where all numbers can be written, a run with a script fails by a configuration error or by an
error of the source. -/
theorem Tree.kind_of_script {limit : Option Int} {tree : Tree} {script : Scripted}
    {fault : GenerationFault} (writable : tree.Writable limit)
    (stocks : ∀ node ∈ tree.scopes, Numeral.isWritable node.stock = true)
    (written : script.areWritable = true)
    (ended : (tree.generate limit Scripted.source script).outcome = .error fault) :
    fault.report.kind = .configurationError ∨ fault.report.kind = .randomSourceError := by
  have keeps : Scripted.source.Keeps (·.areWritable = true) :=
    ⟨fun _ _ good => good, fun low high state good => (state.areWritable_draw low high).trans good⟩
  have asks : (tree.dialogue limit).Asks fun low high =>
      Numeral.isWritable low = true ∧ Numeral.isWritable high = true :=
    asks_dialogue limit (fun node scope _ _ => Bool.and_eq_true_iff.mp (writable.1 node scope))
      fun node scope stocked =>
        ⟨Numeral.isWritable_of_le (Nat.zero_le _) (stocks node scope),
          Numeral.isWritable_of_le (by omega) (stocks node scope)⟩
  rcases exists_judged_of_outcome keeps asks written ended with
    ⟨reason, rfl⟩ | ⟨scope, low, high, before, ⟨lower, upper⟩, still, judged⟩
  · exact .inl (ScopeFault.kind_report_eq_iff.mpr (writable.isSome_wording?_of_outcome ended))
  · right
    obtain ⟨values, expected⟩ := Bool.and_eq_true_iff.mp still
    have replies : before.Replies low high (Scripted.source.draw low high before).1 :=
      before.replies_draw low high
    rcases judge_eq_error_iff.mp judged with
      ⟨refusal, answered, rfl⟩ | ⟨value, answered, -, rfl⟩
    · rw [answered] at replies
      cases replies with
      | exhausted count => rfl
      | unexpectedCall number known => rfl
      | unexpectedRange number written =>
        obtain ⟨least, greatest⟩ := written expected
        exact DrawFault.kind_report_unexpectedRange lower upper least greatest
    · rw [answered] at replies
      cases replies with
      | value member =>
        exact GenerationFault.kind_report_outOfRange lower upper
          (List.all_eq_true.mp values value member)

/-- A script on a bench answers as the script by itself. -/
theorem Bench.alike_script (id : SourceId) : (Bench.source id).Alike Scripted.source
    fun bench script => bench.source? id = some (.scripted script) where
  announce := by
    intro announcement bench script stands
    have still : announce id announcement bench = bench := by
      simp only [announce, stands]
    exact (congrArg (source? · id) still).trans stands
  draw := by
    intro low high bench script stands
    obtain ⟨present, -⟩ := Array.getElem?_eq_some_iff.mp stands
    have drawn : draw id low high bench = ((script.draw low high).1,
        bench.put id (.scripted (script.draw low high).2)) := by
      rw [draw, stands]
    refine ⟨congrArg Prod.fst drawn, ?_⟩
    exact (congrArg (fun answered => answered.2.source? id) drawn).trans
      (source?_put_self present _)

namespace Work

variable {shop : Workshop} {current : Settings}

/-- With settings that can be read, generation into a sink appends what the visit emitted, and ends
as the visit ended. -/
theorem generateInto_of_settings (loads : shop.desk.settings.1 = .ok current) (tree : Tree)
    (source : SourceId) (sink : SinkId) :
    let visit := tree.generate current.maxOccurrencesLimit (Bench.source source) shop.bench
    ((generateInto tree source sink).run.run shop).1 = visit.outcome.mapError .generation ∧
      ((generateInto tree source sink).run.run shop).2.sinks =
        shop.sinks.modify sink (Sink.append visit.emitted) := by
  intro visit
  by_cases ordered : tree.bounds.Ordered
  · have asked : (limitFor tree.bounds).run.run shop =
        (.ok current.maxOccurrencesLimit, { shop with desk := shop.desk.settings.2 }) := by
      rw [run_limitFor, if_pos ordered, loads]
      rfl
    rw [generateInto_of_limit asked source sink]
    exact ⟨rfl, rfl⟩
  · -- Bounds that are out of order end the visit under any limit, and the settings are not read.
    obtain ⟨fault, found⟩ := Bounds.exists_orderFault ordered tree.name
    have asked : (limitFor tree.bounds).run.run shop = (.ok none, shop) := by
      rw [run_limitFor, if_neg ordered]
    have same : tree.generate none (Bench.source source) shop.bench = visit := by
      simp only [visit, Tree.generate_of_orderFault found]
    rw [generateInto_of_limit asked source sink, same]
    exact ⟨rfl, rfl⟩

/-- No script pushes generation out of bounds, whatever its values are. With settings that can be
read, a run ends well, or it fails because a scope is configured to generate nothing or because of
the source, and if all numbers can be written, by an error of the one class or of the other. What
comes into the sink are the literals of the draws that were accepted, each of them from the pool of
a leaf at the place that was drawn. A draw that is not accepted is the last thing that happens, so
the sink is left with the literals drawn before it. By itself a scope on the way picks from its own
pool only, and goes by no other number than one within its bounds or the place of one of its
children. -/
theorem generateInto_of_script (loads : shop.desk.settings.1 = .ok current) {source : SourceId}
    {script : Scripted} (stands : shop.bench.source? source = some (.scripted script)) (tree : Tree)
    (sink : SinkId) :
    let limit := current.maxOccurrencesLimit
    let visit := tree.generate limit Scripted.source script
    let ran := (generateInto tree source sink).run.run shop
    (ran.1 = .ok () ∨ ∃ fault, ran.1 = .error (.generation fault) ∧
        ((∃ reason, fault = .scope reason) ∨ fault.OfScript)) ∧
      ran.1 = visit.outcome.mapError .generation ∧
      ran.2.sinks = shop.sinks.modify sink (Sink.append visit.emitted) ∧
      List.Forall₂ (fun draw literal => ∃ leaf ∈ tree.scopes, leaf.Picks draw literal)
        (Event.picks visit.events) visit.emitted ∧
      (∀ before draw after, visit.events = before ++ .asked draw :: after → draw.accepted = false →
        after = [] ∧ Event.picks visit.events = Event.picks before ∧
          ∃ fault, visit.outcome = .error fault ∧
            judge draw.announcement.scope draw.low draw.high draw.answer = .error fault) ∧
      (∀ node state, Tree.Visits limit Scripted.source tree script node state →
        let visit := node.generate limit Scripted.source state
        let own := node.ownVisit limit Scripted.source state
        (∃ parts, Visit.ConsistsOf limit Scripted.source node.children visit own parts) ∧
          List.Forall₂ node.Picks (Event.picks own.events) own.emitted ∧
          (∀ draw ∈ own.exchanges, draw.accepted = true →
            node.Settles draw ∨ ∃ literal, node.Picks draw literal)) ∧
      (tree.Writable limit → (∀ node ∈ tree.scopes, Numeral.isWritable node.stock = true) →
        script.areWritable = true → ∀ fault, ran.1 = .error fault →
          fault.report.kind = .configurationError ∨ fault.report.kind = .randomSourceError) := by
  intro limit visit ran
  obtain ⟨ended, sinks⟩ := generateInto_of_settings loads tree source sink
  obtain ⟨outcome, events, -⟩ := (Bench.alike_script source).generate limit tree stands
  have contained : Tree.Contained _ _ visit.outcome visit.events :=
    Tree.contained_generate limit Scripted.source tree script
  have returned : ran.1 = visit.outcome.mapError .generation :=
    ended.trans (congrArg (Except.mapError WorkFault.generation) outcome)
  refine ⟨?_, returned, ?_, contained.forall₂_picks, ?_, ?_, ?_⟩
  · rw [returned]
    cases failed : visit.outcome with
    | ok result => exact .inl rfl
    | error fault => exact .inr ⟨fault, rfl, Tree.fault_of_script failed⟩
  · rw [show visit.emitted = _ from congrArg (List.filterMap Event.literal?) events.symm]
    exact sinks
  · intro before draw after happened refused
    rw [happened] at contained ⊢
    obtain ⟨rfl, failed⟩ := contained.last_of_failed refused
    exact ⟨rfl, Event.picks_append_asked refused before, failed⟩
  · intro node state _ whole own
    have alone : Tree.Contained _ _ own.outcome own.events := Tree.contained_ownVisit node state
    refine ⟨Tree.splits_generate limit Scripted.source node state, ?_, ?_⟩
    · exact alone.forall₂_picks.imp fun draw literal ⟨leaf, itself, picks⟩ => itself ▸ picks
    · intro draw member accepted
      obtain ⟨scope, rfl, drawn⟩ :=
        alone.settles_or_picks (Visit.mem_exchanges_iff.mp member) accepted
      exact drawn
  · intro writable stocks written fault failed
    rw [returned] at failed
    cases ended : visit.outcome with
    | ok result =>
      rw [ended] at failed
      cases failed
    | error reason =>
      rw [ended] at failed
      obtain rfl := Except.error.inj failed
      exact Tree.kind_of_script writable stocks written ended

/-- Up to three times a fruit, or two nuts. -/
def basket : Tree :=
  .group "basket" ⟨1, 3⟩ true
    [.literal "fruit" ⟨1, 1⟩ ["apple", "pear"], .literal "nut" ⟨2, 2⟩ ["hazel"]]

/-- A script of numbers and truth values, one of them below zero, and of what is no number. -/
def jumble : Scripted :=
  { values := [.int 2, .bool true, .bool false, .int 0, .int 0, .int (-1), .list [.null]] }

def pantry : Workshop where
  bench := { sources := #[.scripted jumble] }
  sinks := #[.fragments ["seed"]]
  desk := { kept := some {} }

/-- The script gives two nuts by truth values and a zero. Minus one is no fruit, also not the last
one, so the run ends with the nuts in the sink. -/
theorem generateInto_of_script_pantry :
    let visit := basket.generate none Scripted.source jumble
    let ran := (generateInto basket 0 0).run.run pantry
    let last : Exchange := ⟨⟨"fruit", "literal"⟩, 0, 1, .ok (.int (-1))⟩
    pantry.desk.settings.1 = .ok {} ∧ pantry.bench.source? 0 = some (.scripted jumble) ∧
      ran.1 = .error (.generation (.outOfRange "fruit" 0 1 (.int (-1)))) ∧
      ran.2.sinks = #[.fragments ["seed", "hazel", "hazel"]] ∧
      List.Forall₂ (fun draw literal => ∃ leaf ∈ basket.scopes, leaf.Picks draw literal)
        (Event.picks visit.events) visit.emitted ∧
      (∃ before, visit.events = before ++ [.asked last] ∧
        Event.picks visit.events = Event.picks before) ∧ last.accepted = false ∧
      (∀ draw ∈ (basket.ownVisit none Scripted.source jumble).exchanges, draw.accepted = true →
        basket.Settles draw ∨ ∃ literal, basket.Picks draw literal) ∧
      basket.Writable none ∧ jumble.areWritable = true ∧
      ∀ fault, ran.1 = .error fault →
        fault.report.kind = .configurationError ∨ fault.report.kind = .randomSourceError := by
  intro visit ran last
  have loads : pantry.desk.settings.1 = .ok {} := rfl
  have stands : pantry.bench.source? 0 = some (.scripted jumble) := rfl
  have refused : last.accepted = false := by decide
  have happened : visit.events = visit.events.dropLast ++ [.asked last] := rfl
  have writable : basket.Writable none := ⟨by decide +kernel, nofun⟩
  have written : jumble.areWritable = true := by decide +kernel
  obtain ⟨-, ended, sinks, picked, failing, visits, classed⟩ :=
    generateInto_of_script loads stands basket 0
  obtain ⟨-, before, -⟩ := failing _ last [] happened refused
  obtain ⟨-, -, draws⟩ := visits basket jumble (.itself basket jumble)
  exact ⟨loads, stands, ended, sinks, picked, ⟨_, happened, before⟩, refused, draws, writable,
    written, classed writable (by decide +kernel) written⟩

end Work

end PatternForge
