import PatternForge.Proofs.Runs

/-! # What comes into a sink

A visit lists the literals that it emits, and they are appended to a sink when it has ended. It
comes to the same as appending each of them at the moment it is emitted (`Dialogue.pour_eq`),
whatever sinks are and whatever appending does. So a run does not depend on what it fills, and a
sink holds what was appended to it since it was emptied last (`SinkOperation.sink_afterAll`).
-/

namespace PatternForge

/-! ## Filling a sink on the way -/

section Pour

variable {κ σ α : Type}

/-- A source beside which something is kept that it has nothing to do with. -/
def Source.beside (κ : Type) (source : Source σ) : Source (κ × σ) where
  announce announcement held := (held.1, source.announce announcement held.2)
  draw low high held :=
    ((source.draw low high held.2).1, (held.1, (source.draw low high held.2).2))

/-- The visit that a dialogue makes with a source and a sink: each literal is put into the sink as
it is emitted. -/
def Dialogue.pour (put : κ → Text → κ) (source : Source σ) : Dialogue α → Visiting (κ × σ) α
  | finish result => pure result
  | fail fault => Visiting.fail (.scope fault)
  | emit literal rest => fun (sink, state) =>
    (rest.pour put source (put sink literal, state)).precededBy (.emitted literal)
  | tell notice rest => fun held => (rest.pour put source held).precededBy (.told notice)
  | ask announcement low high next => do
    let value ← drawValue (source.beside κ) announcement.scope announcement.purpose low high
    (next value.number).pour put source

/-- Generates from a tree into a sink, literal by literal. -/
def Tree.pour (limit : Option Int) (put : κ → Text → κ) (source : Source σ) (tree : Tree) :
    Visiting (κ × σ) Unit :=
  (tree.dialogue limit).pour put source

/-- The visit with a sink beside the source, into which its literals were put. -/
def Visit.pouredInto (put : κ → Text → κ) (sink : κ) (visit : Visit σ α) : Visit (κ × σ) α :=
  { visit with source := (visit.emitted.foldl put sink, visit.source) }

theorem Visit.pouredInto_precededBy_asked (put : κ → Text → κ) (sink : κ) (exchange : Exchange)
    (visit : Visit σ α) :
    (visit.precededBy (.asked exchange)).pouredInto put sink =
      (visit.pouredInto put sink).precededBy (.asked exchange) := rfl

/-- Filling a sink on the way is the same as filling it at the end. -/
theorem Dialogue.pour_eq (put : κ → Text → κ) (source : Source σ) (dialogue : Dialogue α) (sink : κ)
    (state : σ) :
    dialogue.pour put source (sink, state) = (dialogue.run source state).pouredInto put sink := by
  induction dialogue generalizing sink state with
  | finish result => rfl
  | fail fault => rfl
  | emit literal rest ih => exact congrArg (Visit.precededBy _) (ih (put sink literal) state)
  | tell notice rest ih => exact congrArg (Visit.precededBy _) (ih sink state)
  | ask announcement low high next ih =>
    change (drawValue (source.beside κ) announcement.scope announcement.purpose low high
      (sink, state)).andThen _ = _
    rcases run_ask_cases source announcement low high next state with
      ⟨fault, after, drawn, run⟩ | ⟨value, after, drawn, outside, run⟩ |
      ⟨value, after, drawn, inside, run⟩
    · rw [run]
      simp only [drawValue, Source.beside, drawn, judge, Visit.andThen]
      rfl
    · rw [run]
      simp only [drawValue, Source.beside, drawn, judge, outside, Bool.false_eq_true, ↓reduceIte,
        Visit.andThen]
      rfl
    · rw [run, Visit.pouredInto_precededBy_asked, ← ih value.number]
      simp only [drawValue, Source.beside, drawn, judge, inside, ↓reduceIte, Visit.andThen]
      rfl

end Pour

/-! ## What a sink was given -/

inductive SinkEntry where
  | received (text : Text)
  | emptied
deriving DecidableEq

namespace SinkEntry

def text? : SinkEntry → Option Text
  | received text => some text
  | emptied => none

def texts (log : List SinkEntry) : List Text :=
  log.filterMap text?

/-- The sink after something happened to it. -/
def apply (sink : Sink) : SinkEntry → Sink
  | received text => sink.append [text]
  | emptied => sink.reset

end SinkEntry

namespace Sink

/-- Fragments may be appended one by one. -/
theorem foldl_append (sink : Sink) (fragments : List Text) :
    fragments.foldl (fun sink fragment => sink.append [fragment]) sink = sink.append fragments := by
  induction fragments generalizing sink with
  | nil => exact sink.append_nil.symm
  | cons fragment rest ih => rw [List.foldl_cons, ih, ← append_append, List.singleton_append]

theorem foldl_received (sink : Sink) (fragments : List Text) :
    (fragments.map SinkEntry.received).foldl SinkEntry.apply sink = sink.append fragments := by
  rw [List.foldl_map]
  exact sink.foldl_append fragments

theorem text_append (sink : Sink) (fragments : List Text) :
    (sink.append fragments).text = sink.text ++ fragments.flatten := by
  cases sink with
  | buffer held => exact held.value_append fragments
  | fragments held => exact List.flatten_append

/-- What was received is at the end of the text, unless the sink was emptied. -/
theorem text_foldl (sink : Sink) {log : List SinkEntry} (full : SinkEntry.emptied ∉ log) :
    (log.foldl SinkEntry.apply sink).text = sink.text ++ (SinkEntry.texts log).flatten := by
  induction log generalizing sink with
  | nil => exact (List.append_nil _).symm
  | cons entry rest ih =>
    obtain ⟨here, later⟩ := List.ne_and_not_mem_of_not_mem_cons full
    cases entry with
    | received text =>
      rw [List.foldl_cons, ih _ later, SinkEntry.apply, text_append, List.append_assoc,
        ← List.flatten_append]
      rfl
    | emptied => exact absurd rfl here

/-- What was there before the sink was emptied makes no difference. -/
theorem text_foldl_emptied (sink : Sink) (before : List SinkEntry) {after : List SinkEntry}
    (full : SinkEntry.emptied ∉ after) :
    ((before ++ .emptied :: after).foldl SinkEntry.apply sink).text =
      (SinkEntry.texts after).flatten := by
  rw [List.foldl_append, List.foldl_cons, text_foldl _ full, SinkEntry.apply]
  cases before.foldl SinkEntry.apply sink <;> rfl

/-- A buffer stays a buffer. -/
theorem exists_buffer_foldl (buffer : Buffer) (log : List SinkEntry) :
    ∃ after, log.foldl SinkEntry.apply (.buffer buffer) = .buffer after := by
  induction log generalizing buffer with
  | nil => exact ⟨buffer, rfl⟩
  | cons entry rest ih => cases entry <;> exact ih _

end Sink

/-! ## Runs and their sinks -/

/-- A run from a tree is a visit to it under some limit, or fails before it visits anything. -/
def Run.IsOf (tree : Tree) (source : SourceId) (bench : Bench) (run : Run Bench) : Prop :=
  (∃ limit, run = .ofVisit (tree.generate limit (Bench.source source) bench)) ∨
    ∃ fault, run = { outcome := .error fault, source := bench }

namespace Work

theorem sinks_limitFor (bounds : Bounds) (shop : Workshop) :
    ((limitFor bounds).run.run shop).2.sinks = shop.sinks := by
  rw [run_limitFor]
  split <;> rfl

/-- A run from a tree leaves the sinks alone, however it ends. With the same run a text is rendered,
or what it emitted is appended to a sink. -/
theorem exists_run (tree : Tree) (source : SourceId) (shop : Workshop) :
    ∃ (run : Run Bench) (after : Workshop), run.IsOf tree source shop.bench ∧
      after.sinks = shop.sinks ∧ after.bench = run.source ∧
      (generate tree source).run.run shop = (.ok run, after) ∧
      (render tree source).run.run shop = (run.result, after) ∧
      ∀ sink, (generateInto tree source sink).run.run shop =
        (run.outcome,
          { after with sinks := shop.sinks.modify sink (Sink.append run.emitted) }) := by
  obtain ⟨run, after, made, kept, seats, ran⟩ : ∃ (run : Run Bench) (after : Workshop),
      run.IsOf tree source shop.bench ∧ after.sinks = shop.sinks ∧ after.bench = run.source ∧
        (generate tree source).run.run shop = (.ok run, after) := by
    have left := sinks_limitFor tree.bounds shop
    rcases asked : (limitFor tree.bounds).run.run shop with ⟨fault | limit, later⟩
    · rw [asked] at left
      have ran : (generate tree source).run.run shop =
          (.ok { outcome := .error fault, source := shop.bench },
            { later with bench := shop.bench }) :=
        run_bind_of_ok (generateFrom_of_fault asked (Bench.source source) shop.bench) _
      refine ⟨_, _, ?_, ?_, ?_, ran⟩
      · exact .inr ⟨fault, rfl⟩
      · exact left
      · rfl
    · rw [asked] at left
      let visit := tree.generate limit (Bench.source source) shop.bench
      have ran : (generate tree source).run.run shop =
          (.ok (.ofVisit visit),
            { later with
              bench := visit.source
              journal := journalAfter later.journal visit.notices }) :=
        run_bind_of_ok (generateFrom_of_limit asked (Bench.source source) shop.bench) _
      refine ⟨_, _, ?_, ?_, ?_, ran⟩
      · exact .inl ⟨limit, rfl⟩
      · exact left
      · rfl
  refine ⟨run, after, made, kept, seats, ran, ?_, fun sink => ?_⟩
  · rw [render, run_bind_of_ok ran, run_ofExcept_id]
  · rw [generateInto, run_bind_of_ok ran, ← kept]
    exact run_ofExcept_id _

end Work

/-- What a run from a tree emits, up to a fault if it fails. -/
def Workshop.fragmentsOf (shop : Workshop) (tree : Tree) (source : SourceId) : List Text :=
  match ((Work.generate tree source).run.run shop).1 with
  | .ok run => run.emitted
  | .error _ => []

/-! ## Histories of sinks -/

/-- Something done in a workshop, as it concerns the sinks. -/
inductive SinkOperation where
  | append (sink : SinkId) (text : Text)
  | reset (sink : SinkId)
  | generateInto (tree : Tree) (source : SourceId) (sink : SinkId)
  /-- Anything else is done that leaves the sinks alone. -/
  | elsewhere (work : Work Unit) (leaves : ∀ shop, (work.run.run shop).2.sinks = shop.sinks)

namespace SinkOperation

def perform : SinkOperation → Work Unit
  | append sink text => Work.modifySink sink (Sink.append [text])
  | reset sink => Work.modifySink sink Sink.reset
  | generateInto tree source sink => Work.generateInto tree source sink
  | elsewhere work _ => work

/-- The workshop after an operation, however that ended. -/
def after (shop : Workshop) (operation : SinkOperation) : Workshop :=
  (operation.perform.run.run shop).2

def afterAll (shop : Workshop) (history : List SinkOperation) : Workshop :=
  history.foldl after shop

/-- What an operation does to a sink. -/
def entries (shop : Workshop) (id : SinkId) : SinkOperation → List SinkEntry
  | append sink text => if sink = id then [.received text] else []
  | reset sink => if sink = id then [.emptied] else []
  | generateInto tree source sink =>
    if sink = id then (shop.fragmentsOf tree source).map .received else []
  | elsewhere _ _ => []

/-- What a history does to a sink. -/
def log (shop : Workshop) (id : SinkId) : List SinkOperation → List SinkEntry
  | [] => []
  | operation :: rest => operation.entries shop id ++ log (operation.after shop) id rest

/-- An operation does to a sink what is noted of it, and nothing else. -/
theorem sink_after (shop : Workshop) (id : SinkId) (operation : SinkOperation) :
    (operation.after shop).sinks[id]? =
      shop.sinks[id]?.map ((operation.entries shop id).foldl SinkEntry.apply) := by
  have modified (sink : SinkId) (change : Sink → Sink) (entries : List SinkEntry)
      (same : ∀ held, entries.foldl SinkEntry.apply held = change held) :
      (shop.sinks.modify sink change)[id]? =
        shop.sinks[id]?.map ((if sink = id then entries else []).foldl SinkEntry.apply) := by
    rw [Array.getElem?_modify]
    split
    · exact congrArg (Option.map · _) (funext fun held => (same held).symm)
    · exact Option.map_id'.symm
  cases operation with
  | append sink text => exact modified sink _ [.received text] fun held => rfl
  | reset sink => exact modified sink _ [.emptied] fun held => rfl
  | generateInto tree source sink =>
    obtain ⟨run, after, -, -, -, ran, -, into⟩ := Work.exists_run tree source shop
    have emitted : shop.fragmentsOf tree source = run.emitted := by
      rw [Workshop.fragmentsOf, ran]
    change ((Work.generateInto tree source sink).run.run shop).2.sinks[id]? = _
    rw [into, entries, emitted]
    exact modified sink _ _ fun held => held.foldl_received run.emitted
  | elsewhere work leaves =>
    change (work.run.run shop).2.sinks[id]? = _
    rw [leaves]
    exact Option.map_id'.symm

/-- So does a history. -/
theorem sink_afterAll (shop : Workshop) (id : SinkId) (history : List SinkOperation) :
    (afterAll shop history).sinks[id]? =
      shop.sinks[id]?.map ((log shop id history).foldl SinkEntry.apply) := by
  induction history generalizing shop with
  | nil => exact Option.map_id'.symm
  | cons operation rest ih =>
    change (afterAll (operation.after shop) rest).sinks[id]? = _
    rw [ih, sink_after, Option.map_map, log]
    congr 1
    funext sink
    rw [List.foldl_append]
    rfl

/-- Whatever was done with a buffer before, its text is what it received since it was emptied last,
after the text that it was made with unless it was emptied. A run from a tree requests the same and
ends the same, whether it fills that buffer, a list or nothing but a text to be rendered. It adds to
the buffer the fragments that the list receives, however it ends, and it makes no difference whether
they are added as they are emitted. -/
theorem filled_alike {start : Workshop} {id : SinkId} {initial : Text}
    (made : start.sinks[id]? = some (.buffer (.ofText initial))) (history : List SinkOperation) :
    let shop := afterAll start history
    let entries := log start id history
    (∀ {σ : Type} (source : Source σ) (limit : Option Int) (tree : Tree) (sink : Sink) (state : σ),
      let visit := tree.generate limit source state
      tree.pour limit (fun sink fragment => sink.append [fragment]) source (sink, state) =
        ⟨visit.outcome, visit.events, (sink.append visit.emitted, visit.source)⟩) ∧
    ∃ buffer, shop.sinks[id]? = some (.buffer buffer) ∧ buffer.length = buffer.value.length ∧
      (.emptied ∉ entries → buffer.value = initial ++ (SinkEntry.texts entries).flatten) ∧
      (∀ before after, entries = before ++ .emptied :: after → .emptied ∉ after →
        buffer.value = (SinkEntry.texts after).flatten) ∧
      ∀ (tree : Tree) (source : SourceId) (list : SinkId) (held : List Text),
        shop.sinks[list]? = some (.fragments held) →
          ∃ (run : Run Bench) (left : Workshop) (filled : Buffer),
            run.IsOf tree source shop.bench ∧ left.bench = run.source ∧
            left.sinks = shop.sinks ∧
            (Work.render tree source).run.run shop =
              (run.outcome.map fun _ => run.emitted.flatten, left) ∧
            (Work.generateInto tree source id).run.run shop =
              (run.outcome, { left with sinks := shop.sinks.modify id (Sink.append run.emitted) }) ∧
            (Work.generateInto tree source list).run.run shop =
              (run.outcome,
                { left with sinks := shop.sinks.modify list (Sink.append run.emitted) }) ∧
            (shop.sinks.modify list (Sink.append run.emitted))[list]? =
              some (.fragments (held ++ run.emitted)) ∧
            (shop.sinks.modify id (Sink.append run.emitted))[id]? = some (.buffer filled) ∧
            filled.value = buffer.value ++ run.emitted.flatten ∧
            filled.length = filled.value.length := by
  intro shop entries
  obtain ⟨buffer, grown⟩ := Sink.exists_buffer_foldl (.ofText initial) entries
  have stands : shop.sinks[id]? = some (.buffer buffer) := by
    rw [sink_afterAll, made, ← grown]
    rfl
  have text : buffer.value = (entries.foldl SinkEntry.apply (.buffer (.ofText initial))).text := by
    rw [grown]
    rfl
  refine ⟨?_, buffer, stands, buffer.length_eq, ?_, ?_, ?_⟩
  · intro σ source limit tree sink state visit
    rw [Tree.pour, Dialogue.pour_eq, ← Tree.generate_eq_run, Visit.pouredInto, Sink.foldl_append]
  · intro full
    rw [text, Sink.text_foldl _ full]
    exact congrArg (· ++ _) (Buffer.value_ofText initial)
  · intro before after split full
    rw [text, split, Sink.text_foldl_emptied _ before full]
  · intro tree source list held listed
    obtain ⟨run, left, same, kept, seats, -, rendered, into⟩ := Work.exists_run tree source shop
    refine ⟨run, left, buffer.append run.emitted, same, seats, kept, rendered, into id, into list,
      ?_, ?_, buffer.value_append _, Buffer.length_eq _⟩
    · rw [Array.getElem?_modify, if_pos rfl, listed]
      rfl
    · rw [Array.getElem?_modify, if_pos rfl, stands]
      rfl

/-- A workshop with a reply that was begun, a list, and a script with one answer that is no vote. -/
def desktop : Workshop where
  bench := { sources := #[.scripted { values := [.int 2, .int 0, .int 7, .int 1, .bool true] }] }
  sinks := #[.buffer (.ofText "Re: "), .fragments ["minutes"]]
  desk := { kept := some {} }

/-- A reply is begun, torn up and begun anew, and a vote that fails after its first answer leaves
this answer in it. The next vote ends the same whether it is rendered or goes on the list. -/
theorem filled_alike_reply :
    let history : List SinkOperation :=
      [.append 0 "no", .reset 0, .elsewhere (Work.bindVariable "mood" none) fun _ => rfl,
        .append 0 "so ", .append 1 "aside", .generateInto Tree.vote 0 0]
    let shop := afterAll desktop history
    desktop.sinks[0]? = some (.buffer (.ofText "Re: ")) ∧
      log desktop 0 history =
        [.received "no", .emptied, .received "so ", .received "yes"] ∧
      shop.sinks[1]? = some (.fragments ["minutes", "aside"]) ∧
      (∃ buffer, shop.sinks[0]? = some (.buffer buffer) ∧ buffer.value = ("so yes" : Text) ∧
        buffer.length = 6) ∧
      ∃ (run : Run Bench) (left : Workshop), run.IsOf Tree.vote 0 shop.bench ∧
        (Work.render Tree.vote 0).run.run shop =
          (run.outcome.map fun _ => run.emitted.flatten, left) ∧
        (Work.generateInto Tree.vote 0 1).run.run shop =
          (run.outcome, { left with sinks := shop.sinks.modify 1 (Sink.append run.emitted) }) := by
  intro history shop
  have made : desktop.sinks[0]? = some (.buffer (.ofText "Re: ")) := rfl
  have logged : log desktop 0 history =
      [.received "no", .emptied, .received "so ", .received "yes"] := by decide +kernel
  have listed : shop.sinks[1]? = some (.fragments ["minutes", "aside"]) := by
    rw [sink_afterAll, show log desktop 1 history = [.received "aside"] by decide +kernel]
    rfl
  obtain ⟨-, buffer, stands, size, -, text, runs⟩ := filled_alike made history
  have value : buffer.value = ("so yes" : Text) := text [.received "no"] _ logged (by decide)
  obtain ⟨run, left, -, same, -, -, rendered, -, into, -⟩ := runs Tree.vote 0 1 _ listed
  refine ⟨made, logged, listed, ⟨buffer, stands, value, ?_⟩, run, left, same, rendered, into⟩
  rw [size, value]
  decide

end SinkOperation

end PatternForge
