import PatternForge.Proofs.Recorder

/-! # The labels of recorded draws

All that is done with a recording source comes down to what it hears and what it is asked, one after
the other; a tree that is generated with it adds an announcement and a request for each draw. The
label of a recorded draw can be read off this tape: it is what was announced last since the request
before (`Tape.announced`). Whatever is done with a recording source, its trace gains the draws that
the tape says (`Tape.Accounts`), and so does the trace of a recorder on a bench
(`Traced.trace_of_handling`).
-/

namespace PatternForge

/-! ## Tapes -/

/-- Something that a source hears or is asked. -/
inductive Cue where
  | noted (announcement : Announcement)
  | asked (low high : Int) (answer : Except DrawFault Value)
  | seeded (value : Option Int)

namespace Cue

def isRequest : Cue → Bool
  | asked .. => true
  | _ => false

def announcement? : Cue → Option Announcement
  | noted announcement => some announcement
  | _ => none

/-- The draw that is recorded under a label. A request that fails leaves none. -/
def recorded? (label : Option Announcement) : Cue → Option RecordedDraw
  | asked low high (.ok value) =>
    (Field.readInteger value).toOption.map fun number =>
      ⟨label.map (·.scope), label.map (·.purpose), low, high, number⟩
  | _ => none

end Cue

/-- All that a source hears and is asked, in order. -/
abbrev Tape := List Cue

namespace Tape

/-- What was announced last since the last request. -/
def announced (tape : Tape) : Option Announcement :=
  (tape.reverse.takeWhile fun cue => !cue.isRequest).findSome? Cue.announcement?

/-- The draws that are recorded of a tape that follows on another. -/
def recordedAfter (before : Tape) : Tape → List RecordedDraw
  | [] => []
  | cue :: rest => (cue.recorded? before.announced).toList ++ recordedAfter (before ++ [cue]) rest

/-- The draws that are recorded of a tape: each under the label that was announced for it. -/
def recorded (tape : Tape) : List RecordedDraw :=
  recordedAfter [] tape

theorem announced_noted (tape : Tape) (announcement : Announcement) :
    announced (tape ++ [.noted announcement]) = some announcement := by
  rw [announced, List.reverse_concat]
  rfl

theorem announced_seeded (tape : Tape) (value : Option Int) :
    announced (tape ++ [.seeded value]) = tape.announced := by
  rw [announced, List.reverse_concat]
  rfl

theorem announced_asked (tape : Tape) (low high : Int) (answer : Except DrawFault Value) :
    announced (tape ++ [.asked low high answer]) = none := by
  rw [announced, List.reverse_concat]
  rfl

private theorem takeWhile_append_of_stop {α : Type} {keep : α → Bool} {stop : α}
    (stops : keep stop = false) (front back : List α) :
    (front ++ stop :: back).takeWhile keep = front.takeWhile keep := by
  induction front with
  | nil => rw [List.nil_append, List.takeWhile_cons, stops]; rfl
  | cons head rest ih => rw [List.cons_append, List.takeWhile_cons, List.takeWhile_cons, ih]

/-- Nothing that was announced before a request is announced after it. -/
theorem announced_append_asked (before later : Tape) (low high : Int)
    (answer : Except DrawFault Value) :
    announced (before ++ .asked low high answer :: later) = later.announced := by
  rw [announced, List.reverse_append, List.reverse_cons, List.append_assoc, List.singleton_append,
    takeWhile_append_of_stop rfl]
  rfl

theorem recordedAfter_append (before first second : Tape) :
    recordedAfter before (first ++ second) =
      recordedAfter before first ++ recordedAfter (before ++ first) second := by
  induction first generalizing before with
  | nil => rw [List.append_nil]; rfl
  | cons cue rest ih =>
    rw [List.cons_append, recordedAfter, recordedAfter, ih, List.append_assoc, List.append_assoc]
    rfl

theorem recorded_append (first second : Tape) :
    recorded (first ++ second) = first.recorded ++ recordedAfter first second :=
  recordedAfter_append [] first second

theorem recorded_concat (tape : Tape) (cue : Cue) :
    recorded (tape ++ [cue]) = tape.recorded ++ (cue.recorded? tape.announced).toList := by
  rw [recorded_append, recordedAfter, recordedAfter, List.append_nil]

/-- What is recorded after a request does not depend on what came before it. -/
theorem recorded_append_asked (before later : Tape) (low high : Int)
    (answer : Except DrawFault Value) :
    recorded (before ++ .asked low high answer :: later) =
      before.recorded ++ ((Cue.asked low high answer).recorded? before.announced).toList ++
        later.recorded := by
  have forgets (more : Tape) : recordedAfter (before ++ .asked low high answer :: more) later =
      recordedAfter more later := by
    induction later generalizing more with
    | nil => rfl
    | cons cue rest ih =>
      rw [recordedAfter, recordedAfter, announced_append_asked, List.append_assoc,
        List.cons_append, ih]
  rw [recorded_append, recordedAfter, forgets [], List.append_assoc]
  rfl

end Tape

/-! ## What is done with a source -/

inductive Handling where
  | note (announcement : Announcement)
  | draw (low high : Int)
  | seed (value : Option Int)
  | generate (limit : Option Int) (tree : Tree)

/-- The announcement and the request of a draw. -/
def Exchange.tape (exchange : Exchange) : Tape :=
  [.noted exchange.announcement, .asked exchange.low exchange.high exchange.answer]

/-- All that the source of a visit heard and was asked. -/
def Visit.tape {σ α : Type} (visit : Visit σ α) : Tape :=
  visit.exchanges.flatMap Exchange.tape

namespace Source

variable {σ : Type}

/-- Does something with a source, given what a seed makes of its state. -/
def handle (source : Source σ) (seed : Option Int → σ → σ) (state : σ) : Handling → Tape × σ
  | .note announcement => ([.noted announcement], source.announce announcement state)
  | .draw low high =>
    ([.asked low high (source.draw low high state).1], (source.draw low high state).2)
  | .seed value => ([.seeded value], seed value state)
  | .generate limit tree =>
    ((tree.generate limit source state).tape, (tree.generate limit source state).source)

def handleAll (source : Source σ) (seed : Option Int → σ → σ) (state : σ) :
    List Handling → Tape × σ
  | [] => ([], state)
  | handling :: rest =>
    let (tape, after) := source.handle seed state handling
    let (further, last) := source.handleAll seed after rest
    (tape ++ further, last)

theorem handleAll_append (source : Source σ) (seed : Option Int → σ → σ) (state : σ)
    (first second : List Handling) :
    source.handleAll seed state (first ++ second) =
      ((source.handleAll seed state first).1 ++
          (source.handleAll seed (source.handleAll seed state first).2 second).1,
        (source.handleAll seed (source.handleAll seed state first).2 second).2) := by
  induction first generalizing state with
  | nil => rfl
  | cons handling rest ih =>
    simp only [List.cons_append, handleAll, ih, List.append_assoc]

end Source

/-! ## The trace of a recording source -/

namespace Traced

variable {σ : Type}

/-- The state after a seed, which is passed on. -/
def seed (reseed : Option Int → σ → σ) (value : Option Int) (traced : Traced σ) : Traced σ :=
  { traced with inner := reseed value traced.inner }

theorem record_eq (pending : Option Announcement) (low high : Int) (value : Value) (trace : Trace) :
    record pending low high value trace =
      ((Field.readInteger value).within (.field "value")).map fun number =>
        (⟨pending.map (·.scope), pending.map (·.purpose), low, high, number⟩,
          trace.push ⟨pending.map (·.scope), pending.map (·.purpose), low, high, number⟩) := by
  cases pending with
  | some announcement => exact record_announced announcement low high value trace
  | none =>
    simp only [record, Trace.addDraw, RecordedDraw.read]
    cases Field.readInteger value <;> rfl

/-- A request is recorded under what was announced, which is used up. A request that fails is not
recorded. -/
theorem draw_records {source : Source σ} {low high : Int} {traced after : Traced σ}
    {answer : Except DrawFault Value} (drawn : draw source low high traced = (answer, after)) :
    after.pending = none ∧
      after.trace =
        traced.trace.append ((Cue.asked low high answer).recorded? traced.pending).toList ∧
      ∀ value, answer = .ok value → ∃ number, Field.readInteger value = .ok number := by
  rcases given : source.draw low high traced.inner with ⟨fault | value, inner⟩
  · rw [draw_of_refused given] at drawn
    cases drawn
    exact ⟨rfl, (Trace.append_nil _).symm, by rintro _ ⟨⟩⟩
  · rw [draw, given] at drawn
    dsimp only at drawn
    rw [record_eq] at drawn
    cases read : Field.readInteger value with
    | error findings =>
      rw [read] at drawn
      cases drawn
      exact ⟨rfl, (Trace.append_nil _).symm, by rintro _ ⟨⟩⟩
    | ok number =>
      rw [read] at drawn
      cases drawn
      refine ⟨rfl, ?_, ?_⟩
      · rw [Cue.recorded?, read]
        rfl
      · rintro _ ⟨⟩
        exact ⟨number, read⟩

end Traced

namespace Tape

variable {σ : Type} {start : Trace} {tape : Tape} {traced : Traced σ}

/-- A recording source stands where its tape says: it recorded the draws of the tape since the
start, and keeps what was announced since the last request. -/
structure Accounts (start : Trace) (tape : Tape) (traced : Traced σ) : Prop where
  /-- The trace has gained the draws of the tape. -/
  trace : traced.trace = start.append tape.recorded
  /-- What was announced is kept for the next request. -/
  pending : traced.pending = tape.announced
  /-- Each value that was given can be read as a number. -/
  readable : ∀ low high value, .asked low high (.ok value) ∈ tape →
    ∃ number, Field.readInteger value = .ok number

namespace Accounts

theorem ofNew (inner : σ) (trace : Trace) : Accounts trace [] ({ inner, trace } : Traced σ) where
  trace := (Trace.append_nil trace).symm
  pending := rfl
  readable := nofun

variable (accounts : Accounts start tape traced)
include accounts

/-- What is no request leaves the trace alone. -/
theorem hear {cue : Cue} {after : Traced σ} (other : cue.isRequest = false)
    (trace : after.trace = traced.trace) (pending : after.pending = announced (tape ++ [cue])) :
    Accounts start (tape ++ [cue]) after where
  trace := by
    have silent : cue.recorded? tape.announced = none := by
      cases cue with
      | asked low high answer => cases other
      | _ => rfl
    rw [recorded_concat, silent]
    exact trace.trans (accounts.trace.trans (congrArg start.append (List.append_nil _).symm))
  pending := pending
  readable := by
    intro low high value member
    rcases List.mem_append.mp member with before | last
    · exact accounts.readable low high value before
    · obtain rfl := List.mem_singleton.mp last
      cases other

theorem note (announcement : Announcement) :
    Accounts start (tape ++ [.noted announcement]) (traced.announce announcement) :=
  accounts.hear rfl rfl (announced_noted tape announcement).symm

theorem seed (reseed : Option Int → σ → σ) (value : Option Int) :
    Accounts start (tape ++ [.seeded value]) (traced.seed reseed value) :=
  accounts.hear rfl rfl (accounts.pending.trans (announced_seeded tape value).symm)

theorem draw {source : Source σ} {low high : Int} {answer : Except DrawFault Value}
    {after : Traced σ} (drawn : Traced.draw source low high traced = (answer, after)) :
    Accounts start (tape ++ [.asked low high answer]) after := by
  obtain ⟨pending, trace, readable⟩ := Traced.draw_records drawn
  refine ⟨?_, pending.trans (announced_asked tape low high answer).symm, ?_⟩
  · rw [trace, accounts.trace, accounts.pending, recorded_concat, Trace.append_append]
  · intro least greatest value member
    rcases List.mem_append.mp member with before | last
    · exact accounts.readable least greatest value before
    · cases List.mem_singleton.mp last
      exact readable value rfl

/-- A visit makes its draws one after the other, each announced. -/
theorem run {α : Type} (source : Source σ) (dialogue : Dialogue α) :
    Accounts start (tape ++ (dialogue.run (Traced.source source) traced).tape)
      (dialogue.run (Traced.source source) traced).source := by
  induction dialogue generalizing tape traced with
  | finish result =>
    rw [show (Dialogue.run (Traced.source source) (.finish result) traced).tape = [] from rfl,
      List.append_nil]
    exact accounts
  | fail fault =>
    rw [show (Dialogue.run (Traced.source source) (.fail fault : Dialogue α) traced).tape = []
      from rfl, List.append_nil]
    exact accounts
  | emit literal rest ih => exact ih accounts
  | tell notice rest ih => exact ih accounts
  | ask announcement low high next ih =>
    have heard := accounts.note announcement
    rcases Dialogue.run_ask_cases (Traced.source source) announcement low high next traced with
      ⟨fault, after, drawn, run⟩ | ⟨value, after, drawn, outside, run⟩ |
      ⟨value, after, drawn, inside, run⟩
    · rw [run]
      have asked := heard.draw drawn
      rw [List.append_assoc] at asked
      exact asked
    · rw [run]
      have asked := heard.draw drawn
      rw [List.append_assoc] at asked
      exact asked
    · rw [run]
      have further := ih value.number (heard.draw drawn)
      rw [List.append_assoc, List.append_assoc] at further
      exact further

theorem handle (source : Source σ) (reseed : Option Int → σ → σ) (handling : Handling) :
    Accounts start
      (tape ++ ((Traced.source source).handle (Traced.seed reseed) traced handling).1)
      ((Traced.source source).handle (Traced.seed reseed) traced handling).2 := by
  cases handling with
  | note announcement => exact accounts.note announcement
  | draw low high => exact accounts.draw rfl
  | seed value => exact accounts.seed reseed value
  | generate limit tree =>
    rw [Source.handle, Tree.generate_eq_run]
    exact accounts.run source (tree.dialogue limit)

theorem handleAll (source : Source σ) (reseed : Option Int → σ → σ) (handlings : List Handling) :
    Accounts start
      (tape ++ ((Traced.source source).handleAll (Traced.seed reseed) traced handlings).1)
      ((Traced.source source).handleAll (Traced.seed reseed) traced handlings).2 := by
  induction handlings generalizing tape traced with
  | nil =>
    rw [Source.handleAll, List.append_nil]
    exact accounts
  | cons handling rest ih =>
    have further := ih (accounts.handle source reseed handling)
    rw [List.append_assoc] at further
    exact further

end Accounts

end Tape

/-! ## Recorders on a bench -/

/-- Sources that answer alike have the same tape, if seeds keep them alike. -/
theorem Source.Alike.handleAll {σ τ : Type} {source : Source σ} {other : Source τ}
    {linked : σ → τ → Prop} (alike : source.Alike other linked) {seed : Option Int → σ → σ}
    {reseed : Option Int → τ → τ}
    (seeds : ∀ value state twin, linked state twin → linked (seed value state) (reseed value twin))
    {state : σ} {twin : τ} (start : linked state twin) (handlings : List Handling) :
    (source.handleAll seed state handlings).1 = (other.handleAll reseed twin handlings).1 ∧
      linked (source.handleAll seed state handlings).2
        (other.handleAll reseed twin handlings).2 := by
  induction handlings generalizing state twin with
  | nil => exact ⟨rfl, start⟩
  | cons handling rest ih =>
    have step : (source.handle seed state handling).1 = (other.handle reseed twin handling).1 ∧
        linked (source.handle seed state handling).2 (other.handle reseed twin handling).2 := by
      cases handling with
      | note announcement => exact ⟨rfl, alike.announce announcement state twin start⟩
      | draw low high =>
        obtain ⟨same, still⟩ := alike.draw low high state twin start
        exact ⟨congrArg (fun answer => [Cue.asked low high answer]) same, still⟩
      | seed value => exact ⟨rfl, seeds value state twin start⟩
      | generate limit tree =>
        obtain ⟨-, events, still⟩ := alike.generate limit tree start
        refine ⟨?_, still⟩
        simp only [Source.handle, Visit.tape, Visit.exchanges, events]
    obtain ⟨tapes, further⟩ := ih step.2
    refine ⟨?_, further⟩
    simp only [Source.handleAll, step.1, tapes]

/-- The trace of a recorder on a bench gains the draws of its tape. -/
theorem Bench.trace?_handleAll {bench : Bench} {recorder behind : SourceId} {number : TraceId}
    {trace : Trace} (stands : bench.source? recorder = some (.recording behind number none))
    (known : bench.trace? number = some trace) (below : behind < recorder)
    (plain : bench.Plain behind) (handlings : List Handling) :
    let benched := (source recorder).handleAll (fun value bench => bench.seed recorder value) bench
      handlings
    benched.2.trace? number = some (trace.append benched.1.recorded) := by
  intro benched
  have seeds (value : Option Int) (traced : Traced Bench) (bench : Bench)
      (seats : Seats recorder behind number traced bench) :
      Seats recorder behind number
        (traced.seed (fun value bench => bench.seed behind value) value)
        (bench.seed recorder value) :=
    seats.seed below value
  obtain ⟨same, seats⟩ := (alike_of_below below).handleAll seeds
    (seats_self stands known plain) handlings
  have recorded := (Tape.Accounts.ofNew bench trace).handleAll (source behind)
    (fun value bench => bench.seed behind value) handlings
  rw [show benched.2 = _ from seats.made, trace?_withRecorder seats.kept, recorded.trace]
  exact congrArg (fun tape => some (trace.append (Tape.recorded tape))) same

/-! ## The label of each draw -/

/-- Each recorded draw is labelled by what was announced last since the request before, and by
nothing if there was no such announcement, whatever is done with a recording source, trees that fail
on the way included. A request that fails is not recorded, and what was announced for it is not
recorded later, either. Draws that are recorded stay as they are, and where they are. A recorder on
a bench keeps to the same. -/
theorem Traced.trace_of_handling {σ : Type} (source : Source σ) (reseed : Option Int → σ → σ)
    (inner : σ) (trace : Trace) (handlings : List Handling) :
    let handle := (Traced.source source).handleAll (Traced.seed reseed) { inner, trace }
    let tape := (handle handlings).1
    (handle handlings).2.trace = trace.append tape.recorded ∧
      (∀ (before : Tape) (low high : Int) (value : Value) (later : Tape),
          tape = before ++ .asked low high (.ok value) :: later →
        ∃ number, Field.readInteger value = .ok number ∧
          tape.recorded = before.recorded ++ ⟨before.announced.map (·.scope),
            before.announced.map (·.purpose), low, high, number⟩ :: later.recorded) ∧
      (∀ (before : Tape) (low high : Int) (fault : DrawFault) (later : Tape),
          tape = before ++ .asked low high (.error fault) :: later →
        tape.recorded = before.recorded ++ later.recorded) ∧
      (∀ earlier later, handlings = earlier ++ later →
        ∃ more, (handle handlings).2.trace = (handle earlier).2.trace.append more) ∧
      ∀ (bench : Bench) (recorder behind : SourceId) (number : TraceId),
        bench.source? recorder = some (.recording behind number none) →
          bench.trace? number = some trace → behind < recorder → bench.Plain behind →
            let benched := (Bench.source recorder).handleAll
              (fun value bench => bench.seed recorder value) bench handlings
            benched.2.trace? number = some (trace.append benched.1.recorded) := by
  intro handle tape
  have accounts (handlings : List Handling) :
      Tape.Accounts trace (handle handlings).1 (handle handlings).2 :=
    (Tape.Accounts.ofNew inner trace).handleAll source reseed handlings
  refine ⟨(accounts handlings).trace, ?_, ?_, ?_, ?_⟩
  · intro before low high value later split
    have member : Cue.asked low high (.ok value) ∈ tape := by
      rw [split]
      exact List.mem_append_right before List.mem_cons_self
    obtain ⟨number, read⟩ := (accounts handlings).readable low high value member
    refine ⟨number, read, ?_⟩
    rw [split, Tape.recorded_append_asked, Cue.recorded?, read, List.append_assoc]
    rfl
  · intro before low high fault later split
    rw [split, Tape.recorded_append_asked, List.append_assoc]
    rfl
  · rintro earlier later rfl
    obtain ⟨further, longer⟩ : ∃ further : Tape, tape = (handle earlier).1 ++ further :=
      ⟨_, congrArg Prod.fst
        (Source.handleAll_append _ (Traced.seed reseed) { inner, trace } earlier later)⟩
    refine ⟨Tape.recordedAfter (handle earlier).1 further, ?_⟩
    rw [(accounts (earlier ++ later)).trace, (accounts earlier).trace, Trace.append_append,
      ← Tape.recorded_append, ← longer]
  · intro bench recorder behind number stands known below plain
    exact Bench.trace?_handleAll stands known below plain handlings

/-- The first request is refused, so what was announced for it labels nothing. The next one is
unlabelled, and the last one has the later of two announcements. -/
theorem Traced.trace_of_handling_refused :
    let script : Scripted := { values := [.int 3, .int 1], expectation := .always (.int 0) (.int 5) }
    let bench : Bench :=
      { sources := #[.scripted script, .recording 0 0 none], traces := #[{ root := "book" }] }
    let first : Announcement := ⟨"page", "lines"⟩
    let second : Announcement := ⟨"line", "words"⟩
    let benched := (Bench.source 1).handleAll (fun value bench => bench.seed 1 value) bench
      [.note first, .draw 0 9, .draw 0 5, .note first, .note second, .draw 0 5]
    benched.2.trace? 0 = some
      { root := "book"
        draws := [⟨none, none, 0, 5, 3⟩, ⟨some "line", some "words", 0, 5, 1⟩] } := by
  intro script bench first second benched
  have plain : bench.Plain 0 := by
    rintro inner trace pending ⟨⟩
  obtain ⟨-, -, -, -, recorded⟩ := trace_of_handling (Bench.source 0)
    (fun value bench => bench.seed 0 value) bench { root := "book" }
    [.note first, .draw 0 9, .draw 0 5, .note first, .note second, .draw 0 5]
  have labelled : benched.1.recorded =
      [⟨none, none, 0, 5, 3⟩, ⟨some "line", some "words", 0, 5, 1⟩] := by
    decide +kernel
  rw [recorded bench 1 0 0 rfl rfl Nat.zero_lt_one plain, labelled]
  rfl

end PatternForge
