import PatternForge.Field
import PatternForge.Generation

/-!
# Traces

A trace keeps the draws of a run in the order in which they were made. A source can be wrapped so
that every value it gives is recorded, with what the last announcement since the draw before said.
-/

namespace PatternForge

structure RecordedDraw where
  /-- The scope that drew, if it announced itself. -/
  scope : Option Text
  /-- What the draw decided, if that was announced. -/
  purpose : Option Text
  low : Int
  high : Int
  value : Int
deriving DecidableEq

/-- A draw from the values of its fields; the findings come in the order of the fields. -/
def RecordedDraw.read (scope purpose low high value : Value) : Reading RecordedDraw :=
  let scope := (Field.readOptionalText scope).within (.field "scope")
  let purpose := (Field.readOptionalText purpose).within (.field "purpose")
  let low := (Field.readInteger low).within (.field "low")
  let high := (Field.readInteger high).within (.field "high")
  let value := (Field.readInteger value).within (.field "value")
  match scope, purpose, low, high, value with
  | .ok scope, .ok purpose, .ok low, .ok high, .ok value => .ok ⟨scope, purpose, low, high, value⟩
  | scope, purpose, low, high, value =>
    .error (scope.findings ++ purpose.findings ++ low.findings ++ high.findings ++ value.findings)

/-- The draws of a run. -/
structure Trace where
  root : Text
  output : Option Text := none
  draws : List RecordedDraw := []

namespace Trace

/-- A trace for a root of the given name. -/
def ofValue (root : Value) : Reading Trace :=
  Reading.within (.field "root") ((Field.readText root).map fun root => { root })

def append (trace : Trace) (steps : List RecordedDraw) : Trace :=
  { trace with draws := trace.draws ++ steps }

@[simp] theorem append_nil (trace : Trace) : trace.append [] = trace := by
  simp only [append, List.append_nil]

theorem append_append (trace : Trace) (first second : List RecordedDraw) :
    (trace.append first).append second = trace.append (first ++ second) := by
  simp only [append, List.append_assoc]

def push (trace : Trace) (step : RecordedDraw) : Trace :=
  trace.append [step]

/-- Adds a draw from the values of its fields. -/
def addDraw (trace : Trace) (scope purpose low high value : Value) :
    Reading (RecordedDraw × Trace) :=
  (RecordedDraw.read scope purpose low high value).map fun step => (step, trace.push step)

/-- How many draws have the given purpose and the given scope, so far as one is given. -/
def countDraws (trace : Trace) (purpose scope : Option Text) : Nat :=
  trace.draws.countP fun step =>
    (purpose.isNone || step.purpose == purpose) && (scope.isNone || step.scope == scope)

/-- The numbers drawn, in order. -/
def values (trace : Trace) : List Int :=
  trace.draws.map (·.value)

/-- The trace of a run that ended with the given text. -/
def complete (trace : Trace) (output : Text) : Trace :=
  { trace with output := some output }

def isComplete (trace : Trace) : Bool :=
  trace.output.isSome

/-- The ranges asked for, in order. -/
def ranges (trace : Trace) : List (Int × Int) :=
  trace.draws.map fun step => (step.low, step.high)

/-- The ranges as the value that tells a script what to expect. -/
def expected (trace : Trace) : Value :=
  .list (trace.ranges.map fun range => .pair (.int range.1) (.int range.2))

def countOf (trace : Trace) (purpose : Purpose) : Nat :=
  trace.countDraws (some purpose.name) none

end Trace

/-- The state of a source whose draws are recorded. -/
structure Traced (σ : Type) where
  inner : σ
  trace : Trace
  /-- What was announced since the last draw. -/
  pending : Option Announcement := none

namespace Traced

variable {σ : Type}

/-- The state before the first draw of a run from a scope of the given name. -/
def start (root : Text) (inner : σ) : Traced σ :=
  { inner, trace := { root } }

/-- The value of an announced text, or of its absence. -/
def label (text : Option Text) : Value :=
  match text with
  | some text => .text text
  | none => .null

/-- Adds the value of a request to a trace, under the label that was announced for it. -/
def record (pending : Option Announcement) (low high : Int) (value : Value) (trace : Trace) :
    Reading (RecordedDraw × Trace) :=
  trace.addDraw (label (pending.map (·.scope))) (label (pending.map (·.purpose))) (.int low)
    (.int high) value

/-- Hears an announcement. It is kept for the next request and goes no further. -/
def announce (announcement : Announcement) (traced : Traced σ) : Traced σ :=
  { traced with pending := some announcement }

/-- Passes a request on and records the value. The announcement is used up in any case. -/
def draw (source : Source σ) (low high : Int) (traced : Traced σ) :
    Except DrawFault Value × Traced σ :=
  match source.draw low high traced.inner with
  | (.error fault, inner) => (.error fault, { traced with inner, pending := none })
  | (.ok value, inner) =>
    match record traced.pending low high value traced.trace with
    | .ok (_, trace) => (.ok value, ⟨inner, trace, none⟩)
    | .error findings =>
      (.error (.unrecordable findings), { traced with inner, pending := none })

def source (source : Source σ) : Source (Traced σ) :=
  ⟨announce, draw source⟩

/-- Under an announcement only the value decides whether a draw can be recorded. -/
theorem record_announced (announcement : Announcement) (low high : Int) (value : Value)
    (trace : Trace) :
    record (some announcement) low high value trace =
      ((Field.readInteger value).within (.field "value")).map fun number =>
        (⟨some announcement.scope, some announcement.purpose, low, high, number⟩,
          trace.push ⟨some announcement.scope, some announcement.purpose, low, high, number⟩) := by
  simp only [record, Trace.addDraw, RecordedDraw.read]
  cases Field.readInteger value <;> rfl

theorem draw_of_refused {source : Source σ} {low high : Int} {traced : Traced σ}
    {fault : DrawFault} {after : σ}
    (drawn : source.draw low high traced.inner = (.error fault, after)) :
    draw source low high traced = (.error fault, { traced with inner := after, pending := none }) := by
  simp only [draw, drawn]

theorem inner_draw (source : Source σ) (low high : Int) (traced : Traced σ) :
    (draw source low high traced).2.inner = (source.draw low high traced.inner).2 := by
  rcases drawn : source.draw low high traced.inner with ⟨fault | value, inner⟩
  · rw [draw_of_refused drawn]
  · simp only [draw, drawn]
    cases record traced.pending low high value traced.trace <;> rfl

/-- A recording source gives no value but that of the source behind it. -/
theorem inner_of_draw_ok {source : Source σ} {low high : Int} {traced after : Traced σ}
    {value : Value} (answered : draw source low high traced = (.ok value, after)) :
    source.draw low high traced.inner = (.ok value, after.inner) := by
  rcases drawn : source.draw low high traced.inner with ⟨fault | given, inner⟩
  · rw [draw_of_refused drawn] at answered
    cases answered
  · cases recorded : record traced.pending low high given traced.trace with
    | error findings =>
      simp only [draw, drawn, recorded, Prod.mk.injEq, reduceCtorEq, false_and] at answered
    | ok step =>
      simp only [draw, drawn, recorded, Prod.mk.injEq, Except.ok.injEq] at answered
      obtain ⟨rfl, rfl⟩ := answered
      rfl

section Announced

variable {source : Source σ} {low high : Int} {traced : Traced σ} {announcement : Announcement}
  {value : Value} {number : Int} {findings : List Finding} {after : σ}
  (noted : traced.pending = some announcement)
  (drawn : source.draw low high traced.inner = (.ok value, after))
include noted drawn

theorem draw_of_read (read : Field.readInteger value = .ok number) :
    draw source low high traced = (.ok value,
      { inner := after
        trace := traced.trace.push
          ⟨some announcement.scope, some announcement.purpose, low, high, number⟩ }) := by
  simp only [draw, drawn, noted, record_announced, read]
  rfl

theorem draw_of_unread (unread : Field.readInteger value = .error findings) :
    draw source low high traced =
      (.error (.unrecordable (findings.map (Finding.within (.field "value")))),
        { traced with inner := after, pending := none }) := by
  simp only [draw, drawn, noted, record_announced, unread]
  rfl

/-- A whole number can always be recorded. -/
theorem draw_of_whole (is : value.toInt? = some number) :
    draw source low high traced = (.ok value,
      { inner := after
        trace := traced.trace.push
          ⟨some announcement.scope, some announcement.purpose, low, high, number⟩ }) :=
  draw_of_read noted drawn (Field.readInteger_of_toInt? is)

end Announced

end Traced

namespace Tree

variable {σ : Type}

/-- The text of a run from a fresh start and the trace of its draws. A run that fails gives
neither. -/
def trace (limit : Option Int) (source : Source σ) (tree : Tree) (state : σ) :
    Except GenerationFault (Text × Trace) :=
  let visit := tree.generate limit (Traced.source source) (Traced.start tree.name state)
  visit.outcome.map fun _ => (visit.text, visit.source.trace.complete visit.text)

end Tree

end PatternForge
