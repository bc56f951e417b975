import PatternForge.Proofs.Tracing
import PatternForge.Source.Bench

/-! # Recorders on the bench

A recorder on the bench keeps its announcement, its source and its trace in different places of the
bench. It acts as the recording source whose state is these three together (`generate_recorder`), as
long as its source is no recorder itself. What is known of recording sources carries over
(`generate_recorder_of_whole`).
-/

namespace PatternForge

namespace Bench

variable {bench : Bench} {id : SourceId}

/-- What stands under a number does not record. -/
def Plain (bench : Bench) (id : SourceId) : Prop :=
  ∀ inner trace pending, bench.source? id ≠ some (.recording inner trace pending)

/-- A source that does not record moves nothing but itself, and by itself only. -/
theorem draw_of_plain (plain : bench.Plain id) (low high : Int) :
    ∃ (answer : Except DrawFault Value) (moved : Option BenchSource),
      (∀ inner trace pending, moved ≠ some (.recording inner trace pending)) ∧
      ∀ also : Bench, also.source? id = bench.source? id →
        draw id low high also = (answer, moved.elim also (also.put id)) := by
  cases stands : bench.source? id with
  | none =>
    refine ⟨.error (.exhausted 0), none, by simp, fun also same => ?_⟩
    rw [draw, same]
    rfl
  | some source =>
    cases source with
    | twister state =>
      refine ⟨(state.draw low high).1, some (.twister (state.draw low high).2), by simp,
        fun also same => ?_⟩
      rw [draw, same]
      rfl
    | minimalStandard state =>
      refine ⟨(state.draw low high).1, some (.minimalStandard (state.draw low high).2), by simp,
        fun also same => ?_⟩
      rw [draw, same]
      rfl
    | scripted script =>
      refine ⟨(script.draw low high).1, some (.scripted (script.draw low high).2), by simp,
        fun also same => ?_⟩
      rw [draw, same]
      rfl
    | recording inner trace pending => exact absurd stands (plain inner trace pending)

/-- Seeding it moves nothing else, either. -/
theorem seed_of_plain (plain : bench.Plain id) (value : Option Int) :
    ∃ moved : Option BenchSource,
      (∀ inner trace pending, moved ≠ some (.recording inner trace pending)) ∧
      ∀ also : Bench, also.source? id = bench.source? id →
        also.seed id value = moved.elim also (also.put id) := by
  cases stands : bench.source? id with
  | none =>
    refine ⟨none, by simp, fun also same => ?_⟩
    rw [seed, same]
    rfl
  | some source =>
    cases source with
    | twister state =>
      refine ⟨some (.twister (.ofSeed (value.getD 0))), by simp, fun also same => ?_⟩
      rw [seed, same]
      rfl
    | minimalStandard state =>
      refine ⟨some (.minimalStandard (.ofSeed (value.getD 0))), by simp, fun also same => ?_⟩
      rw [seed, same]
      rfl
    | scripted script =>
      refine ⟨some (.scripted (script.seed value)), by simp, fun also same => ?_⟩
      rw [seed, same]
      rfl
    | recording inner trace pending => exact absurd stands (plain inner trace pending)

/-- A source that moves itself at most leaves every place on the bench, and does not become a
recorder unless it moves to one. -/
theorem moved_keeps (plain : bench.Plain id) {moved : Option BenchSource}
    (still : ∀ inner trace pending, moved ≠ some (.recording inner trace pending)) :
    (moved.elim bench (bench.put id)).sources.size = bench.sources.size ∧
      (moved.elim bench (bench.put id)).traces = bench.traces ∧
      (moved.elim bench (bench.put id)).Plain id := by
  cases moved with
  | none => exact ⟨rfl, rfl, plain⟩
  | some source =>
    refine ⟨size_sources_put _ _ _, rfl, ?_⟩
    intro inner trace pending stands
    simp only [Option.elim_some, source?, put, Array.getElem?_setIfInBounds_self] at stands
    split at stands
    · exact still inner trace pending stands
    · cases stands

theorem draw_keeps (plain : bench.Plain id) (low high : Int) :
    (draw id low high bench).2.sources.size = bench.sources.size ∧
      (draw id low high bench).2.traces = bench.traces ∧ (draw id low high bench).2.Plain id := by
  obtain ⟨answer, moved, still, alike⟩ := draw_of_plain plain low high
  rw [alike bench rfl]
  exact moved_keeps plain still

theorem announce_of_plain (plain : bench.Plain id) (announcement : Announcement) :
    announce id announcement bench = bench := by
  rw [announce]
  split
  · rename_i inner trace pending stands
    exact absurd stands (plain inner trace pending)
  · rfl

/-- A source that does not record hears nothing. -/
theorem alike_ofDraw (id : SourceId) :
    (source id).Alike (.ofDraw (draw id)) fun bench twin => bench = twin ∧ bench.Plain id where
  announce := by
    rintro announcement bench _ ⟨rfl, plain⟩
    change announce id announcement bench = bench ∧ (announce id announcement bench).Plain id
    rw [announce_of_plain plain]
    exact ⟨rfl, plain⟩
  draw := by
    rintro low high bench _ ⟨rfl, plain⟩
    obtain ⟨-, -, still⟩ := draw_keeps plain low high
    exact ⟨rfl, rfl, still⟩

/-- The bench with a recorder on it, from the state of what the recorder is made of. -/
def withRecorder (recorder inner : SourceId) (trace : TraceId) (traced : Traced Bench) : Bench :=
  (traced.inner.put recorder (.recording inner trace traced.pending)).putTrace trace traced.trace

variable {recorder inner : SourceId} {trace : TraceId} {traced : Traced Bench}

theorem source?_withRecorder (present : recorder < traced.inner.sources.size) :
    (withRecorder recorder inner trace traced).source? recorder =
      some (.recording inner trace traced.pending) :=
  source?_put_self present _

theorem trace?_withRecorder (kept : trace < traced.inner.traces.size) :
    (withRecorder recorder inner trace traced).trace? trace = some traced.trace := by
  simp only [withRecorder, trace?, putTrace]
  exact Array.getElem?_setIfInBounds_self_of_lt kept

theorem put_withRecorder (pending : Option Announcement) :
    (withRecorder recorder inner trace traced).put recorder (.recording inner trace pending) =
      withRecorder recorder inner trace { traced with pending } :=
  congrArg (putTrace · trace traced.trace) (put_put _ _ _ _)

theorem putTrace_withRecorder (recorded : Trace) :
    (withRecorder recorder inner trace traced).putTrace trace recorded =
      withRecorder recorder inner trace { traced with trace := recorded } :=
  putTrace_putTrace _ _ _ _

theorem record_withRecorder (kept : trace < traced.inner.traces.size) (low high : Int)
    (pending : Option Announcement) (value : Value) :
    (withRecorder recorder inner trace traced).record trace pending low high value =
      match Traced.record pending low high value traced.trace with
      | .ok (_, recorded) =>
        (.ok value, withRecorder recorder inner trace { traced with trace := recorded })
      | .error findings =>
        (.error (.unrecordable findings), withRecorder recorder inner trace traced) := by
  simp only [record, trace?_withRecorder kept]
  cases Traced.record pending low high value traced.trace with
  | error findings => rfl
  | ok step =>
    simp only [putTrace_withRecorder]

/-- The source behind a recorder stands elsewhere, so it moves the same with the recorder and
without it. -/
theorem moved_withRecorder (below : inner < recorder) (moved : Option BenchSource) :
    moved.elim (withRecorder recorder inner trace traced)
        ((withRecorder recorder inner trace traced).put inner) =
      withRecorder recorder inner trace
        { traced with inner := moved.elim traced.inner (traced.inner.put inner) } := by
  cases moved with
  | none => rfl
  | some source =>
    exact congrArg (putTrace · trace traced.trace) (put_comm (Nat.ne_of_gt below) _ _)

/-- A recorder answers as the recording source does, and leaves what that leaves. -/
theorem draw_withRecorder (below : inner < recorder) (present : recorder < traced.inner.sources.size)
    (kept : trace < traced.inner.traces.size) (plain : traced.inner.Plain inner) (low high : Int) :
    draw recorder low high (withRecorder recorder inner trace traced) =
      ((Traced.draw (source inner) low high traced).1,
        withRecorder recorder inner trace (Traced.draw (source inner) low high traced).2) := by
  obtain ⟨answer, moved, still, alike⟩ := draw_of_plain plain low high
  have alone : (source inner).draw low high traced.inner = _ := alike traced.inner rfl
  have behind := alike (withRecorder recorder inner trace { traced with pending := none })
    (source?_put_of_ne (Nat.ne_of_gt below) _)
  rw [moved_withRecorder below] at behind
  have roomy : trace < (moved.elim traced.inner (traced.inner.put inner)).traces.size := by
    cases moved <;> exact kept
  rw [draw, source?_withRecorder present]
  simp only [below, ↓reduceIte, put_withRecorder, behind]
  cases answer with
  | error fault => simp only [Traced.draw, alone]
  | ok value =>
    simp only [Traced.draw, alone]
    rw [record_withRecorder roomy]
    cases Traced.record traced.pending low high value traced.trace <;> rfl

/-- A recorder passes a seed on. -/
theorem seed_withRecorder (below : inner < recorder) (present : recorder < traced.inner.sources.size)
    (plain : traced.inner.Plain inner) (value : Option Int) :
    (withRecorder recorder inner trace traced).seed recorder value =
      withRecorder recorder inner trace { traced with inner := traced.inner.seed inner value } := by
  obtain ⟨moved, -, alike⟩ := seed_of_plain plain value
  have behind := alike (withRecorder recorder inner trace traced)
    (source?_put_of_ne (Nat.ne_of_gt below) _)
  rw [moved_withRecorder below] at behind
  rw [seed, source?_withRecorder present]
  simp only [below, ↓reduceIte, behind, alike traced.inner rfl]

/-- A bench and the state of a recording source that acts as the recorder on it. -/
structure Seats (recorder inner : SourceId) (trace : TraceId) (traced : Traced Bench)
    (bench : Bench) : Prop where
  /-- The recorder stands on the bench with the trace and what was announced. -/
  made : bench = withRecorder recorder inner trace traced
  present : recorder < traced.inner.sources.size
  kept : trace < traced.inner.traces.size
  plain : traced.inner.Plain inner

/-- A recorder over a source that does not record acts as the recording source. -/
theorem alike_of_below (below : inner < recorder) :
    (Traced.source (source inner)).Alike (source recorder) (Seats recorder inner trace) where
  announce := by
    rintro announcement traced _ ⟨rfl, present, kept, plain⟩
    refine ⟨?_, present, kept, plain⟩
    change announce recorder announcement (withRecorder recorder inner trace traced) = _
    rw [announce, source?_withRecorder present]
    exact put_withRecorder _
  draw := by
    rintro low high traced _ ⟨rfl, present, kept, plain⟩
    have same := draw_withRecorder below present kept plain low high
    have after := Traced.inner_draw (source inner) low high traced
    obtain ⟨places, traces, still⟩ := draw_keeps plain low high
    refine ⟨congrArg Prod.fst same.symm, congrArg Prod.snd same, ?_, ?_, ?_⟩
    · change recorder < (Traced.draw (source inner) low high traced).2.inner.sources.size
      rw [after]
      exact places ▸ present
    · change trace < (Traced.draw (source inner) low high traced).2.inner.traces.size
      rw [after]
      exact traces ▸ kept
    · change (Traced.draw (source inner) low high traced).2.inner.Plain inner
      rw [after]
      exact still

/-- It still does after a seed, which the recorder passes on. -/
theorem Seats.seed (below : inner < recorder) (seats : Seats recorder inner trace traced bench)
    (value : Option Int) :
    Seats recorder inner trace { traced with inner := traced.inner.seed inner value }
      (bench.seed recorder value) := by
  obtain ⟨rfl, present, kept, plain⟩ := seats
  obtain ⟨moved, still, alike⟩ := seed_of_plain plain value
  obtain ⟨places, traces, plainly⟩ := moved_keeps plain still
  rw [← alike traced.inner rfl] at places traces plainly
  exact ⟨seed_withRecorder below present plain value, places ▸ present, traces ▸ kept, plainly⟩

private theorem setIfInBounds_of_getElem? {α : Type} {places : Array α} {index : Nat} {present : α}
    (found : places[index]? = some present) : places.setIfInBounds index present = places := by
  obtain ⟨inside, rfl⟩ := Array.getElem?_eq_some_iff.mp found
  simp only [Array.setIfInBounds, inside, ↓reduceDIte, Array.set_getElem_self]

theorem withRecorder_self {written : Trace} {pending : Option Announcement}
    (stands : bench.source? recorder = some (.recording inner trace pending))
    (known : bench.trace? trace = some written) :
    withRecorder recorder inner trace ⟨bench, written, pending⟩ = bench := by
  simp only [withRecorder, put, putTrace]
  rw [setIfInBounds_of_getElem? stands, setIfInBounds_of_getElem? known]

/-- A bench that a recorder stands on is the state of a recording source. -/
theorem seats_self {written : Trace} {pending : Option Announcement}
    (stands : bench.source? recorder = some (.recording inner trace pending))
    (known : bench.trace? trace = some written) (plain : bench.Plain inner) :
    Seats recorder inner trace ⟨bench, written, pending⟩ bench where
  made := (withRecorder_self stands known).symm
  present := (Array.getElem?_eq_some_iff.mp stands).choose
  kept := (Array.getElem?_eq_some_iff.mp known).choose
  plain := plain

end Bench

namespace Tree

variable {bench : Bench} {recorder inner : SourceId} {trace : TraceId} {written : Trace}
  {pending : Option Announcement}

theorem generate_of_plain (plain : bench.Plain inner) (limit : Option Int) (tree : Tree) :
    tree.generate limit (Bench.source inner) bench =
      tree.generate limit (.ofDraw (Bench.draw inner)) bench := by
  obtain ⟨outcome, events, same, -⟩ :=
    (Bench.alike_ofDraw inner).generate limit tree (And.intro rfl plain)
  exact Visit.ext outcome events same

section Recorder

variable (stands : bench.source? recorder = some (.recording inner trace pending))
  (known : bench.trace? trace = some written) (below : inner < recorder)
  (plain : bench.Plain inner) (limit : Option Int) (tree : Tree)
include stands known below plain

/-- A run with a recorder on a bench is the run with the recording source that the recorder, its
source and its trace make up. -/
theorem generate_recorder :
    let recorded :=
      tree.generate limit (Traced.source (Bench.source inner)) ⟨bench, written, pending⟩
    tree.generate limit (Bench.source recorder) bench =
      { outcome := recorded.outcome
        events := recorded.events
        source := Bench.withRecorder recorder inner trace recorded.source } := by
  obtain ⟨outcome, events, seats⟩ :=
    (Bench.alike_of_below below).generate limit tree (Bench.seats_self stands known plain)
  dsimp only at outcome events seats ⊢
  rw [outcome, events, ← seats.made]

/-- So it does what the run with its source does, and the draws are written to its trace. -/
theorem generate_recorder_of_whole
    (whole : ∀ exchange ∈ (tree.generate limit (Bench.source inner) bench).exchanges,
      exchange.isWhole) :
    let alone := tree.generate limit (Bench.source inner) bench
    tree.generate limit (Bench.source recorder) bench =
      { outcome := alone.outcome
        events := alone.events
        source := Bench.withRecorder recorder inner trace
          (Traced.after ⟨bench, written, pending⟩ alone) } := by
  rw [generate_of_plain plain] at whole ⊢
  have recorded : tree.generate limit (Traced.source (Bench.source inner))
      ⟨bench, written, pending⟩ = _ := generate_traced whole
  rw [generate_recorder stands known below plain, recorded]

end Recorder

end Tree

end PatternForge
