import PatternForge.Source.MinimalStandard
import PatternForge.Source.Scripted
import PatternForge.Source.Twister
import PatternForge.Trace

/-!
# The bench of sources

Sources that are shared by name: whoever draws from one moves it on for all others. A recording
source draws from one that stood on the bench before it, so no request goes round in a circle.
-/

namespace PatternForge

/-- A source of a bench, by the order in which they were made. -/
abbrev SourceId := Nat

/-- A trace of a bench, by the order in which they were made. -/
abbrev TraceId := Nat

inductive BenchSource where
  | twister (state : Twister)
  | minimalStandard (state : MinimalStandard)
  | scripted (script : Scripted)
  /-- A source that records the draws from another in a trace. -/
  | recording (inner : SourceId) (trace : TraceId) (pending : Option Announcement)

/-- All sources and traces made so far. -/
structure Bench where
  sources : Array BenchSource := #[]
  traces : Array Trace := #[]

namespace Bench

def source? (bench : Bench) (id : SourceId) : Option BenchSource :=
  bench.sources[id]?

def trace? (bench : Bench) (id : TraceId) : Option Trace :=
  bench.traces[id]?

def add (bench : Bench) (source : BenchSource) : Bench × SourceId :=
  ({ bench with sources := bench.sources.push source }, bench.sources.size)

def addTrace (bench : Bench) (trace : Trace) : Bench × TraceId :=
  ({ bench with traces := bench.traces.push trace }, bench.traces.size)

def put (bench : Bench) (id : SourceId) (source : BenchSource) : Bench :=
  { bench with sources := bench.sources.setIfInBounds id source }

def putTrace (bench : Bench) (id : TraceId) (trace : Trace) : Bench :=
  { bench with traces := bench.traces.setIfInBounds id trace }

@[simp] theorem size_sources_put (bench : Bench) (id : SourceId) (source : BenchSource) :
    (bench.put id source).sources.size = bench.sources.size := by
  simp [put]

theorem source?_put_self {bench : Bench} {id : SourceId} (present : id < bench.sources.size)
    (source : BenchSource) : (bench.put id source).source? id = some source := by
  simp only [source?, put, Array.getElem?_setIfInBounds_self_of_lt present]

theorem source?_put_of_ne {bench : Bench} {id other : SourceId} (different : id ≠ other)
    (source : BenchSource) : (bench.put id source).source? other = bench.source? other := by
  simp only [source?, put, Array.getElem?_setIfInBounds_ne different]

@[simp] theorem put_put (bench : Bench) (id : SourceId) (first second : BenchSource) :
    (bench.put id first).put id second = bench.put id second := by
  simp only [put, Array.setIfInBounds_setIfInBounds]

theorem put_comm {bench : Bench} {id other : SourceId} (different : id ≠ other)
    (first second : BenchSource) :
    (bench.put id first).put other second = (bench.put other second).put id first := by
  simp only [put, Array.setIfInBounds_comm _ _ different]

@[simp] theorem putTrace_putTrace (bench : Bench) (number : TraceId) (first second : Trace) :
    (bench.putTrace number first).putTrace number second = bench.putTrace number second := by
  simp only [putTrace, Array.setIfInBounds_setIfInBounds]

/-- Adds the value of a request to a trace. -/
def record (bench : Bench) (id : TraceId) (pending : Option Announcement) (low high : Int)
    (value : Value) : Except DrawFault Value × Bench :=
  match bench.trace? id with
  | none => (.ok value, bench)
  | some trace =>
    match Traced.record pending low high value trace with
    | .ok (_, trace) => (.ok value, bench.putTrace id trace)
    | .error findings => (.error (.unrecordable findings), bench)

/-- Answers a request. What stands for no source answers like a script without values. -/
def draw (id : SourceId) (low high : Int) (bench : Bench) : Except DrawFault Value × Bench :=
  match bench.source? id with
  | none => (.error (.exhausted 0), bench)
  | some (.twister state) =>
    let (answer, state) := state.draw low high
    (answer, bench.put id (.twister state))
  | some (.minimalStandard state) =>
    let (answer, state) := state.draw low high
    (answer, bench.put id (.minimalStandard state))
  | some (.scripted script) =>
    let (answer, script) := script.draw low high
    (answer, bench.put id (.scripted script))
  | some (.recording inner trace pending) =>
    let bench := bench.put id (.recording inner trace none)
    if inner < id then
      match draw inner low high bench with
      | (.error fault, bench) => (.error fault, bench)
      | (.ok value, bench) => bench.record trace pending low high value
    else (.error (.exhausted 0), bench)

/-- Hears an announcement. Only a recording source listens, and keeps it to itself. -/
def announce (id : SourceId) (announcement : Announcement) (bench : Bench) : Bench :=
  match bench.source? id with
  | some (.recording inner trace _) => bench.put id (.recording inner trace (some announcement))
  | _ => bench

def source (id : SourceId) : Source Bench :=
  ⟨announce id, draw id⟩

/-- The greatest number that a source claims to give. -/
def top (bench : Bench) (id : SourceId) : Int :=
  match bench.source? id with
  | none => 0
  | some (.twister _) => Twister.top
  | some (.minimalStandard _) => MinimalStandard.top
  | some (.scripted script) => script.top
  | some (.recording inner _ _) => if inner < id then bench.top inner else 0

/-- Seeds a source; a recording source seeds the one that it draws from. Without a seed a generator
would start from entropy that nobody can foresee. That is left out: it starts as from zero. -/
def seed (bench : Bench) (id : SourceId) (value : Option Int) : Bench :=
  match bench.source? id with
  | none => bench
  | some (.twister _) => bench.put id (.twister (.ofSeed (value.getD 0)))
  | some (.minimalStandard _) => bench.put id (.minimalStandard (.ofSeed (value.getD 0)))
  | some (.scripted script) => bench.put id (.scripted (script.seed value))
  | some (.recording inner _ _) => if inner < id then bench.seed inner value else bench

end Bench

/-- The two kinds of generator that a seed determines. -/
inductive Generator where
  | twister
  | minimalStandard
deriving DecidableEq

namespace Generator

def name : Generator → Text
  | twister => "mersenne"
  | minimalStandard => "simple"

/-- The generators by the order of their names. -/
def all : List Generator := [twister, minimalStandard]

def ofName? (name : Text) : Option Generator :=
  all.find? fun generator => generator.name = name

/-- The generator started from a seed. Entropy that would stand in for a missing one is left out:
the generator then starts as from zero. -/
def start (generator : Generator) (seed : Option Int) : BenchSource :=
  match generator with
  | twister => .twister (.ofSeed (seed.getD 0))
  | minimalStandard => .minimalStandard (.ofSeed (seed.getD 0))

end Generator

end PatternForge
