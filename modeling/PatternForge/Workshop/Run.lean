import PatternForge.Workshop.Basic

/-!
# Runs

A run generates from a tree of the workshop. It asks for the settings at most once, before anything
is drawn, and leaves its notices in the journal.
-/

namespace PatternForge

/-- The end of a run and everything that it did. -/
structure Run (σ : Type) where
  outcome : Except WorkFault Unit
  emitted : List Text := []
  source : σ

namespace Run

variable {σ : Type}

/-- The run that a visit is. -/
def ofVisit (visit : Visit σ Unit) : Run σ where
  outcome := visit.outcome.mapError .generation
  emitted := visit.emitted
  source := visit.source

/-- The text of a run so far as it came. -/
def text (run : Run σ) : Text :=
  run.emitted.flatten

/-- The text of a run that ended well. -/
def result (run : Run σ) : Except WorkFault Text :=
  run.outcome.map fun _ => run.text

end Run

namespace Work

/-- Who tells an observer of a visit. -/
def writerOf : Notice → Writer
  | .emitting .. => .literalScope
  | .repeating .. => .groupScope

/-- Does something with a source of the bench, and leaves its notices in the journal. -/
def visit {α : Type} (visiting : Visiting Bench α) : Work α := do
  let visit := visiting (← get).bench
  modifyBench fun _ => visit.source
  visit.notices.forM fun notice => write (writerOf notice) notice.message
  ofExcept .generation visit.outcome

/-- Generates from a tree with a source in a given state. -/
def generateFrom {σ : Type} (tree : Tree) (source : Source σ) (state : σ) : Work (Run σ) := do
  match ← attempt (limitFor tree.bounds) with
  | .error fault => return { outcome := .error fault, source := state }
  | .ok limit =>
    let visit := tree.generate limit source state
    visit.notices.forM fun notice => write (writerOf notice) notice.message
    return .ofVisit visit

/-- Generates from a tree with a source of the bench. -/
def generate (tree : Tree) (source : SourceId) : Work (Run Bench) := do
  let run ← generateFrom tree (Bench.source source) (← get).bench
  modifyBench fun _ => run.source
  return run

/-- Generates from a tree with a source of the bench and records the draws. -/
def generateTraced (tree : Tree) (source : SourceId) : Work (Run (Traced Bench)) := do
  let start := Traced.start tree.name (← get).bench
  let run ← generateFrom tree (Traced.source (Bench.source source)) start
  modifyBench fun _ => run.source.inner
  return run

/-- Generates from a tree into a sink. What was emitted before a fault stays there. -/
def generateInto (tree : Tree) (source : SourceId) (sink : SinkId) : Work Unit := do
  let run ← generate tree source
  modifySink sink (Sink.append run.emitted)
  ofExcept id run.outcome

def render (tree : Tree) (source : SourceId) : Work Text := do
  ofExcept id (← generate tree source).result

/-- The text of a run and the trace of its draws. -/
def trace (tree : Tree) (source : SourceId) : Work (Text × Trace) := do
  let run ← generateTraced tree source
  let text ← ofExcept id run.result
  return (text, run.source.trace.complete text)

def resolve (scope : ScopeId) (source : SourceId) : Work Value := do
  match (← get).forest.node? scope with
  | none => return .int 0
  | some node => visit (node.bounds.resolve (Bench.source source) node.name)

/-- Draws for a scope and checks the value. -/
def drawFor (scope : ScopeId) (source : SourceId) (purpose : Text) (low high : Int) :
    Work Value := do
  visit (drawValue (Bench.source source) ((← get).forest.nameOf scope) purpose low high)

end Work

end PatternForge
