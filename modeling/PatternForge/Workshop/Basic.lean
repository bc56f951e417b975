import PatternForge.Scope.Planting
import PatternForge.Settings.Desk
import PatternForge.Sink
import PatternForge.Workshop.Fault

/-!
# The workshop

The workshop holds all that outlives a piece of work: the forest of scopes, the bench of sources and
traces, the sinks, the settings in use and the journal. A piece of work that fails leaves behind
what it did before.
-/

namespace PatternForge

/-- A sink of a workshop, by the order in which they were made. -/
abbrev SinkId := Nat

/-- All that outlives a piece of work. -/
structure Workshop where
  forest : Forest := {}
  bench : Bench := {}
  sinks : Array Sink := #[]
  desk : Desk := {}
  journal : Journal := {}

abbrev Work := ExceptT WorkFault (StateM Workshop)

namespace Work

/-- The answer of a part of the workshop. -/
def ofExcept {ε α : Type} (fault : ε → WorkFault) : Except ε α → Work α
  | .ok result => pure result
  | .error error => throw (fault error)

/-- How a piece of work ends. -/
def attempt {α : Type} (work : Work α) : Work (Except WorkFault α) :=
  ExceptT.lift work.run

def write (writer : Writer) (message : Text) : Work Unit :=
  modify fun shop => { shop with journal := shop.journal.write writer message }

/-! ## Settings -/

def settings : Work Settings := do
  let (answer, desk) := (← get).desk.settings
  modify fun shop => { shop with desk }
  ofExcept .settings answer

/-- The settings as they would be read now. -/
def freshSettings : Work Settings := do
  ofExcept .settings (← get).desk.load

/-- Puts the settings in use away. -/
def clearSettings : Work Unit :=
  modify fun shop => { shop with desk := shop.desk.clear }

/-- Binds a name of the environment, or unbinds it. -/
def bindVariable (name : Text) (value : Option Text) : Work Unit :=
  modify fun shop => { shop with desk := shop.desk.bind name value }

/-- Sets the level of the journal, by the settings if no value is given. The level is given back as
the number that it is or was given as. -/
def setJournalLevel (value : Value) : Work Value := do
  let value ←
    match value with
    | .scalar .null => pure (.text (← settings).logLevel)
    | value => pure value
  let level ← ofExcept .level (levelOfValue value)
  modify fun shop => { shop with journal := shop.journal.setLevel level }
  return if value.toInt?.isSome then value else .int level

/-! ## Scopes -/

def modifyForest (change : Forest → Forest) : Work Unit :=
  modify fun shop => { shop with forest := change shop.forest }

def makeLiteral (name : Text) (pool : List Text) : Work ScopeId := do
  let (forest, id) := (← get).forest.addLiteral name pool
  modifyForest fun _ => forest
  return id

def makeGroup (name : Text) (alternating : Bool) : Work ScopeId := do
  let (forest, id) := (← get).forest.addGroup name alternating
  modifyForest fun _ => forest
  return id

def displayScope (id : ScopeId) : Work Text := do
  match (← get).forest.node? id with
  | none => return []
  | some node =>
    match node.written? with
    | some text => return text
    | none => throw .unwritable

def attach (group child : ScopeId) : Work Unit := do
  let forest ← ofExcept .attach ((← get).forest.attach group child)
  modifyForest fun _ => forest

/-- The description that a value holds. -/
def describe (value : Value) : Work Description :=
  ofExcept .description (Description.read value)

def plant (description : Description) : Work ScopeId := do
  let (forest, id) ← ofExcept .attach (description.plant (← get).forest)
  modifyForest fun _ => forest
  return id

/-- Makes the scopes that a value describes. Descriptions may be nested to any depth, whatever an
interpreter's stack allows. -/
def build (value : Value) : Work ScopeId := do
  plant (← ofExcept .load (Description.ofValue value))

/-- Makes the scopes that a document describes. -/
def loadText (text : Text) : Work ScopeId := do
  plant (← ofExcept .load (Description.ofDocument text))

/-- Makes the scopes that the document in a file describes. -/
def loadFile (path : Path) : Work ScopeId := do
  match (← get).desk.files.entry path with
  | .error absence => throw (.file (.ofAbsence path absence))
  | .ok entry =>
    write .builder ("Loading scope description from " ++ path.display)
    loadText (← ofExcept .file (FileStore.textOfEntry path entry))

/-- The limit on repetitions for a visit that starts at a scope of the given bounds. It is asked for
only where the bounds by themselves are in order. -/
def limitFor (bounds : Bounds) : Work (Option Int) := do
  if bounds.Ordered then return (← settings).maxOccurrencesLimit else return none

/-- Checks the bounds of a scope. -/
def validate (id : ScopeId) : Work Unit := do
  match (← get).forest.node? id with
  | none => return
  | some node =>
    match node.bounds.fault? node.name (← limitFor node.bounds) with
    | some fault => throw (.generation (.scope fault))
    | none => return

/-! ## Sources and traces -/

def modifyBench (change : Bench → Bench) : Work Unit :=
  modify fun shop => { shop with bench := change shop.bench }

/-- Puts a source on the bench. -/
def addSource (source : BenchSource) : Work SourceId := do
  let (bench, id) := (← get).bench.add source
  modifyBench fun _ => bench
  return id

/-- Makes a script, given the value that states what it expects. -/
def makeScript (values : List Value) (expected : Value) (repeats : Bool) (top : Option Int) :
    Work SourceId := do
  let expectation ← ofExcept .expectation (Expectation.ofValue expected)
  let script : Scripted := { values, expectation, repeats }
  addSource (.scripted { script with top := top.getD script.top })

/-- Makes a generator by name. The settings stand in for a name or a seed that is not given; an
empty name counts as none. -/
def makeNamed (name : Option Text) (seed : Option Int) : Work SourceId := do
  let settings ← settings
  let given := name.getD []
  let name := (if given.isEmpty then settings.randomSource else given).lower
  let seed := seed <|> settings.defaultSeed
  match Generator.ofName? name with
  | none => throw (.unknownGenerator name)
  | some generator =>
    write .sources ("Creating " ++ name ++ " random source (seed="
      ++ (seed.map Text.ofInt).getD (Scalar.display .null) ++ ")")
    addSource (generator.start seed)

def draw (source : SourceId) (low high : Int) : Work Value := do
  let (answer, bench) := (← get).bench.draw source low high
  modifyBench fun _ => bench
  ofExcept .draw answer

/-- Checks a range against what a source claims to give. -/
def checkRange (source : SourceId) (low high : Int) : Work Unit := do
  match rangeFault? ((← get).bench.top source) low high with
  | some fault => throw (.draw fault)
  | none => return

/-- Starts a trace whose root has the name that a value gives. -/
def makeTrace (root : Value) : Work TraceId := do
  let trace ← ofExcept .trace (Trace.ofValue root)
  let (bench, id) := (← get).bench.addTrace trace
  modifyBench fun _ => bench
  return id

def keepTrace (trace : Trace) : Work TraceId := do
  let (bench, id) := (← get).bench.addTrace trace
  modifyBench fun _ => bench
  return id

def modifyTrace (id : TraceId) (change : Trace → Trace) : Work Unit :=
  modifyBench fun bench =>
    match bench.trace? id with
    | some trace => bench.putTrace id (change trace)
    | none => bench

/-- Adds a draw to a trace, from the values of its fields. -/
def addDraw (id : TraceId) (scope purpose low high value : Value) : Work RecordedDraw := do
  let step ← ofExcept (.draw ∘ .unrecordable) (RecordedDraw.read scope purpose low high value)
  modifyTrace id (·.push step)
  return step

/-! ## Sinks -/

def addSink (sink : Sink) : Work SinkId := do
  let shop ← get
  set { shop with sinks := shop.sinks.push sink }
  return shop.sinks.size

def modifySink (id : SinkId) (change : Sink → Sink) : Work Unit :=
  modify fun shop => { shop with sinks := shop.sinks.modify id change }

end Work

end PatternForge
