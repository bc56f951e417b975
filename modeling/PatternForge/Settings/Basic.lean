import PatternForge.Field
import PatternForge.Files
import PatternForge.Settings.Lines
import PatternForge.Text.Casing

/-!
# Settings

The settings are read from the environment and from a settings file; the environment wins. Names
count without their case, and of two names that differ only in case the later one counts.
-/

namespace PatternForge

/-- Names bound to texts, in the order in which they were first bound. -/
abbrev Environment := List (Text × Text)

namespace Environment

/-- Binds a name, which keeps its place if it is bound already. -/
def insert {α : Type} (entries : List (Text × α)) (name : Text) (value : α) : List (Text × α) :=
  if entries.any (·.1 = name) then
    entries.map fun entry => if entry.1 = name then (name, value) else entry
  else entries ++ [(name, value)]

def erase (environment : Environment) (name : Text) : Environment :=
  environment.filter (·.1 ≠ name)

/-- What a reference of a settings file stands for: a binding of an earlier line, or of the
environment, or what the reference itself gives. -/
def meaning (environment : Environment) (bound : List (Text × Option Text)) (name absent : Text) :
    Text :=
  match bound.lookup name with
  | some value => value.getD []
  | none => (environment.lookup name).getD absent

/-- The bindings of a settings file with their references resolved. -/
def withFile (environment : Environment) (bindings : List Binding) : List (Text × Option Text) :=
  bindings.foldl (fun bound binding =>
    insert bound binding.name
      (binding.value.map (Binding.resolve (meaning environment bound)))) []

/-- The last binding of a name in lower case. -/
def last? {α : Type} (entries : List (Text × α)) (name : Text) : Option α :=
  (entries.filter (·.1.lower = name)).getLast?.map Prod.snd

end Environment

structure Settings where
  randomSource : Text := "mersenne"
  defaultSeed : Option Int := none
  /-- No scope may repeat more often. -/
  maxOccurrencesLimit : Option Int := none
  logLevel : Text := "WARNING"
deriving DecidableEq

inductive SettingsFault where
  | invalid (findings : List Finding)
  | unreadable (fault : FileFault)

namespace Settings

def domain : Text := "reverse_pattern_"

/-- The reading of a setting, which has a value when nothing is bound to its name. -/
def field {α : Type} (valueOf : Text → Option Text) (name : String) (absent : α)
    (read : Value → Reading α) : Reading α :=
  Reading.within (.field name) <|
    match valueOf (domain ++ Text.ofString name) with
    | some text => read (.text text)
    | none => .ok absent

def read (valueOf : Text → Option Text) : Reading Settings :=
  let usual : Settings := {}
  let source := field valueOf "random_source" usual.randomSource Field.readText
  let seed := field valueOf "default_seed" usual.defaultSeed Field.readOptionalInteger
  let limit := field valueOf "max_occurrences_limit" usual.maxOccurrencesLimit
    Field.readOptionalInteger
  let level := field valueOf "log_level" usual.logLevel Field.readText
  match source, seed, limit, level with
  | .ok source, .ok seed, .ok limit, .ok level => .ok ⟨source, seed, limit, level⟩
  | source, seed, limit, level =>
    .error (source.findings ++ seed.findings ++ limit.findings ++ level.findings)

def path : Path := .ofText ".env"

/-- The text of the settings file; where there is none it is empty. -/
def fileText (files : FileStore) : Except FileFault Text :=
  match files.entry path with
  | .ok (.file octets) => FileStore.textOf octets
  | _ => .ok []

/-- The settings of an environment and the files that go with it. -/
def load (environment : Environment) (files : FileStore) : Except SettingsFault Settings :=
  match fileText files with
  | .error fault => .error (.unreadable fault)
  | .ok text =>
    let bound := environment.withFile (Binding.readAll text)
    let valueOf := fun name =>
      Environment.last? environment name <|> (Environment.last? bound name).join
    (read valueOf).mapError .invalid

end Settings

end PatternForge
