import PatternForge.Error
import PatternForge.Text.Casing
import PatternForge.Value

/-!
# The journal

Whoever works on patterns may leave entries for the reader of a debugging session. The journal keeps
them only while its level asks for that much detail.
-/

namespace PatternForge

inductive Writer where
  | literalScope
  | groupScope
  | sources
  | builder
deriving DecidableEq

/-- The name under which the whole journal is known. -/
def Writer.domain : Text := "reverse_pattern"

def Writer.name : Writer → Text
  | literalScope => Writer.domain ++ ".generator.literal"
  | groupScope => Writer.domain ++ ".generator.group"
  | sources => Writer.domain ++ ".random_source.service"
  | builder => Writer.domain ++ ".builder.service"

/-- An entry, always of the most detailed level. -/
structure JournalEntry where
  writer : Writer
  message : Text
deriving DecidableEq

def JournalEntry.level : Int := 10

def JournalEntry.levelName : Text := "DEBUG"

/-- Why a level cannot be set. -/
inductive LevelFault where
  | unknown (name : Text)
  | neither (value : Value)

def LevelFault.report : LevelFault → Report
  | unknown name => ⟨.valueError, "Unknown level: " ++ name.quoted⟩
  | neither value =>
    .ofWording .typeError do
      return "Level not an integer or a valid string: " ++ (← value.written?)

def levelNames : List (String × Int) := [
  ("CRITICAL", 50), ("FATAL", 50), ("ERROR", 40), ("WARN", 30), ("WARNING", 30), ("INFO", 20),
  ("DEBUG", 10), ("NOTSET", 0)]

def levelOfName (name : Text) : Except LevelFault Int :=
  match levelNames.find? fun entry => Text.ofString entry.1 = name with
  | some entry => .ok entry.2
  | none => .error (.unknown name)

/-- The level that a value sets, the case of names not counting. -/
def levelOfValue : Value → Except LevelFault Int
  | .scalar (.text name) => levelOfName name.upper
  | value =>
    match value.toInt? with
    | some level => .ok level
    | none => .error (.neither value)

structure Journal where
  /-- Entries below the level are not kept. At level zero the level is that of warnings. -/
  level : Int := 0
  /-- Whether someone reads along from the start. -/
  observed : Bool := false
  /-- Whether a listener was called in. -/
  attended : Bool := false
  entries : List JournalEntry := []

namespace Journal

def isKept (journal : Journal) : Bool :=
  journal.level != 0 && journal.level ≤ JournalEntry.level

def write (journal : Journal) (writer : Writer) (message : Text) : Journal :=
  if journal.isKept then { journal with entries := journal.entries ++ [⟨writer, message⟩] }
  else journal

/-- The journal at another level. A listener is called in if nobody follows the journal. -/
def setLevel (journal : Journal) (level : Int) : Journal :=
  { journal with level, attended := journal.attended || !journal.observed }

/-- How many listeners were called in. -/
def listeners (journal : Journal) : Nat :=
  if journal.attended then 1 else 0

end Journal

end PatternForge
