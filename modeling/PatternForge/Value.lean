import PatternForge.Number.Decimal
import PatternForge.Number.Shortest
import PatternForge.Text.Quoted

/-!
# Values

The data that descriptions and scripts are made of. Scalars are compared by `DecidableEq`, and name
the entries of a mapping. A document may refer back to a mapping or a list that it stands in; such a
reference is a leaf.
-/

namespace PatternForge

/-- A point in time, or a day. -/
inductive Moment where
  /-- A day, counted from the first day of the first year. -/
  | day (number : Int)
  /-- A time on the clock of no particular place, in microseconds. -/
  | civil (microseconds : Int)
  /-- A time that is the same everywhere, in microseconds. -/
  | instant (microseconds : Int)
deriving DecidableEq, Repr

/-- A value without parts. -/
inductive Scalar where
  | null
  | bool (value : Bool)
  | int (value : Int)
  | float (value : Binary64)
  | text (value : Text)
  | bytes (value : List UInt8)
  | moment (value : Moment)
deriving DecidableEq

inductive Value where
  | scalar (value : Scalar)
  | list (items : List Value)
  /-- Named values in order; a name occurs once. -/
  | map (entries : List (Scalar × Value))
  /-- Scalars in order; each occurs once. -/
  | set (members : List Scalar)
  /-- A named value by itself. -/
  | pair (first second : Value)
  /-- A reference to the list that it stands in. -/
  | enclosingList
  /-- A reference to a mapping that it stands in. -/
  | enclosingMap

namespace Value

abbrev null : Value := scalar .null

abbrev bool (value : Bool) : Value := scalar (.bool value)

abbrev int (value : Int) : Value := scalar (.int value)

abbrev float (value : Binary64) : Value := scalar (.float value)

abbrev text (value : Text) : Value := scalar (.text value)

/-- The number of a truth value: one for true. -/
def ofTruth (value : Bool) : Int :=
  if value then 1 else 0

/-- The whole number that a value is. A truth value counts as one. -/
def toInt? : Value → Option Int
  | scalar (.int value) => some value
  | scalar (.bool value) => some (ofTruth value)
  | _ => none

@[simp] theorem toInt?_int (value : Int) : (int value).toInt? = some value := rfl

/-- Whether a value equals a whole number, a double-precision number by its exact size. -/
def equalsInt (value : Value) (number : Int) : Bool :=
  match value with
  | scalar (.float float) => float.toInt? == some number
  | value => value.toInt? == some number

end Value

namespace Scalar

/-- What a scalar names in a mapping: equal numbers are one name, whatever their kind. -/
def nameForm : Scalar → Scalar
  | bool value => int (Value.ofTruth value)
  | float value =>
    match value.toInt? with
    | some number => int number
    | none => float value
  | scalar => scalar

/-- Whether two scalars are one name. -/
def sameName (first second : Scalar) : Bool :=
  first.nameForm = second.nameForm

end Scalar

namespace Value

/-- Adds an entry to others. A name that comes again keeps its place and takes the new value. -/
def insertBy {κ α : Type} (same : κ → κ → Bool) (entries : List (κ × α)) (entry : κ × α) :
    List (κ × α) :=
  if entries.any fun old => same old.1 entry.1 then
    entries.map fun old => if same old.1 entry.1 then (old.1, entry.2) else old
  else entries ++ [entry]

/-- Adds an entry that a scalar names. -/
abbrev insertEntry {α : Type} (entries : List (Scalar × α)) (entry : Scalar × α) :
    List (Scalar × α) :=
  insertBy Scalar.sameName entries entry

/-- The mapping of entries in order, the last value of a name counting. -/
def mapOf (entries : List (Scalar × Value)) : Value :=
  map (entries.foldl insertEntry [])

end Value

namespace Scalar

def displayBool (value : Bool) : Text :=
  if value then "True" else "False"

/-- Whether every number in a scalar can be written. -/
def isWritable : Scalar → Bool
  | int value => Numeral.isWritable value
  | _ => true

/-- The written form of a scalar: texts are quoted, and numbers may be of any length. -/
def display : Scalar → Text
  | null => "None"
  | bool value => displayBool value
  | int value => Text.ofInt value
  | float value => value.display
  | text value => value.quoted
  | bytes value => "b" ++ Text.quoted (Text.ofNumbers (value.map UInt8.toNat))
  | moment (.day number) => "day " ++ Text.ofInt number
  | moment (.civil microseconds) => "civil time " ++ Text.ofInt microseconds
  | moment (.instant microseconds) => "instant " ++ Text.ofInt microseconds

end Scalar

namespace Value

/-- Parts with commas between them, inside brackets. -/
def bracketed (left right : Text) (parts : List Text) : Text :=
  left ++ Text.joinWith ", " parts ++ right

mutual

/-- The written form of a value, numbers of any length in it. -/
def display : Value → Text
  | scalar value => value.display
  | list items => bracketed "[" "]" (displayItems items)
  | map entries => bracketed "\x7b" "\x7d" (displayEntries entries)
  | set [] => "set()"
  | set members => bracketed "\x7b" "\x7d" (members.map Scalar.display)
  | pair first second => bracketed "(" ")" [display first, display second]
  | enclosingList => "[...]"
  | enclosingMap => "\x7b...\x7d"

def displayItems : List Value → List Text
  | [] => []
  | item :: rest => display item :: displayItems rest

def displayEntries : List (Scalar × Value) → List Text
  | [] => []
  | (name, value) :: rest => (name.display ++ ": " ++ display value) :: displayEntries rest

end

mutual

/-- Whether every number in a value can be written. -/
def isWritable : Value → Bool
  | scalar value => value.isWritable
  | list items => areWritable items
  | map entries => entriesWritable entries
  | set members => members.all Scalar.isWritable
  | pair first second => isWritable first && isWritable second
  | enclosingList => true
  | enclosingMap => true

def areWritable : List Value → Bool
  | [] => true
  | item :: rest => isWritable item && areWritable rest

def entriesWritable : List (Scalar × Value) → Bool
  | [] => true
  | (name, value) :: rest => name.isWritable && isWritable value && entriesWritable rest

end

/-- The written form of a value, if every number in it can be written. -/
def written? (value : Value) : Option Text :=
  if value.isWritable then some value.display else none

end Value

end PatternForge
