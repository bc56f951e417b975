import PatternForge.Source.Basic

/-!
# Scripted sources

A script answers requests with values written down beforehand, in order, once or over and over. It
can be told which ranges to expect, and keeps the requests that it took and the seeds that it was
given. The values are handed out as they are, whatever the range.
-/

namespace PatternForge

/-- The ranges that a script expects. -/
inductive Expectation where
  | anything
  | always (low high : Value)
  /-- One range after the other, and then no further call. -/
  | each (ranges : List (Value × Value))

def Expectation.areWritable : Expectation → Bool
  | anything => true
  | always low high => low.isWritable && high.isWritable
  | each ranges => ranges.all fun range => range.1.isWritable && range.2.isWritable

/-- Why a value states no expectation. -/
inductive ExpectationFault where
  | notPairs (expected : Value)
  /-- A value of this class has no length. -/
  | noLength (className : Text)
  /-- A mapping stands for a pair and has no entry of this number. -/
  | noEntry (number : Int)

def ExpectationFault.report : ExpectationFault → Report
  | notPairs expected =>
    .ofWording .typeError do
      return "expect must be a (low, high) pair or a list of pairs, got " ++ (← expected.written?)
  | noLength className => ⟨.typeError, "object of type '" ++ className ++ "' has no len()"⟩
  | noEntry number => .ofWording .keyError (Text.ofInt? number)

namespace Value

def className : Value → Text
  | scalar .null => "NoneType"
  | scalar (.bool _) => "bool"
  | scalar (.int _) => "int"
  | scalar (.float _) => "float"
  | scalar (.text _) => "str"
  | scalar (.bytes _) => "bytes"
  | scalar (.moment (.day _)) => "datetime.date"
  | scalar (.moment _) => "datetime.datetime"
  | list _ | enclosingList => "list"
  | map _ | enclosingMap => "dict"
  | set _ => "set"
  | pair .. => "tuple"

/-- The parts of a value that has a length: items, names or single code points. -/
def parts? : Value → Option (List Value)
  | list items => some items
  | map entries => some (entries.map fun entry => scalar entry.1)
  | set members => some (members.map scalar)
  | pair first second => some [first, second]
  | scalar (.text value) => some (value.map fun point => text [point])
  | scalar (.bytes value) => some (value.map fun octet => int octet.toNat)
  | _ => none

end Value

namespace Expectation

/-- The range that one entry of a list of ranges states. -/
def range? (expected entry : Value) : Except ExpectationFault (Value × Value) :=
  match entry.toInt?, entry.parts? with
  | some _, _ => .error (.notPairs expected)
  | none, none => .error (.noLength entry.className)
  | none, some [first, second] =>
    match entry with
    | .map _ => .error (.noEntry 0)
    | _ => .ok (first, second)
  | none, some _ => .error (.notPairs expected)

/-- The expectation that a value states. Two whole numbers are one range for every call. -/
def ofValue (expected : Value) : Except ExpectationFault Expectation :=
  match expected with
  | .scalar .null => .ok .anything
  | expected =>
    match expected.parts? with
    | none => .error (.noLength expected.className)
    | some parts =>
      match parts, parts.all fun part => part.toInt?.isSome with
      | [low, high], true => .ok (.always low high)
      | parts, _ => (parts.mapM (range? expected)).map .each

def ofRanges (ranges : List (Int × Int)) : Expectation :=
  .each (ranges.map fun range => (.int range.1, .int range.2))

/-- A list of pairs states one range after the other, also if it is a pair itself. -/
theorem ofValue_list_pair (ranges : List (Int × Int)) :
    ofValue (.list (ranges.map fun range => .pair (.int range.1) (.int range.2))) =
      .ok (ofRanges ranges) := by
  have entries (expected : Value) (ranges : List (Int × Int)) :
      (ranges.map fun range => Value.pair (.int range.1) (.int range.2)).mapM (range? expected) =
        .ok (ranges.map fun range => (.int range.1, .int range.2)) := by
    induction ranges with
    | nil => rfl
    | cons range rest ih =>
      rw [List.map_cons, List.mapM_cons, ih]
      rfl
  simp only [ofValue, Value.parts?]
  split
  · -- A pair is no whole number, so the items are not one range for every call.
    rename_i two whole
    cases ranges <;> contradiction
  · rw [entries]
    rfl

end Expectation

/-- A script and what became of it. -/
structure Scripted where
  values : List Value
  expectation : Expectation := .anything
  repeats : Bool := false
  /-- The greatest number that it claims to give. -/
  top : Int := 2147483647
  /-- The requests that it took since it was made or seeded. -/
  calls : List (Int × Int) := []
  seeds : List (Option Int) := []
  /-- How many values it handed out since it was made or seeded. -/
  position : Nat := 0

namespace Scripted

def areWritable (script : Scripted) : Bool :=
  script.values.all Value.isWritable && script.expectation.areWritable

def upcoming? (script : Scripted) : Option Value :=
  script.values[if script.repeats then script.position % script.values.length
    else script.position]?

/-- Whether a request is the one expected. -/
def agrees (low high : Int) (expected : Value × Value) : Bool :=
  expected.1.equalsInt low && expected.2.equalsInt high

/-- The script with one more request taken. -/
def took (script : Scripted) (low high : Int) : Scripted :=
  { script with calls := script.calls ++ [(low, high)] }

/-- Hands out the next value. -/
def advance (script : Scripted) : Except DrawFault Value × Scripted :=
  match script.upcoming? with
  | some value => (.ok value, { script with position := script.position + 1 })
  | none => (.error (.exhausted script.values.length), script)

/-- Hands out the next value if the request just taken agrees with the expected range. -/
def advanceIf (script : Scripted) (low high : Int) (expected : Value × Value) :
    Except DrawFault Value × Scripted :=
  if agrees low high expected then script.advance
  else
    (.error (.unexpectedRange script.calls.length low high expected.1 expected.2), script)

/-- Answers a request. One beyond a list of expected ranges is not taken. -/
def draw (low high : Int) (script : Scripted) : Except DrawFault Value × Scripted :=
  match script.expectation with
  | .anything => (script.took low high).advance
  | .always expectedLow expectedHigh =>
    (script.took low high).advanceIf low high (expectedLow, expectedHigh)
  | .each ranges =>
    match ranges[script.calls.length]? with
    | some expected => (script.took low high).advanceIf low high expected
    | none => (.error (.unexpectedCall (script.calls.length + 1) ranges.length), script)

/-- Notes the seed and starts the script again. -/
def seed (value : Option Int) (script : Scripted) : Scripted :=
  { script with seeds := script.seeds ++ [value], calls := [], position := 0 }

def source : Source Scripted :=
  .ofDraw draw

/-- A request for the range is taken as the call of this number, and is the one expected. -/
def Admits (expectation : Expectation) (index : Nat) (range : Int × Int) : Prop :=
  match expectation with
  | .anything => True
  | .always low high => agrees range.1 range.2 (low, high)
  | .each ranges =>
    ∃ expected, ranges[index]? = some expected ∧ agrees range.1 range.2 expected

/-- The values of a script that does not repeat, as far as they were not handed out. -/
def remaining (script : Scripted) : List Value :=
  script.values.drop script.position

/-- The script after it took a request and handed out a value. -/
def answered (script : Scripted) (low high : Int) : Scripted :=
  { script.took low high with position := script.position + 1 }

/-- The ranges that are expected one after the other are the ones taken. -/
theorem admits_ofRanges {ranges : List (Int × Int)} {index : Nat} {range : Int × Int}
    (present : ranges[index]? = some range) :
    Admits (.ofRanges ranges) index range := by
  refine ⟨(.int range.1, .int range.2), ?_, ?_⟩
  · rw [List.getElem?_map, present]
    rfl
  · simp only [agrees, Value.equalsInt, Value.toInt?_int, beq_self_eq_true, Bool.and_self]

theorem draw_of_admits {script : Scripted} {low high : Int}
    (admits : Admits script.expectation script.calls.length (low, high)) :
    script.draw low high = (script.took low high).advance := by
  cases expected : script.expectation with
  | anything => simp only [draw, expected]
  | always least greatest =>
    have agrees : agrees low high (least, greatest) := by simpa only [Admits, expected] using admits
    simp only [draw, expected, advanceIf, agrees, ↓reduceIte]
  | each ranges =>
    obtain ⟨range, present, agrees⟩ : ∃ range, ranges[script.calls.length]? = some range ∧
        Scripted.agrees low high range := by simpa only [Admits, expected] using admits
    simp only [draw, expected, present, advanceIf, agrees, ↓reduceIte]

theorem upcoming?_took (script : Scripted) (low high : Int) :
    (script.took low high).upcoming? = script.upcoming? := rfl

theorem upcoming?_of_once {script : Scripted} (once : script.repeats = false) :
    script.upcoming? = script.remaining.head? := by
  simp only [upcoming?, remaining, once, Bool.false_eq_true, ↓reduceIte, List.head?_drop]

theorem draw_of_remaining_cons {script : Scripted} {low high : Int} {value : Value}
    {rest : List Value} (once : script.repeats = false)
    (admits : Admits script.expectation script.calls.length (low, high))
    (left : script.remaining = value :: rest) :
    script.draw low high = (.ok value, script.answered low high) := by
  have next : (script.took low high).upcoming? = some value := by
    rw [upcoming?_took, upcoming?_of_once once, left, List.head?_cons]
  simp only [draw_of_admits admits, advance, next]
  rfl

theorem draw_of_remaining_nil {script : Scripted} {low high : Int} (once : script.repeats = false)
    (admits : Admits script.expectation script.calls.length (low, high))
    (left : script.remaining = []) :
    script.draw low high = (.error (.exhausted script.values.length), script.took low high) := by
  have next : (script.took low high).upcoming? = none := by
    rw [upcoming?_took, upcoming?_of_once once, left, List.head?_nil]
  simp only [draw_of_admits admits, advance, next]
  rfl

theorem remaining_answered {script : Scripted} {value : Value} {rest : List Value} (low high : Int)
    (left : script.remaining = value :: rest) : (script.answered low high).remaining = rest := by
  change script.values.drop (script.position + 1) = rest
  rw [← List.drop_drop]
  exact congrArg (List.drop 1) left

theorem length_calls_answered (script : Scripted) (low high : Int) :
    (script.answered low high).calls.length = script.calls.length + 1 := by
  rw [answered, took, List.length_append, List.length_singleton]

end Scripted

end PatternForge
