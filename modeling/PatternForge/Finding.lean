import PatternForge.Error

/-!
# Findings

What a reader of data objects to, and where. A reader goes on after an objection, so one value may
give several findings, in the order in which its parts are read.
-/

namespace PatternForge

/-- One step from a value into a part of it. -/
inductive Place where
  | field (name : Text)
  | item (index : Nat)
deriving DecidableEq

/-- A rule on a scope description that no single field breaks. -/
inductive ShapeBreach where
  | inverted (least greatest : Int)
  | literalWithChildren (name : Text)
  | groupWithLiterals (name : Text)
deriving DecidableEq

/-- The report of a breach, before it is taken up as a complaint. -/
def ShapeBreach.report : ShapeBreach → Report
  | inverted least greatest =>
    .ofWording .valueError do
      return "min_occurrences (" ++ (← Text.ofInt? least) ++ ") is greater than max_occurrences ("
        ++ (← Text.ofInt? greatest) ++ ")"
  | literalWithChildren name => ⟨.valueError, "Literal scope '" ++ name ++ "' cannot have children"⟩
  | groupWithLiterals name => ⟨.valueError, "Group scope '" ++ name ++ "' cannot hold literals"⟩

/-- What is wrong with a value. -/
inductive Complaint where
  | missing
  | notText
  /-- A text with a lone surrogate, or octets that encode no text. -/
  | notUnicode
  | emptyText
  | notKind
  | notList
  | notDescription
  /-- A mapping inside itself. -/
  | cyclic
  | notInteger
  | integerShape
  /-- A numeral or a number out of reach. -/
  | integerSize
  | fractional
  | notFinite
  | negative
  | boolShape
  | notBool
  | shape (breach : ShapeBreach)
deriving DecidableEq

namespace Complaint

/-- The class of a complaint. -/
def code : Complaint → Text
  | missing => "missing"
  | notText => "string_type"
  | notUnicode => "string_unicode"
  | emptyText => "string_too_short"
  | notKind => "literal_error"
  | notList => "list_type"
  | notDescription => "model_type"
  | cyclic => "recursion_loop"
  | notInteger => "int_type"
  | integerShape => "int_parsing"
  | integerSize => "int_parsing_size"
  | fractional => "int_from_float"
  | notFinite => "finite_number"
  | negative => "greater_than_equal"
  | boolShape => "bool_parsing"
  | notBool => "bool_type"
  | shape _ => "value_error"

def message : Complaint → Text
  | missing => "Field required"
  | notText => "Input should be a valid string"
  | notUnicode => "Input should be a valid string, unable to parse raw data as a unicode string"
  | emptyText => "String should have at least 1 character"
  | notKind => "Input should be 'literal' or 'group'"
  | notList => "Input should be a valid list"
  | notDescription => "Input should be a valid dictionary or instance of ScopeSpec"
  | cyclic => "Recursion error - cyclic reference detected"
  | notInteger => "Input should be a valid integer"
  | integerShape => "Input should be a valid integer, unable to parse string as an integer"
  | integerSize => "Unable to parse input string as an integer, exceeded maximum size"
  | fractional => "Input should be a valid integer, got a number with a fractional part"
  | notFinite => "Input should be a finite number"
  | negative => "Input should be greater than or equal to 0"
  | boolShape => "Input should be a valid boolean, unable to interpret input"
  | notBool => "Input should be a valid boolean"
  | shape breach => "Value error, " ++ breach.report.message

end Complaint

/-- A complaint and the way to the part of the value that it is about. -/
structure Finding where
  path : List Place
  complaint : Complaint
deriving DecidableEq

/-- The finding as seen from a value that the one at fault is a part of. -/
def Finding.within (place : Place) (finding : Finding) : Finding :=
  { finding with path := place :: finding.path }

/-- The result of reading a value: what was read, or everything that is wrong. -/
abbrev Reading (α : Type) := Except (List Finding) α

namespace Reading

variable {α β : Type}

/-- A reading that fails with one complaint about the value itself. -/
def object (complaint : Complaint) : Reading α :=
  .error [⟨[], complaint⟩]

/-- What a reading objects to. -/
def findings : Reading α → List Finding
  | .ok _ => []
  | .error findings => findings

/-- The reading of a part as seen from the whole. -/
def within (place : Place) : Reading α → Reading α
  | .ok value => .ok value
  | .error findings => .error (findings.map (Finding.within place))

/-- Both readings, or the findings of both in order. -/
def both : Reading α → Reading β → Reading (α × β)
  | .ok first, .ok second => .ok (first, second)
  | first, second => .error (first.findings ++ second.findings)

@[simp] theorem within_eq_ok_iff {place : Place} {reading : Reading α} {value : α} :
    reading.within place = .ok value ↔ reading = .ok value := by
  cases reading <;> simp [within]

theorem both_eq_ok_iff {first : Reading α} {second : Reading β} {pair : α × β} :
    both first second = .ok pair ↔ first = .ok pair.1 ∧ second = .ok pair.2 := by
  cases first <;> cases second <;> cases pair <;> simp [both]

end Reading

end PatternForge
