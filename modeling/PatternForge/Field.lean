import PatternForge.Finding
import PatternForge.Number.Numeral
import PatternForge.Text.Utf8
import PatternForge.Value

/-!
# Reading fields

The rules by which a field takes a value of another kind: octets that encode a text stand for it, a
text that is a numeral stands for the number, a truth value is a number and some numbers and texts
are truth values.
-/

namespace PatternForge.Field

def yesWords : List String := ["1", "on", "t", "true", "y", "yes"]

def noWords : List String := ["0", "off", "f", "false", "n", "no"]

/-- Numbers of this size and larger are out of reach of a double-precision field. -/
def integerBound : Int := Int.pow 2 63

/-- A text, or octets that encode one. -/
def readText : Value → Reading Text
  | .scalar (.text text) => .ok text
  | .scalar (.bytes octets) =>
    match Utf8.decode octets with
    | .ok text => .ok text
    | .error _ => Reading.object .notUnicode
  | _ => Reading.object .notText

/-- A text of Unicode with at least one code point. -/
def readName (value : Value) : Reading Text := do
  let text ← readText value
  if !text.isEncodable then Reading.object .notUnicode
  else if text.isEmpty then Reading.object .emptyText
  else .ok text

def readOptionalText : Value → Reading (Option Text)
  | .scalar .null => .ok none
  | value => (readText value).map some

/-- The numeral in a text. -/
def integerOfText (text : Text) : Reading Int :=
  match Numeral.readField text with
  | .ok number => .ok number
  | .error .shape => Reading.object .integerShape
  | .error .size => Reading.object .integerSize

/-- A double-precision number that is whole and in reach. -/
def integerOfFloat (float : Binary64) : Reading Int :=
  if !float.isFinite then Reading.object .notFinite
  else
    match float.toInt? with
    | none => Reading.object .fractional
    | some number =>
      if -integerBound < number ∧ number < integerBound then .ok number
      else Reading.object .integerSize

def readInteger : Value → Reading Int
  | .scalar (.int number) => .ok number
  | .scalar (.bool truth) => .ok (Value.ofTruth truth)
  | .scalar (.float float) => integerOfFloat float
  | .scalar (.text text) =>
    if text.isEncodable then integerOfText text else Reading.object .notUnicode
  | .scalar (.bytes octets) =>
    match Utf8.decode octets with
    | .ok text => integerOfText text
    | .error _ => Reading.object .integerShape
  | _ => Reading.object .notInteger

/-- A value that is a whole number is read as that number. -/
theorem readInteger_of_toInt? {value : Value} {number : Int} (is : value.toInt? = some number) :
    readInteger value = .ok number := by
  cases value with
  | scalar scalar =>
    cases scalar with
    | bool truth => exact congrArg Except.ok (Option.some.inj is)
    | int number => exact congrArg Except.ok (Option.some.inj is)
    | _ => cases is
  | _ => cases is

def readOptionalInteger : Value → Reading (Option Int)
  | .scalar .null => .ok none
  | value => (readInteger value).map some

/-- A whole number that is not negative. -/
def readCount (value : Value) : Reading Int := do
  let number ← readInteger value
  if number < 0 then Reading.object .negative else .ok number

def boolOfText (text : Text) : Reading Bool :=
  if yesWords.any text.agreesIgnoringCase then .ok true
  else if noWords.any text.agreesIgnoringCase then .ok false
  else Reading.object .boolShape

def boolOfInt (number : Int) : Reading Bool :=
  if number = 1 then .ok true
  else if number = 0 then .ok false
  else Reading.object .boolShape

/-- A truth value. Numbers out of reach and numbers with a fraction stand for none. -/
def readBool : Value → Reading Bool
  | .scalar (.bool truth) => .ok truth
  | .scalar (.int number) =>
    if -integerBound ≤ number ∧ number < integerBound then boolOfInt number
    else Reading.object .notBool
  | .scalar (.float float) =>
    match integerOfFloat float with
    | .ok number => boolOfInt number
    | .error _ => Reading.object .notBool
  | .scalar (.text text) =>
    if text.isEncodable then boolOfText text else Reading.object .notUnicode
  | .scalar (.bytes octets) =>
    match Utf8.decode octets with
    | .ok text => boolOfText text
    | .error _ => Reading.object .boolShape
  | _ => Reading.object .notBool

/-- The readings of a list's items, each known by its place. -/
def readAll {α : Type} (read : Value → Reading α) : Nat → List Value → Reading (List α)
  | _, [] => .ok []
  | index, item :: rest =>
    (Reading.both ((read item).within (.item index)) (readAll read (index + 1) rest)).map
      fun parts => parts.1 :: parts.2

/-- The items of a list or of a set. -/
def items? : Value → Option (List Value)
  | .list items => some items
  | .set members => some (members.map Value.scalar)
  | _ => none

def readTexts (value : Value) : Reading (List Text) :=
  match items? value with
  | some items => readAll readText 0 items
  | none => Reading.object .notList

/-- The value that a mapping gives to a name. -/
def lookup? (entries : List (Scalar × Value)) (name : String) : Option Value :=
  (entries.find? fun entry => entry.1 = .text name).map Prod.snd

/-- The reading of a field that must be there. -/
def required {α : Type} (entries : List (Scalar × Value)) (name : String)
    (read : Value → Reading α) : Reading α :=
  Reading.within (.field name) <|
    match lookup? entries name with
    | some value => read value
    | none => Reading.object .missing

/-- The reading of a field that has a value when it is absent. -/
def optional {α : Type} (entries : List (Scalar × Value)) (name : String) (absent : α)
    (read : Value → Reading α) : Reading α :=
  Reading.within (.field name) <|
    match lookup? entries name with
    | some value => read value
    | none => .ok absent

/-! ## What is read -/

variable {α : Type} {entries : List (Scalar × Value)} {name : String} {read : Value → Reading α}
  {result absent : α}

theorem required_of_lookup? {value : Value} (found : lookup? entries name = some value)
    (reading : read value = .ok result) : required entries name read = .ok result := by
  rw [required, found, Reading.within_eq_ok_iff]
  exact reading

theorem optional_of_lookup? {value : Value} (found : lookup? entries name = some value)
    (reading : read value = .ok result) : optional entries name absent read = .ok result := by
  rw [optional, found, Reading.within_eq_ok_iff]
  exact reading

theorem exists_of_required (reading : required entries name read = .ok result) :
    ∃ value, read value = .ok result := by
  rw [required, Reading.within_eq_ok_iff] at reading
  cases found : lookup? entries name with
  | none => rw [found] at reading; cases reading
  | some value => rw [found] at reading; exact ⟨value, reading⟩

theorem exists_of_optional (reading : optional entries name absent read = .ok result) :
    result = absent ∨ ∃ value, read value = .ok result := by
  rw [optional, Reading.within_eq_ok_iff] at reading
  cases found : lookup? entries name with
  | none => rw [found] at reading; exact .inl (Except.ok.inj reading).symm
  | some value => rw [found] at reading; exact .inr ⟨value, reading⟩

/-- A text is a name if it can be written and is not empty. -/
theorem readName_text_iff {text name : Text} :
    readName (.text text) = .ok name ↔ text = name ∧ text.isEncodable = true ∧ text ≠ [] := by
  change (if !text.isEncodable then Reading.object .notUnicode
    else if text.isEmpty then Reading.object .emptyText else .ok text) = _ ↔ _
  cases text.isEncodable <;> cases text <;> simp [Reading.object]

/-- A name that was read can be written and is not empty. -/
theorem readName_eq_ok {value : Value} {name : Text} (reading : readName value = .ok name) :
    name.isEncodable = true ∧ name ≠ [] := by
  cases first : readText value with
  | error findings =>
    rw [readName, first] at reading
    cases reading
  | ok text =>
    rw [readName, first] at reading
    obtain ⟨rfl, writable, named⟩ := readName_text_iff.mp reading
    exact ⟨writable, named⟩

theorem readCount_of_nonneg {number : Int} (sign : 0 ≤ number) :
    readCount (.int number) = .ok number := by
  change (if number < 0 then Reading.object .negative else .ok number) = _
  rw [if_neg (Int.not_lt.mpr sign)]

theorem nonneg_of_readCount {value : Value} {number : Int}
    (reading : readCount value = .ok number) : 0 ≤ number := by
  cases first : readInteger value with
  | error findings =>
    rw [readCount, first] at reading
    cases reading
  | ok given =>
    rw [readCount, first] at reading
    change (if given < 0 then Reading.object .negative else .ok given) = .ok number at reading
    split at reading
    · cases reading
    · obtain rfl := Except.ok.inj reading
      omega

/-- A bound that is absent is one, and one that is there is no negative number. -/
theorem nonneg_of_optional {number : Int}
    (reading : optional entries name 1 readCount = .ok number) : 0 ≤ number := by
  rcases exists_of_optional reading with rfl | ⟨value, reading⟩
  · exact Int.one_nonneg
  · exact nonneg_of_readCount reading

theorem readAll_readText (texts : List Text) (index : Nat) :
    readAll readText index (texts.map Value.text) = .ok texts := by
  induction texts generalizing index with
  | nil => rfl
  | cons text rest ih =>
    rw [List.map_cons, readAll, ih]
    rfl

end PatternForge.Field
