/-!
# Text as code points

A text is a list of Unicode code points. Surrogates are code points too: an escape in a description
may name one alone, and such a text is kept as it stands. Lengths count code points.
-/

namespace PatternForge

/-- A Unicode code point, the surrogates included. -/
structure CodePoint where
  val : Nat
  /-- Code points end at `0x10FFFF`. -/
  isLt : val < 0x110000
deriving DecidableEq

namespace CodePoint

/-- The code point of a number, when there is one. -/
def ofNat? (number : Nat) : Option CodePoint :=
  if bound : number < 0x110000 then some ⟨number, bound⟩ else none

def ofChar (char : Char) : CodePoint :=
  ⟨char.toNat, by
    have valid := char.valid
    simp only [UInt32.isValidChar, Nat.isValidChar] at valid
    have same : char.toNat = char.val.toNat := rfl
    omega⟩

/-- The code points that stand alone only as halves of a pair. -/
def isSurrogate (point : CodePoint) : Bool :=
  0xD800 ≤ point.val && point.val < 0xE000

/-- The scalar value of a code point; a surrogate has none. -/
def toChar? (point : CodePoint) : Option Char :=
  if point.isSurrogate then none else some (Char.ofNat point.val)

end CodePoint

/-- A text: its code points in order. -/
abbrev Text := List CodePoint

namespace Text

def ofString (string : String) : Text :=
  string.toList.map CodePoint.ofChar

def ofChars (chars : List Char) : Text :=
  chars.map CodePoint.ofChar

instance : Coe String Text := ⟨ofString⟩

/-- The text of the numbers that are code points. -/
def ofNumbers (numbers : List Nat) : Text :=
  numbers.filterMap CodePoint.ofNat?

/-- The characters of a text that holds no surrogate. -/
def toChars? (text : Text) : Option (List Char) :=
  text.mapM CodePoint.toChar?

/-- The characters of a text, a surrogate standing as the replacement character. -/
def toChars (text : Text) : List Char :=
  text.map fun point => point.toChar?.getD '\uFFFD'

/-- A text without surrogates can be written in any encoding of Unicode. -/
def isEncodable (text : Text) : Bool :=
  text.all fun point => !point.isSurrogate

/-- A number in decimal digits. -/
def ofNat (number : Nat) : Text :=
  ofChars (Nat.toDigits 10 number)

/-- A number in decimal digits, however many, a minus sign before a negative one. -/
def ofInt (number : Int) : Text :=
  if number < 0 then ofString "-" ++ ofNat number.natAbs else ofNat number.natAbs

/-- The texts in order, the separator between neighbours. -/
def joinWith (separator : Text) : List Text → Text
  | [] => []
  | [text] => text
  | text :: rest => text ++ separator ++ joinWith separator rest

/-- The first text with every letter of the basic Latin alphabet in lower case. -/
def asciiLower (text : Text) : Text :=
  text.map fun point =>
    if capital : 0x41 ≤ point.val ∧ point.val ≤ 0x5A then ⟨point.val + 32, by omega⟩ else point

/-- The texts agree once letters of the basic Latin alphabet lose their case. -/
def agreesIgnoringCase (text : Text) (word : String) : Bool :=
  text.asciiLower == (ofString word).asciiLower

end Text

end PatternForge
