import PatternForge.Number.Binary64
import PatternForge.Number.Decimal
import PatternForge.Text.Blank
import PatternForge.Text.Digit

/-!
# Reading numbers

Three readers of numerals. A *field* of a description or of the settings may hold a whole number as
text; leading zeros, separators and a fraction of zeros are removed before it is read. A *scalar* of
a document is a whole number in a base, or a double-precision number; both take decimal digits of
any script.
-/

namespace PatternForge.Numeral

/-- The value of digits in a base, the highest first. -/
def valueOf (base : Nat) (digits : List Nat) : Nat :=
  digits.foldl (fun value digit => value * base + digit) 0

/-- The sign before a numeral, and the numeral. -/
def signed : Text → Bool × Text
  | [] => (false, [])
  | point :: rest =>
    if point = .ofChar '-' then (true, rest)
    else if point = .ofChar '+' then (false, rest)
    else (false, point :: rest)

/-- A number with the sign that was read. -/
def withSign (negative : Bool) (magnitude : Nat) : Int :=
  if negative then -(magnitude : Int) else magnitude

/-- The value of a digit of the basic Latin range below ten. -/
def plainDigit? (point : CodePoint) : Option Nat :=
  point.latinDigit?.filter (· < 10)

/-! ## Fields -/

/-- Why a field holds no whole number. -/
inductive FieldFault where
  | shape
  | size
deriving DecidableEq, Repr

/-- A numeral in plain form: a minus sign or none, then digits, the first of them no zero unless it
stands alone. A run of digits is too long before what follows it is looked at. -/
def readPlain (text : Text) : Except FieldFault Int :=
  let (negative, numeral) :=
    if text.head? = some (.ofChar '-') then (true, text.tail) else (false, text)
  let leading := numeral.takeWhile fun point => (plainDigit? point).isSome
  if leading.head? = some (.ofChar '0') then
    if numeral.length = 1 then .ok 0 else .error .shape
  else if longestDecimal < leading.length then .error .size
  else if leading.isEmpty || leading.length < numeral.length then .error .shape
  else .ok (withSign negative (valueOf 10 (leading.filterMap plainDigit?)))

/-- What follows the zeros and underscores that a numeral starts with. A point takes the character
before it along, and where nothing follows, the last character stays. A minus sign may follow. -/
def afterZeros? (last : CodePoint) : Text → Option Text
  | [] => some [last]
  | point :: rest =>
    if point = .ofChar '0' ∨ point = .ofChar '_' then afterZeros? point rest
    else if point = .ofChar '.' then some (last :: point :: rest)
    else if point = .ofChar '-' ∨ (plainDigit? point).isSome then some (point :: rest)
    else none

/-- A numeral without the zeros that it starts with; it starts with a digit. -/
def dropLeadingZeros? : Text → Option Text
  | [] => none
  | first :: rest =>
    if first = .ofChar '0' then afterZeros? first rest
    else if (plainDigit? first).isSome then some (first :: rest)
    else none

/-- The part of a numeral before a fraction of zeros, if it has one, or all of it. -/
def dropZeroFraction (text : Text) : Text :=
  let whole := text.takeWhile (· != .ofChar '.')
  match text.dropWhile (· != .ofChar '.') with
  | _ :: digit :: rest => if (digit :: rest).all (· == .ofChar '0') then whole else text
  | _ => text

/-- Every underscore has a character other than an underscore on both sides. -/
def isSeparated : Text → Bool
  | [] => true
  | [last] => last != .ofChar '_'
  | first :: second :: rest =>
    (first != .ofChar '_' || second != .ofChar '_') && isSeparated (second :: rest)

/-- A numeral without the underscores that separate its digits. -/
def dropSeparators (text : Text) : Text :=
  if text.head? != some (.ofChar '_') && isSeparated text then
    text.filter (· != .ofChar '_')
  else text

/-- The plain form of a numeral with white space around it, a sign, leading zeros, a fraction of
zeros or single underscores between its digits. -/
def plainForm? (text : Text) : Option Text :=
  let (negative, numeral) := signed (text.trim CodePoint.isWhiteSpace)
  (dropLeadingZeros? numeral).map fun digits =>
    (if negative then [.ofChar '-'] else []) ++ dropSeparators (dropZeroFraction digits)

/-- A whole number in a field: in plain form, or in one that has a plain form. Only a text that is
too long as it stands is told from one that is no numeral. -/
def readField (text : Text) : Except FieldFault Int :=
  match readPlain text, plainForm? text with
  | .error .shape, some plain => (readPlain plain).mapError fun _ => .shape
  | outcome, _ => outcome

/-! ## Scalars -/

/-- The text without white space around it, every decimal digit replaced by the Latin one. -/
def plain (text : Text) : Text :=
  (text.trim CodePoint.isWhiteSpace).map fun point =>
    match point.decimalDigit? with
    | some digit => .ofChar (Nat.digitChar digit)
    | none => point

/-- The letter that may follow a leading zero to name a base. -/
def baseLetter? : Nat → Option Char
  | 2 => some 'b'
  | 8 => some 'o'
  | 16 => some 'x'
  | _ => none

/-- The numeral without the mark of its base. -/
def dropBaseMark (base : Nat) (text : Text) : Text :=
  match baseLetter? base, text with
  | some letter, zero :: mark :: rest =>
    if zero = .ofChar '0' ∧ (mark = .ofChar letter ∨ mark = .ofChar letter.toUpper) then rest
    else zero :: mark :: rest
  | _, text => text

/-- The digits of a numeral in a base; there is at least one. -/
def digits? (base : Nat) (text : Text) : Option (List Nat) :=
  if text.isEmpty then none
  else text.mapM fun point => point.latinDigit?.filter (· < base)

/-- A whole number in a base. -/
def readInteger? (base : Nat) (text : Text) : Option Int := do
  let (negative, numeral) := signed (plain text)
  let digits ← digits? base (dropBaseMark base numeral)
  if (baseLetter? base).isNone ∧ longestDecimal < digits.length then none
  else some (withSign negative (valueOf base digits))

/-- The Latin digits that a text starts with, and the rest. -/
def spanDigits (text : Text) : List Nat × Text :=
  (text.takeWhile fun point => (plainDigit? point).isSome).filterMap plainDigit? |> fun digits =>
    (digits, text.drop digits.length)

/-- The exponent of a decimal numeral, which must end with it. -/
def readExponent? : Text → Option Int
  | [] => some 0
  | point :: rest =>
    if point = .ofChar 'e' ∨ point = .ofChar 'E' then
      let (negative, numeral) := signed rest
      (digits? 10 numeral).map fun digits => withSign negative (valueOf 10 digits)
    else none

/-- The fraction that follows whole digits, and the rest. -/
def spanFraction : Text → List Nat × Text
  | [] => ([], [])
  | point :: rest => if point = .ofChar '.' then spanDigits rest else ([], point :: rest)

/-- A double-precision number: a decimal with an exponent, an infinity or the undefined number. -/
def readFloat? (text : Text) : Option Binary64 :=
  let (negative, numeral) := signed (plain text)
  if numeral.agreesIgnoringCase "inf" || numeral.agreesIgnoringCase "infinity" then
    some (.infinite negative)
  else if numeral.agreesIgnoringCase "nan" then some .undefined
  else
    let (whole, afterWhole) := spanDigits numeral
    let (fraction, afterFraction) := spanFraction afterWhole
    if whole.isEmpty && fraction.isEmpty then none
    else (readExponent? afterFraction).map fun exponent =>
      .ofDecimal negative (valueOf 10 (whole ++ fraction)) (exponent - fraction.length)

end PatternForge.Numeral
