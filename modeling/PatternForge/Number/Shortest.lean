import PatternForge.Number.Binary64
import PatternForge.Text.Basic

/-!
# The shortest decimal that reads back

Of the decimals that round to a number, the ones with the fewest digits are taken, and of those the
nearest to the number, a tie going to the even one. Both neighbours on each decimal grid are tried,
since next to a power of two the nearer one may read back as another number.
-/

namespace PatternForge

namespace Binary64

/-- The whole numbers around a positive quotient times a power of ten, the nearer one first; of two
that are equally near the even one is first. -/
def neighbours (numerator denominator : Nat) (power : Int) : List Nat :=
  let (top, bottom) :=
    if power < 0 then (numerator, denominator * Nat.pow 10 power.natAbs)
    else (numerator * Nat.pow 10 power.natAbs, denominator)
  let low := top / bottom
  let twice := 2 * (top % bottom)
  if twice < bottom ∨ (twice = bottom ∧ low % 2 = 0) then [low, low + 1] else [low + 1, low]

/-- The least power of ten above a positive quotient; the exponent of its first digit plus one. -/
def decimalPoint (numerator denominator : Nat) : Int :=
  let length (number : Nat) : Int := (Nat.toDigits 10 number).length
  let guess := length numerator - length denominator
  let reaches : Bool :=
    if guess < 0 then denominator ≤ numerator * Nat.pow 10 guess.natAbs
    else denominator * Nat.pow 10 guess.natAbs ≤ numerator
  if reaches then guess + 1 else guess

/-- The digits and the power of ten of a decimal with so many digits that rounds to the number. -/
def decimalWith? (significand : Nat) (exponent : Int) (count : Nat) : Option (Nat × Int) :=
  let (top, bottom) := quotient significand exponent
  let power := decimalPoint top bottom - count
  ((neighbours top bottom (-power)).find? fun digits =>
    ofDecimal false digits power = finite false significand exponent).map (·, power)

/-- The shortest decimal of a positive number; seventeen digits always suffice. -/
def shortest (significand : Nat) (exponent : Int) : Nat × Int :=
  ((List.range 17).findSome? fun less => decimalWith? significand exponent (less + 1)).getD
    (significand, exponent)

end Binary64

/-- How a double-precision number is written. -/
structure FloatLayout where
  /-- Positional below this power of ten. -/
  positionalBelow : Int
  /-- Positional from this power of ten on. -/
  positionalFrom : Int
  exponentDigits : Nat

/-- Numbers from a ten-thousandth to below the sixteenth power of ten are written positionally,
with a digit on both sides of the point; the others have a signed exponent of two digits or more. -/
def FloatLayout.standard : FloatLayout := ⟨16, -4, 2⟩

namespace Binary64

def exponentPart (layout : FloatLayout) (exponent : Int) : List Char :=
  let digits := Nat.toDigits 10 exponent.natAbs
  'e' :: (if exponent < 0 then '-' else '+')
    :: (List.replicate (layout.exponentDigits - digits.length) '0' ++ digits)

/-- Digits with the decimal point so many places after the first digit's left. -/
def positional (digits : List Char) (point : Int) : List Char :=
  if point ≤ 0 then '0' :: '.' :: (List.replicate point.natAbs '0' ++ digits)
  else
    let whole := digits.take point.natAbs
    let fraction := digits.drop point.natAbs
    whole ++ List.replicate (point.natAbs - whole.length) '0' ++ '.'
      :: (if fraction.isEmpty then ['0'] else fraction)

/-- The digits of a positive number in a layout. -/
def magnitude (layout : FloatLayout) (significand : Nat) (exponent : Int) : List Char :=
  let (number, power) := shortest significand exponent
  let all := Nat.toDigits 10 number
  let digits := (all.reverse.dropWhile (· == '0')).reverse
  let point : Int := power + all.length
  if layout.positionalFrom < point ∧ point ≤ layout.positionalBelow then positional digits point
  else
    match digits with
    | [] => []
    | first :: rest =>
      (if rest.isEmpty then [first] else first :: '.' :: rest) ++ exponentPart layout (point - 1)

def write (layout : FloatLayout) : Binary64 → Text
  | undefined => "nan"
  | infinite negative => if negative then "-inf" else "inf"
  | finite negative significand exponent =>
    let digits := if significand = 0 then ['0', '.', '0'] else magnitude layout significand exponent
    Text.ofChars (if negative then '-' :: digits else digits)

/-- The number in the standard layout. -/
def display (number : Binary64) : Text :=
  number.write .standard

end Binary64

end PatternForge
