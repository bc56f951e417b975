/-!
# Double-precision numbers

The finite values are `± significand · 2 ^ exponent` with the significand below `2 ^ 53` and the
least exponent that its size allows. Every operation is the exact result, rounded to the nearest
value, a tie to the even significand.
-/

namespace PatternForge

inductive Binary64 where
  /-- A sign, a significand and an exponent of two. -/
  | finite (negative : Bool) (significand : Nat) (exponent : Int)
  | infinite (negative : Bool)
  /-- The value of an operation that has none. -/
  | undefined
deriving DecidableEq, Repr

namespace Binary64

/-- The exponent of the numbers nearest to zero. -/
def leastExponent : Int := -1074

/-- The exponent of the numbers furthest from zero. -/
def greatestExponent : Int := 971

/-- The numerator and denominator of a quotient divided by a power of two. -/
def scaleDown (numerator denominator : Nat) (exponent : Int) : Nat × Nat :=
  if exponent < 0 then (numerator * Nat.pow 2 exponent.natAbs, denominator)
  else (numerator, denominator * Nat.pow 2 exponent.natAbs)

/-- The exponent at which the whole part of a quotient has 53 binary digits, if it is not below
the least one. -/
def exponentOf (numerator denominator : Nat) : Int :=
  let guess : Int := (numerator.log2 : Int) - denominator.log2 - 52
  let (top, bottom) := scaleDown numerator denominator guess
  max leastExponent (if top / bottom < Nat.pow 2 52 then guess - 1 else guess)

/-- The whole number nearest to a quotient, a tie going to the even one. -/
def nearest (numerator denominator : Nat) : Nat :=
  let whole := numerator / denominator
  let twice := 2 * (numerator % denominator)
  if twice < denominator then whole
  else if denominator < twice then whole + 1
  else if whole % 2 = 0 then whole else whole + 1

/-- The number nearest to a quotient of the given sign. -/
def round (negative : Bool) (numerator denominator : Nat) : Binary64 :=
  if numerator = 0 then finite negative 0 leastExponent
  else
    let exponent := exponentOf numerator denominator
    let (top, bottom) := scaleDown numerator denominator exponent
    let significand := nearest top bottom
    let (significand, exponent) :=
      if significand = Nat.pow 2 53 then (Nat.pow 2 52, exponent + 1) else (significand, exponent)
    if greatestExponent < exponent then infinite negative
    else finite negative significand exponent

/-- The number nearest to `digits · 10 ^ power`. Powers beyond every number are cut short. -/
def ofDecimal (negative : Bool) (digits : Nat) (power : Int) : Binary64 :=
  if digits = 0 then finite negative 0 leastExponent
  else
    let magnitude : Int := (Nat.toDigits 10 digits).length + power
    if magnitude < -400 then finite negative 0 leastExponent
    else if 400 < magnitude then infinite negative
    else if power < 0 then round negative digits (Nat.pow 10 power.natAbs)
    else round negative (digits * Nat.pow 10 power.natAbs) 1

def ofInt (number : Int) : Binary64 :=
  round (number < 0) number.natAbs 1

def neg : Binary64 → Binary64
  | finite negative significand exponent => finite (!negative) significand exponent
  | infinite negative => infinite (!negative)
  | undefined => undefined

/-- The size of a finite number as a quotient. -/
def quotient (significand : Nat) (exponent : Int) : Nat × Nat :=
  scaleDown significand 1 (-exponent)

def signed (negative : Bool) (significand : Nat) : Int :=
  if negative then -(significand : Int) else significand

def add : Binary64 → Binary64 → Binary64
  | undefined, _ | _, undefined => undefined
  | infinite left, infinite right => if left = right then infinite left else undefined
  | infinite left, finite .. => infinite left
  | finite .., infinite right => infinite right
  | finite left m e, finite right n f =>
    let least := min e f
    let sum := signed left m * Int.pow 2 (e - least).toNat
      + signed right n * Int.pow 2 (f - least).toNat
    if sum = 0 then finite (left && right && m = 0 && n = 0) 0 leastExponent
    else
      let (top, bottom) := quotient sum.natAbs least
      round (sum < 0) top bottom

def mul : Binary64 → Binary64 → Binary64
  | undefined, _ | _, undefined => undefined
  | infinite left, infinite right => infinite (left != right)
  | infinite left, finite right n _ => if n = 0 then undefined else infinite (left != right)
  | finite left m _, infinite right => if m = 0 then undefined else infinite (left != right)
  | finite left m e, finite right n f =>
    let (top, bottom) := quotient (m * n) (e + f)
    round (left != right) top bottom

/-- The whole number that a finite number is, when it is one. -/
def toInt? : Binary64 → Option Int
  | finite negative significand exponent =>
    let (top, bottom) := quotient significand exponent
    if top % bottom = 0 then some (signed negative (top / bottom)) else none
  | _ => none

def isFinite : Binary64 → Bool
  | finite .. => true
  | _ => false

end Binary64

end PatternForge
