import PatternForge.Text.Basic

/-!
# Writing numbers

A whole number is written in decimal digits, a minus sign before a negative one. A number of more
than 4300 digits is not written at all: the attempt fails. So it is for the wordings of errors and
for written forms of values; the journal takes numbers of any length.
-/

namespace PatternForge

namespace Numeral

/-- A decimal numeral longer than this is neither read nor written, as that could take too long. -/
def longestDecimal : Nat := 4300

/-- Whether the decimal numeral of a number is no longer than any there may be. -/
def isWritable (number : Int) : Bool :=
  number.natAbs < Nat.pow 10 longestDecimal

theorem isWritable_iff {number : Int} :
    isWritable number = true ↔ number.natAbs < Nat.pow 10 longestDecimal :=
  decide_eq_true_iff

-- Unification is not to compute a power of ten with so many digits.
attribute [irreducible] isWritable

/-- What is nearer to zero takes no more digits. -/
theorem isWritable_of_le {number other : Int} (nearer : number.natAbs ≤ other.natAbs)
    (written : isWritable other = true) : isWritable number = true :=
  isWritable_iff.mpr (Nat.lt_of_le_of_lt nearer (isWritable_iff.mp written))

theorem isWritable_of_pow_le {number : Int} (long : Nat.pow 10 longestDecimal ≤ number.natAbs) :
    isWritable number = false :=
  Bool.eq_false_iff.mpr fun written => Nat.not_lt.mpr long (isWritable_iff.mp written)

theorem natAbs_ten_pow (digits : Nat) : (Int.pow 10 digits).natAbs = Nat.pow 10 digits :=
  Int.natAbs_pow 10 digits

/-- The least number that takes too many digits. -/
theorem isWritable_ten_pow : isWritable (Int.pow 10 longestDecimal) = false :=
  isWritable_of_pow_le (Nat.le_of_eq (natAbs_ten_pow longestDecimal).symm)

theorem lt_ten_pow {number : Int} {digits : Nat} (small : number < 10) (several : 1 < digits) :
    number < Int.pow 10 digits :=
  calc number < Int.pow 10 1 := small
    _ < Int.pow 10 digits := Int.pow_lt_pow_of_lt (by decide) several

end Numeral

/-- The decimal numeral of a number, if it can be written. -/
def Text.ofInt? (number : Int) : Option Text :=
  if Numeral.isWritable number then some (ofInt number) else none

@[simp] theorem Text.isSome_ofInt? (number : Int) :
    (ofInt? number).isSome = Numeral.isWritable number := by
  cases written : Numeral.isWritable number <;> simp [ofInt?, written]

end PatternForge
