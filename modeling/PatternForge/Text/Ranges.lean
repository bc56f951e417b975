import PatternForge.Text.Basic

/-!
# Sets of code points as ranges

A property of code points is a list of closed ranges in rising order.
-/

namespace PatternForge

/-- Closed ranges of code point numbers. -/
abbrev Ranges := List (Nat × Nat)

namespace Ranges

/-- Whether a number lies in one of the ranges. -/
def covers (ranges : Ranges) (number : Nat) : Bool :=
  ranges.any fun range => range.1 ≤ number && number ≤ range.2

end Ranges

end PatternForge
