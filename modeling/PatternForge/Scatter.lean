import PatternForge.Value

/-!
# The order of a set

A set has no order of its own, but it is listed in one. Its members stand in a table of places: each
goes to the place that its key gives, and if that place is taken a fixed rule leads on to others.
The members are listed by place, and those that give no key after them.
-/

namespace PatternForge.Scatter

/-! ## Keys -/

/-- The keys of numbers are residues by this prime, with the sign of the number. -/
def modulus : Nat := Nat.pow 2 61 - 1

/-- The residue of `significand · 2 ^ exponent`; sixty-one doublings change no residue. -/
def residue (significand : Nat) (exponent : Int) : Nat :=
  significand * Nat.pow 2 (exponent % 61).toNat % modulus

/-- A signed key as a word of sixty-four binary digits. Minus one is no key; minus two stands for
it. -/
def word (key : Int) : Nat :=
  ((if key = -1 then -2 else key) % Int.pow 2 64).toNat

/-- The key of a member, where it depends on nothing but the member. -/
def key? : Scalar → Option Nat
  | .null => some 15
  | .bool value => some (word (Value.ofTruth value))
  | .int value => some (word (value.tmod modulus))
  | .float (.finite negative significand exponent) =>
    some (word (Binary64.signed negative (residue significand exponent)))
  | .float (.infinite negative) => some (word (Binary64.signed negative 314159))
  | .text [] | .bytes [] => some 0
  | _ => none

/-! ## Places -/

/-- The number of places for so many members: a power of two that leaves more than half free. -/
def size (count : Nat) : Nat :=
  if count < 5 then 8 else Nat.pow 2 (Nat.log2 (2 * count) + 1)

/-- How many places after a place are tried before the rule leads on. -/
def reach (size place : Nat) : Nat :=
  if place + 9 < size then 9 else 0

/-- A free place for a key, which is used up in portions on the way from place to place. -/
def freePlace (size : Nat) (isFree : Nat → Bool) : Nat → Nat → Nat → Nat
  | 0, place, _ => place
  | more + 1, place, key =>
    match (List.range (reach size place + 1)).find? fun step => isFree (place + step) with
    | some step => place + step
    | none => freePlace size isFree more ((place * 5 + 1 + key / 32) % size) (key / 32)

/-- The table with one more member, if the member gives a key. A key is used up after thirteen
portions, and from then on the rule leads through all places. -/
def settle (size : Nat) (table : List (Nat × Scalar)) (member : Scalar) : List (Nat × Scalar) :=
  match key? member with
  | none => table
  | some key =>
    let isFree := fun place => (table.lookup place).isNone
    (freePlace size isFree (size + 13) (key % size) key, member) :: table

/-- The members of a set, which came in the given order, as they are listed. -/
def arrange (members : List Scalar) : List Scalar :=
  let size := size members.length
  let table := members.foldl (settle size) []
  (List.range size).filterMap (table.lookup ·) ++ members.filter fun member => (key? member).isNone

end PatternForge.Scatter
