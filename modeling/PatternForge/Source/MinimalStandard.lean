import PatternForge.Source.Basic

/-!
# The minimal standard generator

The state runs through the residues of a prime, multiplied by a primitive root at every draw, and
is scaled onto the range asked for.
-/

namespace PatternForge

/-- The state of a minimal standard generator. -/
structure MinimalStandard where
  state : Nat
deriving DecidableEq, Repr

namespace MinimalStandard

/-- The prime, two to the thirty-first less one. -/
def modulus : Nat := 2147483647

def multiplier : Nat := 16807

/-- The greatest number that the generator can give. -/
def top : Int := 2147483646

/-- The generator of a seed. A seed that is no unit modulo the prime counts as one. -/
def ofSeed (seed : Int) : MinimalStandard :=
  let residue := (seed % (modulus : Int)).toNat
  ⟨if residue = 0 then 1 else residue⟩

def next (generator : MinimalStandard) : MinimalStandard :=
  ⟨generator.state * multiplier % modulus⟩

/-- The number of a range that the state stands for. -/
def scale (generator : MinimalStandard) (low high : Int) : Int :=
  low + ((generator.state : Int) - 1) * (high - low + 1) / ((modulus : Int) - 1)

/-- Answers a request. A range that the generator cannot serve leaves the state alone. -/
def draw (low high : Int) (generator : MinimalStandard) :
    Except DrawFault Value × MinimalStandard :=
  match rangeFault? top low high with
  | some fault => (.error fault, generator)
  | none => (.ok (.int (generator.next.scale low high)), generator.next)

def source : Source MinimalStandard :=
  .ofDraw draw

end MinimalStandard

end PatternForge
