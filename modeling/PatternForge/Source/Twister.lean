import PatternForge.Source.Basic

/-!
# The twisted feedback register

A linear feedback register of 624 words of 32 bits, filled from the words of a seed. A request draws
words until one has a number below the size of the range in its highest bits.
-/

namespace PatternForge

/-- The register and the word that comes next. -/
structure Twister where
  words : Array UInt32
  /-- How many of them are used up. -/
  used : Nat

namespace Twister

def length : Nat := 624

/-- How far apart the words are that one step joins. -/
def stride : Nat := 397

/-- The greatest number that the source can give. -/
def top : Int := 2147483647

def word (words : Array UInt32) (index : Nat) : UInt32 :=
  words.getD index 0

/-- A word with the two highest bits of it added to the rest. -/
def stirred (word : UInt32) : UInt32 :=
  word ^^^ (word >>> 30)

/-- The register that one word starts. -/
def ofWord (start : UInt32) : Array UInt32 :=
  (List.range (length - 1)).foldl (fun words index =>
    words.push (1812433253 * stirred (word words index) + (index + 1).toUInt32)) #[start]

/-- The words of a number, the lowest first; fuel is the number of words at most. -/
def wordsWithin : Nat → Nat → List UInt32
  | 0, _ => []
  | fuel + 1, number =>
    if number < Nat.pow 2 32 then [number.toUInt32]
    else number.toUInt32 :: wordsWithin fuel (number / Nat.pow 2 32)

/-- The words of a number, the lowest first. -/
def wordsOf (number : Nat) : List UInt32 :=
  wordsWithin (number.log2 / 32 + 1) number

/-- A register being filled, and the word to be filled next. -/
structure Filling where
  words : Array UInt32
  index : Nat

/-- Fills one word; past the last one the first takes its value and the second comes next. -/
def Filling.put (filling : Filling) (value : UInt32) : Filling :=
  let words := filling.words.setIfInBounds filling.index value
  if filling.index + 1 < length then ⟨words, filling.index + 1⟩
  else ⟨words.setIfInBounds 0 (word words (length - 1)), 1⟩

/-- The word to be filled next, joined with its neighbour. -/
def Filling.joined (filling : Filling) (factor : UInt32) : UInt32 :=
  word filling.words filling.index ^^^ (stirred (word filling.words (filling.index - 1)) * factor)

/-- The register that a key fills. -/
def ofKey (key : Array UInt32) : Array UInt32 :=
  let first := (List.range (max length key.size)).foldl (fun (filling : Filling) step =>
    let place := step % key.size
    filling.put (filling.joined 1664525 + key.getD place 0 + place.toUInt32))
    ⟨ofWord 19650218, 1⟩
  let second := (List.range (length - 1)).foldl (fun (filling : Filling) _ =>
    filling.put (filling.joined 1566083941 - filling.index.toUInt32)) first
  second.words.setIfInBounds 0 0x80000000

/-- The source of a seed; its sign does not count. -/
def ofSeed (seed : Int) : Twister :=
  ⟨ofKey (wordsOf seed.natAbs).toArray, length⟩

/-- The register after every word of it was used. -/
def refill (words : Array UInt32) : Array UInt32 :=
  (List.range length).foldl (fun words index =>
    let mixed := (word words index &&& 0x80000000)
      ||| (word words ((index + 1) % length) &&& 0x7FFFFFFF)
    let twist : UInt32 := if mixed &&& 1 = 0 then 0 else 0x9908B0DF
    words.setIfInBounds index (word words ((index + stride) % length) ^^^ (mixed >>> 1) ^^^ twist))
    words

/-- A word as it leaves the register. -/
def temper (word : UInt32) : UInt32 :=
  let word := word ^^^ (word >>> 11)
  let word := word ^^^ ((word <<< 7) &&& 0x9D2C5680)
  let word := word ^^^ ((word <<< 15) &&& 0xEFC60000)
  word ^^^ (word >>> 18)

def next (twister : Twister) : UInt32 × Twister :=
  let current : Twister :=
    if length ≤ twister.used then ⟨refill twister.words, 0⟩ else twister
  (temper (word current.words current.used), ⟨current.words, current.used + 1⟩)

/-- Half of all words serve any request, so that the attempts do not run out in practice. -/
def attempts : Nat := 4096

/-- A number below the size of a range, from the highest bits of the first word that has one. -/
def below (size bits : Nat) : Nat → Twister → Nat × Twister
  | 0, twister => (0, twister)
  | more + 1, twister =>
    let (word, twister) := twister.next
    let number := word.toNat >>> (32 - bits)
    if number < size then (number, twister) else below size bits more twister

/-- Answers a request. A range that the source cannot serve leaves the register alone. -/
def draw (low high : Int) (twister : Twister) : Except DrawFault Value × Twister :=
  match rangeFault? top low high with
  | some fault => (.error fault, twister)
  | none =>
    let size := (high - low + 1).toNat
    let (number, twister) := below size (size.log2 + 1) attempts twister
    (.ok (.int (low + number)), twister)

end Twister

end PatternForge
