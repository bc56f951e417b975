import PatternForge.Text.Basic

/-!
# Text as octets

The encoding of code points in one to four octets. Reading stops at the first sequence that no code
point has and says where it starts, which octets it covers and what is wrong with it.
-/

namespace PatternForge.Utf8

/-- What is wrong with a sequence of octets. -/
inductive Cause where
  | start
  | continuation
  | truncated
deriving DecidableEq, Repr

/-- A sequence that no code point has. -/
structure Fault where
  position : Nat
  first : UInt8
  length : Nat
  cause : Cause
deriving DecidableEq

def encodePoint (point : CodePoint) : List UInt8 :=
  let number := point.val
  if number < 0x80 then [number.toUInt8]
  else if number < 0x800 then
    [(0xC0 + number / 0x40).toUInt8, (0x80 + number % 0x40).toUInt8]
  else if number < 0x10000 then
    [(0xE0 + number / 0x1000).toUInt8, (0x80 + number / 0x40 % 0x40).toUInt8,
      (0x80 + number % 0x40).toUInt8]
  else
    [(0xF0 + number / 0x40000).toUInt8, (0x80 + number / 0x1000 % 0x40).toUInt8,
      (0x80 + number / 0x40 % 0x40).toUInt8, (0x80 + number % 0x40).toUInt8]

def encode (text : Text) : List UInt8 :=
  text.flatMap encodePoint

/-- How a first octet goes on: how many octets follow, and the range of the next one. -/
structure Lead where
  tails : Nat
  /-- The least octet that may follow at once. -/
  low : Nat
  /-- The greatest octet that may follow at once. -/
  high : Nat
  bits : Nat

/-- The first octets. The ranges shut out overlong sequences, surrogates and numbers too large. -/
def lead? (octet : Nat) : Option Lead :=
  if octet < 0x80 then some ⟨0, 0, 0, octet⟩
  else if octet < 0xC2 then none
  else if octet < 0xE0 then some ⟨1, 0x80, 0xBF, octet - 0xC0⟩
  else if octet = 0xE0 then some ⟨2, 0xA0, 0xBF, 0⟩
  else if octet = 0xED then some ⟨2, 0x80, 0x9F, 0xD⟩
  else if octet < 0xF0 then some ⟨2, 0x80, 0xBF, octet - 0xE0⟩
  else if octet = 0xF0 then some ⟨3, 0x90, 0xBF, 0⟩
  else if octet < 0xF4 then some ⟨3, 0x80, 0xBF, octet - 0xF0⟩
  else if octet = 0xF4 then some ⟨3, 0x80, 0x8F, 4⟩
  else none

/-- The reader between two octets. -/
structure Reader where
  /-- The code points read, the last first. -/
  text : Text := []
  /-- How many octets the finished code points took. -/
  position : Nat := 0
  /-- The octets of the unfinished code point, the last first. -/
  pending : List UInt8 := []
  needed : Nat := 0
  low : Nat := 0x80
  high : Nat := 0xBF
  bits : Nat := 0

/-- Starts a code point. -/
def Reader.begin (reader : Reader) (octet : UInt8) : Except Fault Reader :=
  match lead? octet.toNat with
  | none => .error ⟨reader.position, octet, 1, .start⟩
  | some ⟨0, _, _, bits⟩ =>
    .ok { text := (CodePoint.ofNat? bits).toList ++ reader.text, position := reader.position + 1 }
  | some ⟨tails + 1, low, high, bits⟩ =>
    .ok { reader with pending := [octet], needed := tails + 1, low, high, bits }

def Reader.step (reader : Reader) (octet : UInt8) : Except Fault Reader :=
  match reader.pending.getLast? with
  | none => reader.begin octet
  | some first =>
    if reader.low ≤ octet.toNat ∧ octet.toNat ≤ reader.high then
      let bits := reader.bits * 0x40 + octet.toNat % 0x40
      if reader.needed ≤ 1 then
        .ok { text := (CodePoint.ofNat? bits).toList ++ reader.text
              position := reader.position + reader.pending.length + 1 }
      else
        .ok { reader with
          pending := octet :: reader.pending, needed := reader.needed - 1, low := 0x80,
          high := 0xBF, bits }
    else .error ⟨reader.position, first, reader.pending.length, .continuation⟩

def Reader.finish (reader : Reader) : Except Fault Text :=
  match reader.pending.getLast? with
  | none => .ok reader.text.reverse
  | some first => .error ⟨reader.position, first, reader.pending.length, .truncated⟩

def decode (octets : List UInt8) : Except Fault Text := do
  (← octets.foldlM Reader.step {}).finish

def Cause.message : Cause → Text
  | .start => "invalid start byte"
  | .continuation => "invalid continuation byte"
  | .truncated => "unexpected end of data"

/-- The report of a fault: one octet is shown, several are given by their positions. -/
def Fault.message (fault : Fault) : Text :=
  let place : Text :=
    if fault.length = 1 then
      "byte 0x" ++ Text.ofChars
          [Nat.digitChar (fault.first.toNat / 16), Nat.digitChar (fault.first.toNat % 16)]
        ++ " in position " ++ Text.ofNat fault.position
    else
      "bytes in position " ++ Text.ofNat fault.position ++ "-"
        ++ Text.ofNat (fault.position + fault.length - 1)
  "'utf-8' codec can't decode " ++ place ++ ": " ++ fault.cause.message

end PatternForge.Utf8
