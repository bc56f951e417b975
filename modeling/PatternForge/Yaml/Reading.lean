import PatternForge.Text.Casing
import PatternForge.Value
import PatternForge.Yaml.Tag

/-!
# Reading scalars

What a scalar is read as under its tag. Numbers may be written in bases and in groups of sixty,
truth values by words, days and times by the calendar, octets in base sixty-four.
-/

namespace PatternForge.Yaml

namespace Reading

/-- A text without underscores. -/
def dropGaps (text : Text) : Text :=
  text.filter (· != .ofChar '_')

/-- The stretches of a text between colons. -/
def splitColons (text : Text) : List Text :=
  text.splitOn (.ofChar ':')

/-- Whether a text starts with the characters of a string. -/
def startsWith (start : String) (text : Text) : Bool :=
  (Text.ofString start).isPrefixOf text

/-- A number in a base, or a fault. -/
def inBase (base : Nat) (text : Text) : Except Fault Int :=
  match Numeral.readInteger? base text with
  | some number => .ok number
  | none => .error .invalid

/-- A whole number without its sign. -/
def magnitude (text : Text) : Except Fault Int :=
  if text = Text.ofString "0" then .ok 0
  else if startsWith "0b" text then inBase 2 (text.drop 2)
  else if startsWith "0x" text then inBase 16 (text.drop 2)
  else if startsWith "0" text then inBase 8 text
  else if text.isEmpty then .error .emptyNumeral
  else
    (splitColons text).foldlM (fun total part => do return total * 60 + (← inBase 10 part)) 0

def integer (text : Text) : Except Fault Int := do
  let digits := dropGaps text
  if digits.isEmpty then .error .emptyNumeral
  else
    let (negative, rest) := Numeral.signed digits
    let number ← magnitude rest
    return if negative then -number else number

/-- A double-precision number, or a fault. -/
def pointed (text : Text) : Except Fault Binary64 :=
  match Numeral.readFloat? text with
  | some number => .ok number
  | none => .error .invalid

/-- The sum of numbers in groups of sixty, the last one counting singly. -/
def sixtieths (base : Int) (total : Binary64) : List Binary64 → Except Fault Binary64
  | [] => .ok total
  | digit :: rest =>
    match Binary64.ofInt base with
    | .infinite _ => .error .overflow
    | factor => sixtieths (base * 60) (total.add (digit.mul factor)) rest

def undefinedWord : Text := ".nan"

/-- Whether a text is the word for the undefined number, a sign before it not counting. -/
def isUndefinedWord (text : Text) : Bool :=
  (Numeral.signed (dropGaps text).lower).2 == undefinedWord

def float (text : Text) : Except Fault Binary64 := do
  let digits := (dropGaps text).lower
  if digits.isEmpty then .error .emptyNumeral
  else
    let (negative, rest) := Numeral.signed digits
    let number ←
      if rest = Text.ofString ".inf" then pure (.infinite false)
      else if rest = undefinedWord then pure .undefined
      else if rest.contains (.ofChar ':') then do
        sixtieths 1 (.ofInt 0) (← (splitColons rest).mapM pointed).reverse
      else pointed rest
    return if negative then number.neg else number

def bool (text : Text) : Except Fault Bool :=
  let word := text.lower
  if ["yes", "true", "on"].any fun yes => word == Text.ofString yes then .ok true
  else if ["no", "false", "off"].any fun no => word == Text.ofString no then .ok false
  else .error .unknownWord

/-! ## Days and times -/

def isLeap (year : Nat) : Bool :=
  year % 4 == 0 && (year % 100 != 0 || year % 400 == 0)

def monthLengths (year : Nat) : List Nat :=
  [31, if isLeap year then 29 else 28, 31, 30, 31, 30, 31, 31, 30, 31, 30, 31]

/-- The number of a day, the first day of the first year being one. -/
def dayNumber (year month day : Nat) : Int :=
  let past := year - 1
  past * 365 + past / 4 - past / 100 + past / 400
    + (((monthLengths year).take (month - 1)).foldr (· + ·) 0 : Nat) + day

def isDay (year month day : Nat) : Bool :=
  1 ≤ year && 1 ≤ month && month ≤ 12 && 1 ≤ day
    && day ≤ ((monthLengths year)[month - 1]?).getD 0

/-- The millionths of a second that some digits after the point stand for. -/
def millionths (digits : List Nat) : Nat :=
  Numeral.valueOf 10 ((digits ++ List.replicate 6 0).take 6)

/-- The day or the time that a timestamp states. -/
def moment (timestamp : Timestamp) : Except Fault Moment :=
  let number := dayNumber timestamp.year timestamp.month timestamp.day
  if !isDay timestamp.year timestamp.month timestamp.day then .error .invalid
  else
    match timestamp.time with
    | none => .ok (.day number)
    | some (hour, minute, second, fraction) =>
      let seconds : Int := ((number * 24 + hour) * 60 + minute) * 60 + second
      let microseconds := seconds * 1000000 + millionths fraction
      if 24 ≤ hour || 60 ≤ minute || 60 ≤ second then .error .invalid
      else
        match timestamp.offset with
        | none => .ok (.civil microseconds)
        | some minutes =>
          if 24 * 60 ≤ minutes.natAbs then .error .invalid
          else .ok (.instant (microseconds - minutes * 60 * 1000000))

/-! ## Octets -/

/-- The value of a digit of base sixty-four. -/
def base64Digit? (point : CodePoint) : Option Nat :=
  if 0x41 ≤ point.val ∧ point.val ≤ 0x5A then some (point.val - 0x41)
  else if 0x61 ≤ point.val ∧ point.val ≤ 0x7A then some (point.val - 0x61 + 26)
  else if 0x30 ≤ point.val ∧ point.val ≤ 0x39 then some (point.val - 0x30 + 52)
  else if point = .ofChar '+' then some 62
  else if point = .ofChar '/' then some 63
  else none

/-- The octets of digits of base sixty-four. Other characters are passed over; an equals sign after
two digits of a group counts as padding, and the group ends with enough of it. -/
def octets : List Nat → Nat → Text → Option (List UInt8)
  | group, _, [] => if group.isEmpty then some [] else none
  | group, padding, point :: rest =>
    if point = .ofChar '=' then
      if 2 ≤ group.length && 4 ≤ group.length + padding + 1 then some []
      else octets group (if 2 ≤ group.length then padding + 1 else padding) rest
    else
      match base64Digit? point, group with
      | none, group => octets group padding rest
      | some digit, [] => octets [digit] 0 rest
      | some digit, [a] => (octets [a, digit] 0 rest).map ((a * 4 + digit / 16).toUInt8 :: ·)
      | some digit, [a, b] =>
        (octets [a, b, digit] 0 rest).map ((b % 16 * 16 + digit / 4).toUInt8 :: ·)
      | some digit, _ :: _ :: c :: _ =>
        (octets [] 0 rest).map ((c % 4 * 64 + digit).toUInt8 :: ·)

/-- The octets that a text writes in base sixty-four. -/
def binary (text : Text) : Except Fault (List UInt8) :=
  if !text.all fun point => point.val < 0x80 then .error .malformed
  else
    match octets [] 0 text with
    | some octets => .ok octets
    | none => .error .malformed

end Reading

/-- What a text is read as under the tag of a scalar; the tags of collections have no scalars. -/
def readScalar (tag : Tag) (text : Text) : Except Fault Scalar :=
  match tag with
  | .null => .ok .null
  | .bool => Scalar.bool <$> Reading.bool text
  | .int => Scalar.int <$> Reading.integer text
  | .float => Scalar.float <$> Reading.float text
  | .binary => Scalar.bytes <$> Reading.binary text
  | .str => .ok (.text text)
  | .timestamp =>
    match text.toChars? >>= fun chars => Timestamp.parse? (Tag.dropLineFeed chars) with
    | some timestamp => Scalar.moment <$> Reading.moment timestamp
    | none => .error .noTimestamp
  | _ => .error .malformed

end PatternForge.Yaml
