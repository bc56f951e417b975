import PatternForge.Yaml.Word

/-!
# Tags

What a node is to be read as. A plain scalar without a tag gets one from its form: each kind of
value has words or a pattern of its own, and whatever fits none is a text.
-/

namespace PatternForge.Yaml

/-- What a node is to be read as. -/
inductive Tag where
  | null
  | bool
  | int
  | float
  | binary
  | timestamp
  | str
  | seq
  | map
  | set
  | omap
  | pairs
  /-- The key under which other mappings are merged in. -/
  | merge
  /-- The key of the value that stands for a whole mapping. -/
  | default
  /-- Anything else, which nothing is read as. -/
  | unknown
deriving DecidableEq, Repr

namespace Tag

def domain : List Char :=
  "tag:yaml.org,2002:".toList

def known : List (String × Tag) := [
  ("null", null), ("bool", bool), ("int", int), ("float", float), ("binary", binary),
  ("timestamp", timestamp), ("str", str), ("seq", seq), ("map", map), ("set", set),
  ("omap", omap), ("pairs", pairs), ("merge", merge), ("value", default)]

def ofName (name : List Char) : Tag :=
  match known.find? fun entry => domain ++ entry.1.toList == name with
  | some entry => entry.2
  | none => unknown

/-! ## Forms of plain scalars -/

def boolWords : List String := [
  "yes", "Yes", "YES", "no", "No", "NO", "true", "True", "TRUE", "false", "False", "FALSE",
  "on", "On", "ON", "off", "Off", "OFF"]

def nullWords : List String := ["", "~", "null", "Null", "NULL"]

def infinityWords : List String := [".inf", ".Inf", ".INF"]

def undefinedWords : List String := [".nan", ".NaN", ".NAN"]

/-- Whether a scalar is one of some words. -/
def isWord (words : List String) (chars : List Char) : Bool :=
  words.any fun word => word.toList == chars

/-- The scalar without a sign before it. -/
def dropSign : List Char → List Char
  | '+' :: rest => rest
  | '-' :: rest => rest
  | chars => chars

/-- Digits of a class and underscores. -/
def isDigitOrGap (digit : Char → Bool) (char : Char) : Bool :=
  digit char || char == '_'

/-- Whether a scalar is a non-empty row of digits of a class and underscores. -/
def isRow (digit : Char → Bool) (chars : List Char) : Bool :=
  !chars.isEmpty && chars.all (isDigitOrGap digit)

/-- The digits of base two. -/
def isBinary (char : Char) : Bool :=
  char == '0' || char == '1'

/-- The digits of base eight. -/
def isOctal (char : Char) : Bool :=
  '0' ≤ char && char ≤ '7'

/-- The digits of base sixteen. -/
def isHexadecimal (char : Char) : Bool :=
  (hexValue? char).isSome

/-- The digits of base ten but zero. -/
def isPositive (char : Char) : Bool :=
  '1' ≤ char && char ≤ '9'

/-- The stretches of a scalar between colons. -/
def splitColons (chars : List Char) : List (List Char) :=
  chars.splitOn ':'

/-- A number below sixty in one digit or two. -/
def isSixtieth : List Char → Bool
  | [digit] => digit.isDigit
  | [ten, digit] => '0' ≤ ten && ten ≤ '5' && digit.isDigit
  | _ => false

/-- Whether a scalar without its sign is a whole number. -/
def isInteger : List Char → Bool
  | '0' :: 'b' :: digits => isRow isBinary digits
  | '0' :: 'x' :: digits => isRow isHexadecimal digits
  | ['0'] => true
  | '0' :: digits => isRow isOctal digits
  | chars =>
    match splitColons chars with
    | first :: rest =>
      (first.head?.map isPositive).getD false && isRow Char.isDigit first && rest.all isSixtieth
    | [] => false

/-- Whether a scalar is a signed exponent of ten, or empty. -/
def isExponent : List Char → Bool
  | [] => true
  | mark :: sign :: digits =>
    (mark == 'e' || mark == 'E') && (sign == '+' || sign == '-') && !digits.isEmpty
      && digits.all Char.isDigit
  | _ => false

/-- Whether a scalar is a row of digits, then an exponent or nothing. -/
def isFraction (chars : List Char) : Bool :=
  isExponent (chars.dropWhile (isDigitOrGap Char.isDigit))

def startsWithDigit (chars : List Char) : Bool :=
  (chars.head?.map Char.isDigit).getD false

/-- Whether a scalar without its sign is a number with a point after a digit. -/
def isPointed (chars : List Char) : Bool :=
  let whole := chars.takeWhile (· != '.')
  match chars.dropWhile (· != '.') with
  | _ :: fraction =>
    match splitColons whole with
    | [whole] => startsWithDigit whole && isRow Char.isDigit whole && isFraction fraction
    | first :: rest =>
      startsWithDigit first && isRow Char.isDigit first && rest.all isSixtieth
        && fraction.all (isDigitOrGap Char.isDigit)
    | [] => false
  | [] => false

/-- Whether a scalar is a double-precision number. -/
def isFloat (chars : List Char) : Bool :=
  isPointed (dropSign chars)
    || (match chars with
      | '.' :: rest => startsWithDigit rest && isFraction rest
      | _ => false)
    || isWord infinityWords (dropSign chars)
    || isWord undefinedWords chars

end Tag

/-! ## Timestamps -/

/-- The parts of a timestamp as written. -/
structure Timestamp where
  year : Nat
  month : Nat
  day : Nat
  /-- Hour, minute, second and the digits after the point, where there is a time. -/
  time : Option (Nat × Nat × Nat × List Nat) := none
  /-- The distance from universal time in minutes, where it is stated. -/
  offset : Option Int := none
  /-- Whether every part of the day has its full width. -/
  wide : Bool

namespace Timestamp

/-- So many digits, and the rest. -/
def digits? (least most : Nat) (chars : List Char) : Option (List Nat × List Char) :=
  let found := (chars.take most).takeWhile Char.isDigit
  if found.length < least then none
  else some (found.map (fun digit => digit.toNat - '0'.toNat), chars.drop found.length)

/-- The rest after one given character. -/
def after? (expected : Char) : List Char → Option (List Char)
  | char :: rest => if char == expected then some rest else none
  | [] => none

/-- The number of some decimal digits. -/
def number (digits : List Nat) : Nat :=
  Numeral.valueOf 10 digits

/-- A distance from universal time that ends the scalar. -/
def offset? (chars : List Char) : Option (Option Int) :=
  match chars.dropWhile fun char => char == ' ' || char == '\t' with
  | [] => if chars.isEmpty then some none else none
  | ['Z'] => some (some 0)
  | sign :: rest => do
    if sign != '+' && sign != '-' then none
    let (hours, rest) ← digits? 1 2 rest
    let minutes ←
      (match rest with
      | [] => some []
      | ':' :: rest => do
        let (minutes, rest) ← digits? 2 2 rest
        if rest.isEmpty then some minutes else none
      | _ => none)
    let distance : Int := number hours * 60 + number minutes
    return some (if sign == '-' then -distance else distance)

/-- A time of day, and the rest. -/
def time? (chars : List Char) : Option ((Nat × Nat × Nat × List Nat) × List Char) := do
  let (hour, rest) ← digits? 1 2 chars
  let (minute, rest) ← digits? 2 2 (← after? ':' rest)
  let (second, rest) ← digits? 2 2 (← after? ':' rest)
  let fraction := (rest.drop 1).takeWhile Char.isDigit
  let (fraction, rest) :=
    if rest.head? == some '.' then (fraction, rest.drop (fraction.length + 1)) else ([], rest)
  return ((number hour, number minute, number second,
    fraction.map fun digit => digit.toNat - '0'.toNat), rest)

/-- What separates a day from a time of day, removed. -/
def timeStart? : List Char → Option (List Char)
  | [] => none
  | char :: rest =>
    if char == 'T' || char == 't' then some rest
    else if char == ' ' || char == '\t' then
      some (rest.dropWhile fun char => char == ' ' || char == '\t')
    else none

def parse? (chars : List Char) : Option Timestamp := do
  let (year, rest) ← digits? 4 4 chars
  let (month, rest) ← digits? 1 2 (← after? '-' rest)
  let (day, rest) ← digits? 1 2 (← after? '-' rest)
  let wide := month.length == 2 && day.length == 2
  let date : Timestamp := { year := number year, month := number month, day := number day, wide }
  if rest.isEmpty then return date
  else
    let (time, rest) ← time? (← timeStart? rest)
    return { date with time := some time, offset := ← offset? rest }

end Timestamp

namespace Tag

/-- Whether a scalar is a timestamp by its form: a day alone needs its full width. -/
def isTimestamp (chars : List Char) : Bool :=
  match Timestamp.parse? chars with
  | some parts => parts.time.isSome || parts.wide
  | none => false

/-- A scalar without a line feed at its end. -/
def dropLineFeed (chars : List Char) : List Char :=
  if chars.getLast? == some '\n' then chars.dropLast else chars

/-- The tag that the form of a plain scalar gives. A line feed at the end does not count, unless it
is the first character. -/
def ofForm (chars : List Char) : Tag :=
  let form := dropLineFeed chars
  if chars.head? == some '\n' then str
  else if isWord boolWords form then bool
  else if isFloat form then float
  else if isInteger (dropSign form) then int
  else if isWord ["<<"] form then merge
  else if isWord nullWords form then null
  else if isTimestamp form then timestamp
  else if isWord ["="] form then default
  else if isWord ["!", "&", "*"] form then unknown
  else str

end Tag

end PatternForge.Yaml
