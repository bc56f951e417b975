import PatternForge.Number.Numeral
import PatternForge.Text.Utf8
import PatternForge.Yaml.Cursor
import PatternForge.Yaml.Token

/-!
# Words of a document

Readers of the tokens on one line that are not scalars: anchors, references, tags and directives.
-/

namespace PatternForge.Yaml

/-- Letters and digits of the basic Latin range, the hyphen and the underscore. -/
def isWordChar (char : Char) : Bool :=
  char.isAlphanum || char == '-' || char == '_'

def isOneOf (others : String) (char : Char) : Bool :=
  others.toList.contains char

def hexValue? (char : Char) : Option Nat :=
  (CodePoint.ofChar char).latinDigit?.filter (· < 16)

namespace Lexer

/-- Reads the number that so many hexadecimal digits stand for. -/
def hexNumber (width : Nat) : Lexer Nat := do
  let digits := (← get).rest.take width
  advance width
  match digits.mapM hexValue? with
  | some values => if values.length = width then return Numeral.valueOf 16 values else malformed
  | none => malformed

/-- Reads a non-empty name, up to a character that may follow it. -/
def word (mayFollow : Char → Bool) : Lexer (List Char) := do
  let chars ← span isWordChar
  if chars.isEmpty then malformed
  expect mayFollow
  return chars

/-- Reads the name of an anchor, its sign included. -/
def anchorName : Lexer (List Char) := do
  advance 1
  word fun char => isBlankOrEnd char || isOneOf "?:,]\x7d%@\x60" char

/-! ## Tags -/

/-- The characters of a tag that stand for themselves. -/
def isTagChar (char : Char) : Bool :=
  char.isAlphanum || isOneOf "-;/?:@&=+$,_.!~*'()[]" char

/-- Reads the octets that percent signs write, so many at most. -/
def percentOctets : Nat → Lexer (List UInt8)
  | 0 => return []
  | more + 1 => do
    if (← peek) == '%' then
      advance 1
      let octet ← hexNumber 2
      return octet.toUInt8 :: (← percentOctets more)
    else return []

/-- Reads the characters of a tag, decoding the escaped ones, in so many stretches at most. -/
def tagChars : Nat → Lexer (List Char)
  | 0 => return []
  | more + 1 => do
    let chars ← span isTagChar
    if (← peek) == '%' then
      match Utf8.decode (← percentOctets (← budget)) with
      | .error _ => malformed
      | .ok text => return chars ++ text.toChars ++ (← tagChars more)
    else return chars

/-- Reads the characters of a tag; there must be one or an escape. -/
def tagText : Lexer (List Char) := do
  expect fun char => isTagChar char || char == '%'
  tagChars (← budget)

/-- Reads a handle: one exclamation mark, or a word between two. -/
def tagHandle : Lexer (List Char) := do
  expect (· == '!')
  advance 1
  if (← peek) == ' ' then return ['!']
  let chars ← span isWordChar
  expect (· == '!')
  advance 1
  return '!' :: (chars ++ ['!'])

/-- Whether a second exclamation mark comes before the tag ends. -/
def hasLongHandle (cursor : Cursor) : Bool :=
  (cursor.next.rest.dropWhile fun char => char != '!' && !isSpaceOrEnd char).head? == some '!'

/-- Reads a tag and looks at what follows it. -/
def writtenTag : Lexer WrittenTag := do
  let tag ← body
  expect isSpaceOrEnd
  return tag
where
  /-- Reads a tag. -/
  body : Lexer WrittenTag := do
    let second ← ahead 1
    if second == '<' then
      advance 2
      let suffix ← tagText
      expect (· == '>')
      advance 1
      return ⟨none, suffix⟩
    else if isBlankOrEnd second then
      advance 1
      return ⟨none, ['!']⟩
    else if hasLongHandle (← get) then
      let handle ← tagHandle
      return ⟨some handle, ← tagText⟩
    else
      advance 1
      return ⟨some ['!'], ← tagText⟩

/-! ## Directives -/

/-- Reads a number of a version. -/
def versionNumber : Lexer Nat := do
  let digits ← span (·.isDigit)
  if digits.isEmpty then malformed
  match Numeral.readInteger? 10 (Text.ofChars digits) with
  | some number => return number.toNat
  | none => throw .invalid

def version : Lexer Directive := do
  skipSpaces
  let major ← versionNumber
  expect (· == '.')
  advance 1
  let minor ← versionNumber
  expect isSpaceOrEnd
  return .version major minor

/-- Reads the meaning that a directive gives to a handle. -/
def handleMeaning : Lexer Directive := do
  skipSpaces
  let handle ← tagHandle
  expect (· == ' ')
  skipSpaces
  let meaning ← tagText
  expect isSpaceOrEnd
  return .handle handle meaning

/-- Reads a directive, its sign included, and the end of its line. -/
def directive : Lexer Directive := do
  advance 1
  let keyword ← word isSpaceOrEnd
  let directive ←
    if keyword == "YAML".toList then version
    else if keyword == "TAG".toList then handleMeaning
    else do
      skip (!isBreak ·)
      pure .reserved
  finishLine
  return directive

end Lexer

end PatternForge.Yaml
