import PatternForge.Text.Basic

/-!
# A place in a document

A cursor holds the characters still to be read and says where the first of them stands. Lines end at
five characters and one pair of them.
-/

namespace PatternForge.Yaml

/-- Why a document gives no value. -/
inductive Fault where
  | malformed
  /-- A scalar has a tag whose values it cannot name: a number, a date or a code point. -/
  | invalid
  /-- A scalar tagged as a truth value is no word for one. -/
  | unknownWord
  /-- A scalar tagged as a time has not the form of one. -/
  | noTimestamp
  | emptyNumeral
  /-- A collection stands where only a scalar can name a time. -/
  | noScalar
  /-- A number is too large for the arithmetic that it takes part in. -/
  | overflow
  /-- The number of a code point takes more than thirty-one binary digits. -/
  | hugePoint
deriving DecidableEq, Repr

/-- The characters that end a line. -/
def isBreak (char : Char) : Bool :=
  char == '\r' || char == '\n' || char == '\x85' || char == '\u2028' || char == '\u2029'

/-- The character that stands for the end of a document. -/
def endMark : Char := '\x00'

def isBreakOrEnd (char : Char) : Bool :=
  char == endMark || isBreak char

def isSpaceOrEnd (char : Char) : Bool :=
  char == ' ' || isBreakOrEnd char

def isBlankOrEnd (char : Char) : Bool :=
  char == '\t' || isSpaceOrEnd char

/-- A place in a document. -/
structure Cursor where
  rest : List Char
  index : Nat := 0
  /-- How many lines ended before this place. -/
  line : Nat := 0
  /-- How many characters of the line were read; a byte order mark does not count. -/
  column : Nat := 0

namespace Cursor

/-- The character so many places ahead. -/
def ahead (cursor : Cursor) (distance : Nat) : Char :=
  cursor.rest.getD distance endMark

def peek (cursor : Cursor) : Char :=
  cursor.ahead 0

def next (cursor : Cursor) : Cursor :=
  match cursor.rest with
  | [] => cursor
  | char :: rest =>
    let moved : Cursor := { cursor with rest, index := cursor.index + 1 }
    if isBreak char && !(char == '\r' && rest.head? == some '\n') then
      { moved with line := cursor.line + 1, column := 0 }
    else if char == '\uFEFF' then moved
    else { moved with column := cursor.column + 1 }

def forward : Nat → Cursor → Cursor
  | 0, cursor => cursor
  | more + 1, cursor => forward more cursor.next

/-- Whether three equal characters and then a blank or the end come next. -/
def atTriple (cursor : Cursor) (char : Char) : Bool :=
  cursor.rest.take 3 == [char, char, char] && isBlankOrEnd (cursor.ahead 3)

/-- Whether a line that separates documents comes next. -/
def atSeparator (cursor : Cursor) : Bool :=
  cursor.atTriple '-' || cursor.atTriple '.'

end Cursor

/-- Reading on from a place in a document. -/
abbrev Lexer := StateT Cursor (Except Fault)

namespace Lexer

/-- Gives up on the document. -/
def malformed {α : Type} : Lexer α :=
  throw .malformed

def ahead (distance : Nat) : Lexer Char :=
  return (← get).ahead distance

def peek : Lexer Char :=
  ahead 0

def advance (count : Nat) : Lexer Unit :=
  modify (Cursor.forward count)

/-- Reads the characters of a class that come next. -/
def span (member : Char → Bool) : Lexer (List Char) := do
  let chars := (← get).rest.takeWhile member
  advance chars.length
  return chars

/-- Passes over the characters of a class that come next. -/
def skip (member : Char → Bool) : Lexer Unit := do
  let _ ← span member

def skipSpaces : Lexer Unit :=
  skip (· == ' ')

def skipComment : Lexer Unit := do
  if (← peek) == '#' then skip (!isBreak ·)

/-- Gives up unless the next character is of a class. -/
def expect (member : Char → Bool) : Lexer Unit := do
  if !member (← peek) then malformed

/-- Reads the end of a line, if it comes next: the two separators of Unicode stand for themselves
and the others for a line feed. -/
def lineBreak : Lexer (List Char) := do
  match (← get).rest with
  | '\r' :: '\n' :: _ => advance 2; return ['\n']
  | char :: _ =>
    if char == '\u2028' || char == '\u2029' then advance 1; return [char]
    else if isBreak char then advance 1; return ['\n']
    else return []
  | [] => return []

/-- Passes over the rest of a line that holds nothing but a comment. -/
def finishLine : Lexer Unit := do
  skipSpaces
  skipComment
  expect isBreakOrEnd
  let _ ← lineBreak

/-- A bound on the steps of a reader that moves on with each step. -/
def budget : Lexer Nat :=
  return (← get).rest.length + 1

end Lexer

end PatternForge.Yaml
