import PatternForge.Yaml.Word

/-!
# Scalars of a document

Readers of the four written forms of a scalar: plain, between single or double quotes, and as a
block of lines. Line ends inside a scalar are folded: one becomes a space, of several the first is
dropped.
-/

namespace PatternForge.Yaml.Lexer

/-- What a line end and the empty lines after it stand for inside a folded scalar. -/
def folded (lineEnd empty : List Char) : List Char :=
  (if lineEnd != ['\n'] then lineEnd else if empty.isEmpty then [' '] else []) ++ empty

/-! ## Plain scalars -/

/-- Whether a plain scalar stops before the next character. -/
def plainStops (inFlow : Bool) (cursor : Cursor) : Bool :=
  let char := cursor.peek
  isBlankOrEnd char
    || (char == ':' && (isBlankOrEnd (cursor.ahead 1)
      || (inFlow && isOneOf ",[]\x7b\x7d" (cursor.ahead 1))))
    || (inFlow && isOneOf ",?[]\x7b\x7d" char)

/-- Reads on as far as a plain scalar goes without a blank. -/
def plainStretch (inFlow : Bool) : Nat → Lexer (List Char)
  | 0 => return []
  | more + 1 => do
    if plainStops inFlow (← get) then return []
    let char ← peek
    advance 1
    return char :: (← plainStretch inFlow more)

/-- Reads empty lines and the spaces before and after them. There is none before a separator. -/
def emptyLines : Nat → Lexer (Option (List Char))
  | 0 => return some []
  | more + 1 => do
    let char ← peek
    if char == ' ' then
      advance 1
      emptyLines more
    else if isBreak char then
      let lineEnd ← lineBreak
      if (← get).atSeparator then return none
      return (← emptyLines more).map (lineEnd ++ ·)
    else return some []

/-- What stands between two stretches of a plain scalar. -/
structure Gap where
  /-- The characters that it stands for; without any the scalar has ended. -/
  chars : List Char
  /-- Whether it ends a line. -/
  crosses : Bool

/-- Reads the blanks after a stretch of a plain scalar. -/
def plainGap : Lexer Gap := do
  let spaces ← span (· == ' ')
  if isBreak (← peek) then
    let lineEnd ← lineBreak
    if (← get).atSeparator then return ⟨[], true⟩
    match ← emptyLines (← budget) with
    | none => return ⟨[], true⟩
    | some empty => return ⟨folded lineEnd empty, true⟩
  else return ⟨spaces, false⟩

/-- Reads the stretches of a plain scalar that follow a gap. Gives the characters and whether a line
ended after the last of them. -/
def plainStretches (inFlow : Bool) (indent : Int) : Nat → Gap → Lexer (List Char × Bool)
  | 0, gap => return ([], gap.crosses)
  | more + 1, gap => do
    if (← peek) == '#' then return ([], gap.crosses)
    let stretch ← plainStretch inFlow (← budget)
    if stretch.isEmpty then return ([], gap.crosses)
    let after ← plainGap
    let chars := gap.chars ++ stretch
    if after.chars.isEmpty || (← peek) == '#' || (!inFlow && (← get).column < indent) then
      return (chars, after.crosses)
    let (rest, crosses) ← plainStretches inFlow indent more after
    return (chars ++ rest, crosses)

/-- Reads a plain scalar that is indented more than its surroundings. -/
def plain (inFlow : Bool) (indent : Int) : Lexer (List Char × Bool) := do
  plainStretches inFlow (indent + 1) (← budget) ⟨[], false⟩

/-! ## Quoted scalars -/

/-- What a letter after a backslash stands for. -/
def escape? : Char → Option Char
  | '0' => some '\x00'
  | 'a' => some '\x07'
  | 'b' => some '\x08'
  | 't' => some '\t'
  | '\t' => some '\t'
  | 'n' => some '\n'
  | 'v' => some '\x0b'
  | 'f' => some '\x0c'
  | 'r' => some '\r'
  | 'e' => some '\x1b'
  | ' ' => some ' '
  | '\x22' => some '\x22'
  | '\\' => some '\\'
  | '/' => some '/'
  | 'N' => some '\x85'
  | '_' => some '\xa0'
  | 'L' => some '\u2028'
  | 'P' => some '\u2029'
  | _ => none

/-- How many hexadecimal digits follow a letter after a backslash. -/
def escapeWidth? : Char → Option Nat
  | 'x' => some 2
  | 'u' => some 4
  | 'U' => some 8
  | _ => none

/-- Reads empty lines inside quotes, where no separator may stand. -/
def quotedEmptyLines : Nat → Lexer (List Char)
  | 0 => return []
  | more + 1 => do
    if (← get).atSeparator then malformed
    skip fun char => char == ' ' || char == '\t'
    if isBreak (← peek) then
      let lineEnd ← lineBreak
      return lineEnd ++ (← quotedEmptyLines more)
    else return []

/-- Reads what follows a backslash. -/
def escaped : Lexer Text := do
  let char ← peek
  match escape? char, escapeWidth? char with
  | some meaning, _ =>
    advance 1
    return [CodePoint.ofChar meaning]
  | none, some width =>
    advance 1
    let number ← hexNumber width
    match CodePoint.ofNat? number with
    | some point => return [point]
    | none => throw (if number < Nat.pow 2 31 then .invalid else .hugePoint)
  | none, none =>
    if isBreak char then
      let _ ← lineBreak
      return Text.ofChars (← quotedEmptyLines (← budget))
    else malformed

/-- Whether a character ends a stretch between quotes. -/
def endsQuotedStretch (char : Char) : Bool :=
  isBlankOrEnd char || char == '\x27' || char == '\x22' || char == '\\'

/-- Reads a stretch without blanks between quotes. -/
def quotedStretch (double : Bool) : Nat → Lexer Text
  | 0 => return []
  | more + 1 => do
    let chars := Text.ofChars (← span (!endsQuotedStretch ·))
    let char ← peek
    if !double && char == '\x27' && (← ahead 1) == '\x27' then
      advance 2
      return chars ++ Text.ofChars ['\x27'] ++ (← quotedStretch double more)
    else if (double && char == '\x27') || (!double && (char == '\x22' || char == '\\')) then
      advance 1
      return chars ++ Text.ofChars [char] ++ (← quotedStretch double more)
    else if double && char == '\\' then
      advance 1
      let meaning ← escaped
      return chars ++ meaning ++ (← quotedStretch double more)
    else return chars

/-- Reads the blanks between two stretches between quotes. -/
def quotedGap : Lexer Text := do
  let blanks ← span fun char => char == ' ' || char == '\t'
  let char ← peek
  if char == endMark then malformed
  else if isBreak char then
    let lineEnd ← lineBreak
    return Text.ofChars (folded lineEnd (← quotedEmptyLines (← budget)))
  else return Text.ofChars blanks

/-- Reads stretches and the blanks before them up to the closing quote. -/
def quotedRest (double : Bool) (mark : Char) : Nat → Lexer Text
  | 0 => malformed
  | more + 1 => do
    if (← peek) == mark then
      advance 1
      return []
    let gap ← quotedGap
    let stretch ← quotedStretch double (← budget)
    return gap ++ stretch ++ (← quotedRest double mark more)

/-- Reads a quoted scalar, its quotes included. -/
def quoted (double : Bool) : Lexer Text := do
  let mark ← peek
  advance 1
  let stretch ← quotedStretch double (← budget)
  return stretch ++ (← quotedRest double mark (← budget))

/-! ## Block scalars -/

/-- What happens to the line ends after the last line of a block. -/
inductive Chomping where
  /-- The last line keeps its own. -/
  | clip
  | strip
  | keep
deriving DecidableEq, Repr

/-- The header of a block. -/
structure BlockHeader where
  chomping : Chomping := .clip
  /-- How much the lines are indented, where it is stated. -/
  indentation : Option Nat := none

def chomping? : Lexer (Option Chomping) := do
  match ← peek with
  | '+' => advance 1; return some .keep
  | '-' => advance 1; return some .strip
  | _ => return none

/-- Reads a digit of indentation, which is never zero. -/
def indentation? : Lexer (Option Nat) := do
  let char ← peek
  if char.isDigit then
    if char == '0' then malformed
    advance 1
    return some (char.toNat - '0'.toNat)
  else return none

/-- Reads the header of a block, with its two parts in either order. -/
def blockHeader : Lexer BlockHeader := do
  let first ← chomping?
  let indentation ← indentation?
  let second ← if first.isNone && indentation.isSome then chomping? else pure none
  expect isSpaceOrEnd
  return ⟨(first <|> second).getD .clip, indentation⟩

/-- Reads the lines before the first line of a block. Gives their ends and the widest column that
spaces reach. -/
def blockIndentation : Nat → Nat → Lexer (List Char × Nat)
  | 0, widest => return ([], widest)
  | more + 1, widest => do
    let char ← peek
    if char == ' ' then
      advance 1
      blockIndentation more (max widest (← get).column)
    else if isBreak char then
      let lineEnd ← lineBreak
      let (rest, widest) ← blockIndentation more widest
      return (lineEnd ++ rest, widest)
    else return ([], widest)

/-- Passes over spaces up to a column. -/
def indentTo (column : Int) : Nat → Lexer Unit
  | 0 => return
  | more + 1 => do
    if (← get).column < column && (← peek) == ' ' then
      advance 1
      indentTo column more

/-- Reads empty lines up to the indentation of a block. -/
def blockEmptyLines (column : Int) : Nat → Lexer (List Char)
  | 0 => return []
  | more + 1 => do
    indentTo column (← budget)
    if isBreak (← peek) then
      let lineEnd ← lineBreak
      return lineEnd ++ (← blockEmptyLines column more)
    else return []

/-- The end of a block: the line end of the last line, and those of the empty lines after it. -/
structure BlockEnd where
  lineEnd : List Char
  empty : List Char

/-- Whether a character starts a line that is not folded with its neighbours. -/
def startsLoose (char : Char) : Bool :=
  char == ' ' || char == '\t'

/-- Reads the lines of a block that stand at a column. -/
def blockLines (fold : Bool) (column : Int) : Nat → BlockEnd → Lexer (List Char × BlockEnd)
  | 0, blockEnd => return ([], blockEnd)
  | more + 1, before => do
    if (← get).column != column || (← peek) == endMark then return ([], before)
    let tight := !startsLoose (← peek)
    let line ← span (!isBreak ·)
    let lineEnd ← lineBreak
    let empty ← blockEmptyLines column (← budget)
    let following ← peek
    let goesOn := (← get).column == column && following != endMark
    let joint :=
      if !goesOn then []
      else if fold && lineEnd == ['\n'] && tight && !startsLoose following then
        if empty.isEmpty then [' '] else []
      else lineEnd
    let (rest, after) ← blockLines fold column more ⟨lineEnd, empty⟩
    return (before.empty ++ line ++ joint ++ rest, after)

/-- Reads a block scalar, its sign included, that is indented more than its surroundings. -/
def block (fold : Bool) (indent : Int) : Lexer (List Char) := do
  advance 1
  let header ← blockHeader
  finishLine
  let least := max 1 (indent + 1)
  let (before, column) ← start header least
  let (chars, after) ← blockLines fold column (← budget) ⟨[], before⟩
  match header.chomping with
  | .strip => return chars
  | .clip => return chars ++ after.lineEnd
  | .keep => return chars ++ after.lineEnd ++ after.empty
where
  /-- Reads the empty lines before the block and settles its column. -/
  start (header : BlockHeader) (least : Int) : Lexer (List Char × Int) := do
    match header.indentation with
    | some indentation =>
      let column := least + indentation - 1
      return (← blockEmptyLines column (← budget), column)
    | none =>
      let (empty, widest) ← blockIndentation (← budget) 0
      return (empty, max least widest)

end PatternForge.Yaml.Lexer
