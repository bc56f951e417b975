import PatternForge.Text.Blank

/-!
# Lines of a settings file

A settings file binds names to texts, one binding a line. Values stand bare, between single quotes
or between double quotes; what stands between quotes may go over several lines and has escapes. A
line that is no binding is passed over. A comment starts with a blank and a number sign, also where
the blank follows the equals sign.
-/

namespace PatternForge

/-- A name and what it is bound to; a name may stand alone. -/
structure Binding where
  name : Text
  /-- The text, if there is an equals sign. -/
  value : Option Text
deriving DecidableEq

namespace Binding

/-- A reader of a settings file. On a line that is no binding it stops where it stands. -/
abbrev Reader := ExceptT Unit (StateM Text)

def isLineEnd (point : CodePoint) : Bool :=
  point = .ofChar '\n' || point = .ofChar '\r'

/-- Whether a code point is blank and ends no line. -/
def isLineBlank (point : CodePoint) : Bool :=
  point.isBlank && !isLineEnd point

def startsWith (char : Char) (text : Text) : Bool :=
  text.head? == some (.ofChar char)

/-! ## Names -/

/-- The text without the word that may stand before a name. -/
def dropExport (text : Text) : Text :=
  let word := Text.ofString "export"
  if word.isPrefixOf text && ((text.drop word.length).head?.map isLineBlank).getD false then
    (text.drop word.length).dropWhile isLineBlank
  else text

def isNamePoint (point : CodePoint) : Bool :=
  point != .ofChar '=' && point != .ofChar '#' && !point.isBlank

/-- A non-empty start of a text and the rest after so many more code points. -/
def nonEmpty (start : Text) (skipped : Nat) (text : Text) : Option (Text × Text) :=
  if start.isEmpty then none else some (start, text.drop (start.length + skipped))

def name? (text : Text) : Option (Text × Text) :=
  if startsWith '\x27' text then
    let name := (text.drop 1).takeWhile (· != .ofChar '\x27')
    if startsWith '\x27' (text.drop (name.length + 1)) then nonEmpty name 1 (text.drop 1) else none
  else nonEmpty (text.takeWhile isNamePoint) 0 text

/-! ## Values -/

/-- A text up to the mark that closes it, and the rest after the mark. A backslash takes the
character after it along, so that one does not close; the flag says whether a backslash takes the
first. -/
def quotedPart? (mark : CodePoint) : Bool → Text → Option (Text × Text)
  | _, [] => none
  | taken, point :: rest =>
    if point = mark && !taken then some ([], rest)
    else
      (quotedPart? mark (point = .ofChar '\\' && !taken) rest).map fun parts =>
        (point :: parts.1, parts.2)

/-- What a backslash and a character stand for between single quotes. -/
def singleEscapes : List (Char × Nat) :=
  [('\\', 0x5C), ('\x27', 0x27)]

/-- What a backslash and a character stand for between double quotes. -/
def doubleEscapes : List (Char × Nat) :=
  singleEscapes ++ [('\x22', 0x22), ('a', 0x7), ('b', 0x8), ('f', 0xC), ('n', 0xA), ('r', 0xD),
    ('t', 0x9), ('v', 0xB)]

def unescape (escapes : List (Char × Nat)) : Text → Text
  | [] => []
  | [point] => [point]
  | point :: next :: rest =>
    let meaning := escapes.find? fun entry => .ofChar entry.1 = next
    match meaning, decide (point = .ofChar '\\') with
    | some entry, true => Text.ofNumbers [entry.2] ++ unescape escapes rest
    | _, _ => point :: unescape escapes (next :: rest)

/-- The text up to a comment, which starts with blanks and a number sign. -/
def beforeComment : Text → Text
  | [] => []
  | point :: rest =>
    if point.isBlank && startsWith '#' (rest.dropWhile CodePoint.isBlank) then []
    else point :: beforeComment rest

/-- A value without quotes, which takes the whole line. -/
def bareValue (text : Text) : Text × Text :=
  let line := text.takeWhile (!isLineEnd ·)
  ((beforeComment line).trim CodePoint.isBlank, text.drop line.length)

/-- The value that follows an equals sign, and the rest. Blanks may stand before it. -/
def value? (text : Text) : Option (Text × Text) :=
  let start := text.dropWhile isLineBlank
  if startsWith '\x27' start then
    (quotedPart? (.ofChar '\x27') false (start.drop 1)).map fun parts =>
      (unescape singleEscapes parts.1, parts.2)
  else if startsWith '\x22' start then
    (quotedPart? (.ofChar '\x22') false (start.drop 1)).map fun parts =>
      (unescape doubleEscapes parts.1, parts.2)
  else some (bareValue text)

/-! ## Lines -/

/-- Reads what a text starts with. -/
def take {α : Type} (part? : Text → Option (α × Text)) : Reader α := do
  match part? (← get) with
  | some (part, rest) =>
    set rest
    return part
  | none => throw ()

/-- Reads the end of a line, a comment before it. -/
def endLine : Reader Unit := do
  let text ← get
  let unblanked := text.dropWhile isLineBlank
  let rest := if startsWith '#' unblanked then unblanked.dropWhile (!isLineEnd ·) else unblanked
  match rest with
  | [] => set rest
  | point :: more => if isLineEnd point then set more else throw ()

/-- Reads a line that binds a name, or a comment. -/
def line : Reader (Option Binding) := do
  modify (·.dropWhile CodePoint.isBlank)
  if (← get).isEmpty then return none
  modify dropExport
  let name ← if startsWith '#' (← get) then pure none else some <$> take name?
  modify (·.dropWhile isLineBlank)
  let value ←
    if startsWith '=' (← get) then
      modify (·.drop 1)
      some <$> take value?
    else pure none
  endLine
  return name.map fun name => { name, value }

/-- The text after the line that it starts in. -/
def dropLine (text : Text) : Text :=
  (text.dropWhile (!isLineEnd ·)).drop 1

/-- The bindings of a text within so many lines. -/
def readWithin : Nat → Text → List Binding
  | 0, _ => []
  | _, [] => []
  | more + 1, text =>
    match line.run text with
    | (.ok binding, rest) => binding.toList ++ readWithin more rest
    | (.error (), rest) => readWithin more (dropLine rest)

/-- The text without the mark of the byte order that it may start with. -/
def dropOrderMark (text : Text) : Text :=
  if startsWith '\uFEFF' text then text.drop 1 else text

def readAll (text : Text) : List Binding :=
  readWithin text.length (dropOrderMark text)

/-! ## References between values -/

/-- A reference that a text starts with: its name, what stands for it if the name is unbound, and
the rest of the text. -/
def reference? (text : Text) : Option (Text × Text × Text) :=
  if startsWith '$' text && startsWith '\x7b' (text.drop 1) then
    let inside := text.drop 2
    let name := inside.takeWhile fun point => point != .ofChar '\x7d' && point != .ofChar ':'
    let rest := inside.drop name.length
    if startsWith '\x7d' rest then some (name, [], rest.drop 1)
    else if startsWith '-' (rest.drop 1) then
      let absent := (rest.drop 2).takeWhile (· != .ofChar '\x7d')
      let rest := rest.drop (absent.length + 2)
      if startsWith '\x7d' rest then some (name, absent, rest.drop 1) else none
    else none
  else none

/-- The text with its references resolved, within so many steps. -/
def resolveWithin (meaning : Text → Text → Text) : Nat → Text → Text
  | 0, text => text
  | _, [] => []
  | more + 1, point :: rest =>
    match reference? (point :: rest) with
    | some (name, absent, rest) => meaning name absent ++ resolveWithin meaning more rest
    | none => point :: resolveWithin meaning more rest

def resolve (meaning : Text → Text → Text) (text : Text) : Text :=
  resolveWithin meaning text.length text

end Binding

end PatternForge
