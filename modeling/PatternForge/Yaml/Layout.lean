import PatternForge.Yaml.Scalar

/-!
# Layout

The tokens of a document. Indentation opens and closes block collections. A token may turn out to be
a key only when the colon after it is read; until then the place where the mark of the key would go
is kept open, for one key on each level of brackets and for a limited stretch of one line.
-/

namespace PatternForge.Yaml

/-- A token that may turn out to be a key. -/
structure OpenKey where
  number : Nat
  /-- Whether nothing but a key can stand there. -/
  required : Bool
  index : Nat
  line : Nat
  column : Nat

/-- How far after a key its colon may stand. -/
def longestKey : Nat := 1024

/-- The tokens read so far, and what the rest of the document has to fit. -/
structure Layout where
  cursor : Cursor
  tokens : Array Token := #[]
  /-- How many brackets are open. -/
  flow : Nat := 0
  /-- The column of the innermost block collection; none is open at minus one. -/
  indent : Int := -1
  indents : List Int := []
  /-- Whether a key may start at the next token. -/
  keyAllowed : Bool := true
  /-- The tokens that may turn out to be keys, by the number of brackets open before them. -/
  keys : List (Nat × OpenKey) := []
  finished : Bool := false

/-- Reading tokens. -/
abbrev Scanner := StateT Layout (Except Fault)

namespace Scanner

/-- Reads something at the place of the next token. -/
def lex {α : Type} (lexer : Lexer α) : Scanner α := fun layout => do
  let (result, cursor) ← lexer layout.cursor
  return (result, { layout with cursor })

def push (token : Token) : Scanner Unit :=
  modify fun layout => { layout with tokens := layout.tokens.push token }

/-- Adds a token before one that was read already. -/
def insertAt (number : Nat) (token : Token) : Scanner Unit :=
  modify fun layout => { layout with tokens := layout.tokens.insertIdxIfInBounds number token }

/-- Says whether a key may start at the next token. -/
def allowKey (allowed : Bool) : Scanner Unit :=
  modify fun layout => { layout with keyAllowed := allowed }

def inFlow : Scanner Bool :=
  return (← get).flow != 0

/-! ## Open keys -/

/-- Whether no colon can follow a key any more. -/
def isStale (cursor : Cursor) (key : OpenKey) : Bool :=
  key.line != cursor.line || longestKey < cursor.index - key.index

/-- Gives up the keys that no colon can follow any more. -/
def dropStaleKeys : Scanner Unit := do
  let layout ← get
  if layout.keys.any fun entry => isStale layout.cursor entry.2 && entry.2.required then
    throw .malformed
  set { layout with keys := layout.keys.filter fun entry => !isStale layout.cursor entry.2 }

def openKey? : Scanner (Option OpenKey) := do
  let layout ← get
  return layout.keys.lookup layout.flow

def forgetKey : Scanner Unit :=
  modify fun layout =>
    { layout with keys := layout.keys.filter fun entry => entry.1 != layout.flow }

/-- Gives up the open key on the current level. -/
def closeKey : Scanner Unit := do
  if ((← openKey?).map (·.required)).getD false then throw .malformed
  forgetKey

/-- Notes that the next token may turn out to be a key. -/
def openKey : Scanner Unit := do
  let layout ← get
  if layout.keyAllowed then
    closeKey
    let cursor := layout.cursor
    let key : OpenKey :=
      { number := layout.tokens.size
        required := layout.flow == 0 && layout.indent == cursor.column
        index := cursor.index
        line := cursor.line
        column := cursor.column }
    modify fun layout => { layout with keys := layout.keys ++ [(layout.flow, key)] }

/-! ## Indentation -/

/-- Closes the block collections that are indented more than a column. -/
def unwind (column : Int) : Scanner Unit := do
  let layout ← get
  if layout.flow == 0 then
    let around := layout.indents.dropWhile (column < ·)
    if column < layout.indent then
      let closed := layout.indents.length - around.length + 1
      set { layout with
        tokens := layout.tokens ++ Array.replicate closed Token.blockEnd
        indent := around.headD (-1)
        indents := around.drop 1 }

/-- Opens a block collection at a column, unless it is the current one's. -/
def indentTo (column : Nat) : Scanner Bool := do
  let layout ← get
  if layout.indent < column then
    set { layout with indent := column, indents := layout.indent :: layout.indents }
    return true
  else return false

/-! ## Tokens -/

/-- Passes over blanks, comments and line ends before the next token. -/
def skipToToken : Nat → Scanner Unit
  | 0 => return
  | more + 1 => do
    lex Lexer.skipSpaces
    lex Lexer.skipComment
    let lineEnd ← lex Lexer.lineBreak
    if !lineEnd.isEmpty then
      if !(← inFlow) then allowKey true
      skipToToken more

/-- Passes over a byte order mark that starts the document. -/
def skipMark : Scanner Unit := do
  let cursor := (← get).cursor
  if cursor.index == 0 && cursor.peek == '\uFEFF' then lex (Lexer.advance 1)

/-- Ends the block collections and the open key of a document. -/
def endBlocks : Scanner Unit := do
  unwind (-1)
  closeKey
  allowKey false

/-- Reads a token of fixed characters. -/
def fixed (width : Nat) (token : Token) : Scanner Unit := do
  lex (Lexer.advance width)
  push token

/-- Reads a token that may turn out to be a key and that no key can follow on its line. -/
def keyToken (token : Lexer Token) : Scanner Unit := do
  openKey
  allowKey false
  push (← lex token)

def openBracket (token : Token) : Scanner Unit := do
  openKey
  modify fun layout => { layout with flow := layout.flow + 1, keyAllowed := true }
  fixed 1 token

def closeBracket (token : Token) : Scanner Unit := do
  if !(← inFlow) then throw .malformed
  closeKey
  modify fun layout => { layout with flow := layout.flow - 1, keyAllowed := false }
  fixed 1 token

/-- Opens a block collection at the next token, where a key must be allowed to start. -/
def blockStart (token : Token) : Scanner Unit := do
  if !(← inFlow) then
    if !(← get).keyAllowed then throw .malformed
    if ← indentTo (← get).cursor.column then push token

/-- Reads the dash of an item. -/
def blockEntry : Scanner Unit := do
  blockStart .blockSequence
  allowKey true
  closeKey
  fixed 1 .blockEntry

/-- Reads the question mark of a key. -/
def explicitKey : Scanner Unit := do
  blockStart .blockMapping
  allowKey !(← inFlow)
  closeKey
  fixed 1 .key

/-- Reads the colon of a value. The mark of the key before it goes where the key was left open. -/
def keyedValue : Scanner Unit := do
  match ← openKey? with
  | some key =>
    forgetKey
    insertAt key.number .key
    if !(← inFlow) then
      if ← indentTo key.column then insertAt key.number .blockMapping
    allowKey false
  | none =>
    blockStart .blockMapping
    allowKey !(← inFlow)
    closeKey
  fixed 1 .value

/-- Reads a plain scalar. A key may follow it where it ended a line. -/
def plainScalar : Scanner Unit := do
  openKey
  let layout ← get
  let (chars, crosses) ← lex (Lexer.plain (layout.flow != 0) layout.indent)
  allowKey crosses
  push (.scalar (Text.ofChars chars) true)

def blockScalar (fold : Bool) : Scanner Unit := do
  allowKey true
  closeKey
  let chars ← lex (Lexer.block fold (← get).indent)
  push (.scalar (Text.ofChars chars) false)

/-- Whether a plain scalar may start at a place. -/
def startsPlain (inFlow : Bool) (cursor : Cursor) : Bool :=
  let char := cursor.peek
  !(isBlankOrEnd char || isOneOf "-?:,[]\x7b\x7d#&*!|>'\"%@\x60" char)
    || (!isBlankOrEnd (cursor.ahead 1)
      && (char == '-' || (!inFlow && (char == '?' || char == ':'))))

/-- Reads the token that starts at the next character. -/
def token : Scanner Unit := do
  let cursor := (← get).cursor
  let flow ← inFlow
  let char := cursor.peek
  let apart := isBlankOrEnd (cursor.ahead 1)
  if char == endMark then
    endBlocks
    push .streamEnd
    modify fun layout => { layout with keys := [], finished := true }
  else if char == '%' && cursor.column == 0 then
    endBlocks
    push (.directive (← lex Lexer.directive))
  else if cursor.column == 0 && cursor.atTriple '-' then
    endBlocks
    fixed 3 .documentStart
  else if cursor.column == 0 && cursor.atTriple '.' then
    endBlocks
    fixed 3 .documentEnd
  else if char == '[' then openBracket .flowSequence
  else if char == '\x7b' then openBracket .flowMapping
  else if char == ']' then closeBracket .flowSequenceEnd
  else if char == '\x7d' then closeBracket .flowMappingEnd
  else if char == ',' then
    allowKey true
    closeKey
    fixed 1 .flowEntry
  else if char == '-' && apart then blockEntry
  else if char == '?' && (flow || apart) then explicitKey
  else if char == ':' && (flow || apart) then keyedValue
  else if char == '*' then keyToken (Token.alias <$> Lexer.anchorName)
  else if char == '&' then keyToken (Token.anchor <$> Lexer.anchorName)
  else if char == '!' then keyToken (Token.tag <$> Lexer.writtenTag)
  else if char == '|' && !flow then blockScalar false
  else if char == '>' && !flow then blockScalar true
  else if char == '\x27' then keyToken ((Token.scalar · false) <$> Lexer.quoted false)
  else if char == '\x22' then keyToken ((Token.scalar · false) <$> Lexer.quoted true)
  else if startsPlain flow cursor then plainScalar
  else throw .malformed

/-- Reads the next token and the block collections that end before it. -/
def fetch : Scanner Unit := do
  skipMark
  skipToToken (← get).cursor.rest.length
  dropStaleKeys
  unwind (← get).cursor.column
  token

end Scanner

/-- The tokens of a document that can be handed out, and the fault that ends them. -/
structure TokenStream where
  tokens : List Token
  /-- Why there are no more of them than these; a sound document ends with its own mark. -/
  fault : Option Fault := none

namespace Layout

/-- The tokens before the first one that may turn out to be a key. -/
def settled (layout : Layout) : List Token :=
  layout.keys.foldl (fun tokens entry => tokens.take entry.2.number) layout.tokens.toList

/-- Reads so many tokens at most. -/
def scan : Nat → Layout → TokenStream
  | 0, layout => ⟨layout.settled, some .malformed⟩
  | more + 1, layout =>
    if layout.finished then ⟨layout.tokens.toList, none⟩
    else
      match Scanner.dropStaleKeys layout with
      | .error fault => ⟨layout.settled, some fault⟩
      | .ok (_, fresh) =>
        match Scanner.fetch fresh with
        | .error fault => ⟨fresh.settled, some fault⟩
        | .ok (_, next) => scan more next

end Layout

def TokenStream.ofChars (chars : List Char) : TokenStream :=
  Layout.scan (chars.length + 2) { cursor := { rest := chars } }

end PatternForge.Yaml
