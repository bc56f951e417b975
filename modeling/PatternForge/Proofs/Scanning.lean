import PatternForge.Proofs.Lexing
import PatternForge.Yaml.Layout

/-! # Scanning

The reader of tokens adds no fault to those of the readers of characters but that the text is no
document. So whatever fault the tokens of a text end in is made by characters of the text
(`TokenStream.fault_ofChars`).
-/

namespace PatternForge.Yaml

namespace Scanner

/-- Something holds at the place of the next token. -/
def Placed (holds : Cursor → Prop) (layout : Layout) : Prop :=
  holds layout.cursor

variable {holds : Cursor → Prop} {fails : Fault → Prop}

theorem reads_lex {α : Type} {before : Cursor → Prop} {after : α → Cursor → Prop}
    {lexer : Lexer α} (reads : Reads before fails lexer after) :
    Reads (Placed before) fails (lex lexer) fun result => Placed (after result) := by
  intro layout held
  rw [lex]
  cases ended : lexer layout.cursor with
  | error fault => exact reads.error held ended
  | ok result => exact reads.ok held ended

theorem keeps_lex {α : Type} {lexer : Lexer α} (keeps : Keeps holds fails lexer) :
    Keeps (Placed holds) fails (lex lexer) :=
  reads_lex keeps

/-! ## What a token changes beside the place -/

theorem keeps_push (token : Token) : Keeps (Placed holds) fails (push token) :=
  .modify fun _ held => held

theorem keeps_insertAt (number : Nat) (token : Token) :
    Keeps (Placed holds) fails (insertAt number token) :=
  .modify fun _ held => held

theorem keeps_allowKey (allowed : Bool) : Keeps (Placed holds) fails (allowKey allowed) :=
  .modify fun _ held => held

theorem keeps_inFlow {holds : Layout → Prop} : Keeps holds fails inFlow :=
  Keeps.get.bind fun _ => .pure _

theorem keeps_openKey? : Keeps (Placed holds) fails openKey? :=
  Keeps.get.bind fun _ => .pure _

theorem keeps_forgetKey : Keeps (Placed holds) fails forgetKey :=
  .modify fun _ held => held

theorem keeps_unwind (column : Int) : Keeps (Placed holds) fails (unwind column) := by
  refine Reads.get.bind fun layout => ?_
  refine .ite (fun _ => .ite (fun _ => ?_) fun _ => ?_) fun _ => ?_
  · rintro _ ⟨rfl, held⟩
    exact held
  · exact (Keeps.pure _).reads fun _ found => found.2
  · exact (Keeps.pure _).reads fun _ found => found.2

theorem keeps_indentTo (column : Nat) : Keeps (Placed holds) fails (indentTo column) := by
  refine Reads.get.bind fun layout => .ite (fun _ => ?_) fun _ => ?_
  · rintro _ ⟨rfl, held⟩
    exact held
  · exact (Keeps.pure _).reads fun _ found => found.2

section GivesUp

variable (gives : fails .malformed)

include gives

theorem keeps_dropStaleKeys : Keeps (Placed holds) fails dropStaleKeys := by
  refine Reads.get.bind fun layout => .ite (fun _ => ?_) fun _ => ?_
  · exact fun _ _ => gives
  · rintro _ ⟨rfl, held⟩
    exact held

theorem keeps_closeKey : Keeps (Placed holds) fails closeKey :=
  keeps_openKey?.bind fun _ => .optionally (.throw gives) fun _ => keeps_forgetKey

theorem keeps_openKey : Keeps (Placed holds) fails openKey :=
  Keeps.get.bind fun _ => .ite
    ((keeps_closeKey gives).bind fun _ => .modify fun _ held => held) (.pure _)

theorem keeps_endBlocks : Keeps (Placed holds) fails endBlocks :=
  (keeps_unwind _).bind fun _ => (keeps_closeKey gives).bind fun _ => keeps_allowKey _

theorem keeps_blockStart (token : Token) : Keeps (Placed holds) fails (blockStart token) := by
  refine keeps_inFlow.bind fun _ => .ite ?_ (.pure _)
  refine Keeps.get.bind fun _ => .optionally (.throw gives) fun _ => Keeps.get.bind fun _ => ?_
  exact (keeps_indentTo _).bind fun _ => .ite (keeps_push _) (.pure _)

end GivesUp

section MovesOn

variable (onward : Lexer.Onward holds)

include onward

theorem keeps_skipToToken (count : Nat) : Keeps (Placed holds) fails (skipToToken count) := by
  induction count with
  | zero => exact .pure _
  | succ count ih =>
    refine (keeps_lex (Lexer.keeps_skipSpaces onward)).bind fun _ => ?_
    refine (keeps_lex (Lexer.keeps_skipComment onward)).bind fun _ => ?_
    refine (keeps_lex (Lexer.keeps_lineBreak onward)).bind fun _ => .ite ?_ (.pure _)
    exact keeps_inFlow.bind fun _ => .optionally (keeps_allowKey _) fun _ => ih

theorem keeps_skipMark : Keeps (Placed holds) fails skipMark :=
  Keeps.get.bind fun _ => .ite (keeps_lex (Lexer.keeps_advance onward _)) (.pure _)

theorem keeps_fixed (width : Nat) (token : Token) :
    Keeps (Placed holds) fails (fixed width token) :=
  (keeps_lex (Lexer.keeps_advance onward _)).bind fun _ => keeps_push _

variable (gives : fails .malformed)

include gives

theorem keeps_openBracket (token : Token) : Keeps (Placed holds) fails (openBracket token) := by
  refine (keeps_openKey gives).bind fun _ => Keeps.bind ?_ fun _ => keeps_fixed onward _ _
  exact .modify fun _ held => held

theorem keeps_closeBracket (token : Token) : Keeps (Placed holds) fails (closeBracket token) := by
  refine keeps_inFlow.bind fun _ => .optionally (.throw gives) fun _ => ?_
  refine (keeps_closeKey gives).bind fun _ => Keeps.bind ?_ fun _ => keeps_fixed onward _ _
  exact .modify fun _ held => held

theorem keeps_blockEntry : Keeps (Placed holds) fails blockEntry :=
  (keeps_blockStart gives _).bind fun _ => (keeps_allowKey _).bind fun _ =>
    (keeps_closeKey gives).bind fun _ => keeps_fixed onward _ _

theorem keeps_explicitKey : Keeps (Placed holds) fails explicitKey :=
  (keeps_blockStart gives _).bind fun _ => keeps_inFlow.bind fun _ =>
    (keeps_allowKey _).bind fun _ => (keeps_closeKey gives).bind fun _ => keeps_fixed onward _ _

theorem keeps_keyedValue : Keeps (Placed holds) fails keyedValue := by
  have finish : Keeps (Placed holds) fails (fixed 1 .value) := keeps_fixed onward _ _
  refine keeps_openKey?.bind fun key => ?_
  cases key with
  | some key =>
    refine keeps_forgetKey.bind fun _ => (keeps_insertAt _ _).bind fun _ => ?_
    have inside : Keeps (Placed holds) fails (allowKey false >>= fun _ => fixed 1 .value) :=
      (keeps_allowKey _).bind fun _ => finish
    refine keeps_inFlow.bind fun _ => .ite ((keeps_indentTo _).bind fun _ => ?_) inside
    exact .optionally (keeps_insertAt _ _) fun _ => inside
  | none =>
    exact (keeps_blockStart gives _).bind fun _ => keeps_inFlow.bind fun _ =>
      (keeps_allowKey _).bind fun _ => (keeps_closeKey gives).bind fun _ => finish

theorem keeps_plainScalar : Keeps (Placed holds) fails plainScalar :=
  (keeps_openKey gives).bind fun _ => Keeps.get.bind fun _ =>
    (keeps_lex (Lexer.keeps_plain onward _ _)).bind fun _ => (keeps_allowKey _).bind fun _ =>
      keeps_push _

theorem keeps_blockScalar (fold : Bool) : Keeps (Placed holds) fails (blockScalar fold) :=
  (keeps_allowKey _).bind fun _ => (keeps_closeKey gives).bind fun _ => Keeps.get.bind fun _ =>
    (keeps_lex (Lexer.keeps_block onward gives _ _)).bind fun _ => keeps_push _

end MovesOn

theorem keeps_keyToken (gives : fails .malformed) {token : Lexer Token}
    (keeps : Keeps holds fails token) : Keeps (Placed holds) fails (keyToken token) :=
  (keeps_openKey gives).bind fun _ => (keeps_allowKey _).bind fun _ =>
    (keeps_lex keeps).bind fun _ => keeps_push _

section Document

variable {chars : List Char}

/-- A directive starts with a percent sign, and ending the blocks before it moves nothing. -/
theorem reads_directiveToken :
    Reads (Placed fun cursor => '%' = cursor.peek ∧ Lexer.Within chars cursor)
      (CharacterFault chars)
      (endBlocks >>= fun _ => lex Lexer.directive >>= fun read => push (.directive read))
      fun _ => Placed (Lexer.Within chars) :=
  Reads.bind (keeps_endBlocks .malformed) fun _ =>
    (reads_lex Lexer.reads_directive).bind fun _ => keeps_push _

/-- Whatever token comes next, reading it leaves what is still to be read an end of the text. -/
theorem keeps_token : Keeps (Placed (Lexer.Within chars)) (CharacterFault chars) token := by
  have onward := Lexer.onward_within chars
  have gives : CharacterFault chars .malformed := .malformed
  refine Reads.get.bind fun layout => Reads.bind keeps_inFlow fun flow => ?_
  have start (state : Layout) (found : layout = state ∧ Placed (Lexer.Within chars) state) :
      Placed (Lexer.Within chars) state := found.2
  have mark (width : Nat) (token : Token) : Keeps (Placed (Lexer.Within chars))
      (CharacterFault chars) (endBlocks >>= fun _ => fixed width token) :=
    (keeps_endBlocks gives).bind fun _ => keeps_fixed onward _ _
  refine .ite (fun _ => Keeps.reads ?_ start) fun _ =>
    .ite (fun percent => ?_) fun _ => Keeps.reads ?_ start
  · refine (keeps_endBlocks gives).bind fun _ => (keeps_push _).bind fun _ => ?_
    exact .modify fun _ held => held
  · rintro state ⟨rfl, within⟩
    have seen := eq_of_beq (Bool.and_eq_true_iff.mp percent).1
    exact reads_directiveToken layout ⟨seen.symm, within⟩
  · refine .ite (mark _ _) (.ite (mark _ _) ?_)
    have opens := keeps_openBracket onward gives
    have closes := keeps_closeBracket onward gives
    refine .ite (opens _) (.ite (opens _) (.ite (closes _) (.ite (closes _) (.ite ?comma ?_))))
    case comma =>
      exact (keeps_allowKey _).bind fun _ => (keeps_closeKey gives).bind fun _ =>
        keeps_fixed onward _ _
    refine .ite (keeps_blockEntry onward gives) ?_
    refine .ite (keeps_explicitKey onward gives) ?_
    refine .ite (keeps_keyedValue onward gives) ?_
    have name {make : List Char → Token} : Keeps (Placed (Lexer.Within chars))
        (CharacterFault chars) (keyToken (make <$> Lexer.anchorName)) :=
      keeps_keyToken gives (.map make (Lexer.keeps_anchorName onward gives))
    refine .ite name (.ite name (.ite (keeps_keyToken gives ?_) ?_))
    · exact .map Token.tag (Lexer.keeps_writtenTag onward gives)
    have block := keeps_blockScalar onward gives
    refine .ite (block _) (.ite (block _) ?_)
    have quotes (double : Bool) : Keeps (Placed (Lexer.Within chars)) (CharacterFault chars)
        (keyToken ((Token.scalar · false) <$> Lexer.quoted double)) :=
      keeps_keyToken gives (.map _ (Lexer.keeps_quoted double))
    refine .ite (quotes _) (.ite (quotes _) ?_)
    exact .ite (keeps_plainScalar onward gives) (.throw gives)

theorem keeps_fetch : Keeps (Placed (Lexer.Within chars)) (CharacterFault chars) fetch := by
  have onward := Lexer.onward_within chars
  refine (keeps_skipMark onward).bind fun _ => Keeps.get.bind fun _ => ?_
  refine (keeps_skipToToken onward _).bind fun _ => ?_
  refine (keeps_dropStaleKeys .malformed).bind fun _ => ?_
  exact Keeps.get.bind fun _ => (keeps_unwind _).bind fun _ => keeps_token

end Document

end Scanner

variable {chars : List Char}

/-- Reading tokens ends in no other fault, however many of them are read. -/
theorem Layout.fault_scan (count : Nat) {layout : Layout}
    (within : Lexer.Within chars layout.cursor) {fault : Fault}
    (found : (layout.scan count).fault = some fault) : CharacterFault chars fault := by
  induction count generalizing layout with
  | zero =>
    cases found
    exact .malformed
  | succ count ih =>
    rw [scan] at found
    split at found
    · cases found
    · have drops : Keeps (Scanner.Placed (Lexer.Within chars)) (CharacterFault chars)
          Scanner.dropStaleKeys := Scanner.keeps_dropStaleKeys .malformed
      cases dropped : Scanner.dropStaleKeys layout with
      | error reason =>
        rw [dropped] at found
        cases found
        exact drops.error within dropped
      | ok read =>
        have fresh := drops.ok within dropped
        cases fetched : Scanner.fetch read.2 with
        | error reason =>
          simp only [dropped, fetched] at found
          cases found
          exact Scanner.keeps_fetch.error fresh fetched
        | ok next =>
          simp only [dropped, fetched] at found
          exact ih (Scanner.keeps_fetch.ok fresh fetched) found

/-- The fault that the tokens of a text end in is made by characters of it. -/
theorem TokenStream.fault_ofChars {fault : Fault}
    (found : (TokenStream.ofChars chars).fault = some fault) : CharacterFault chars fault := by
  have start : Lexer.Within chars { rest := chars } := List.suffix_refl chars
  exact Layout.fault_scan _ start found

end PatternForge.Yaml
