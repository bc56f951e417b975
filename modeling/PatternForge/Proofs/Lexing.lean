import PatternForge.Proofs.Digits
import PatternForge.Proofs.Readers
import PatternForge.Yaml.Layout

/-! # Lexing

Most readers of characters know only one fault: that the text is no document. There are two more,
and both are numbers: that of a character after a backslash, which may be no code point, and that of
a version, which may be too long to be read. Whatever fault a reader ends in, the characters that it
read hold what makes it (`CharacterFault`).
-/

namespace PatternForge.Yaml

/-- The faults that the characters of a text may make. Any text may be no document. A text that
writes the number of what is no code point may fail by that number, and one that writes a version by
a number of it that is too long to be read. -/
inductive CharacterFault (chars : List Char) : Fault → Prop where
  | malformed : CharacterFault chars .malformed
  | codePoint {before digits after : List Char} {values : List Nat}
      (found : chars = before ++ '\\' :: 'U' :: (digits ++ after)) (eight : digits.length = 8)
      (read : digits.mapM hexValue? = some values)
      (outside : 0x110000 ≤ Numeral.valueOf 16 values) :
      CharacterFault chars
        (if Numeral.valueOf 16 values < Nat.pow 2 31 then .invalid else .hugePoint)
  | version {before between digits after : List Char}
      (found : chars = before ++ "%YAML".toList ++ between ++ digits ++ after)
      (row : digits.all Char.isDigit) (long : Numeral.longestDecimal < digits.length) :
      CharacterFault chars .invalid

namespace Lexer

variable {holds : Cursor → Prop} {fails : Fault → Prop} (onward : Onward holds)
  (gives : fails .malformed)

section MovesOn

include onward

/-! ## Plain scalars -/

theorem keeps_plainStretch (inFlow : Bool) (count : Nat) :
    Keeps holds fails (plainStretch inFlow count) := by
  induction count with
  | zero => exact .pure _
  | succ count ih =>
    exact Keeps.get.bind fun _ => .ite (.pure _) (keeps_peek.bind fun _ =>
      (keeps_advance onward _).bind fun _ => ih.bind fun _ => .pure _)

theorem keeps_emptyLines (count : Nat) : Keeps holds fails (emptyLines count) := by
  induction count with
  | zero => exact .pure _
  | succ count ih =>
    exact keeps_peek.bind fun _ => .ite ((keeps_advance onward _).bind fun _ => ih)
      (.ite ((keeps_lineBreak onward).bind fun _ => Keeps.get.bind fun _ =>
        .ite (.pure _) (ih.bind fun _ => .pure _)) (.pure _))

theorem keeps_plainGap : Keeps holds fails plainGap := by
  refine (keeps_span onward _).bind fun _ => keeps_peek.bind fun _ => .ite ?_ (.pure _)
  refine (keeps_lineBreak onward).bind fun _ => Keeps.get.bind fun _ => .ite (.pure _) ?_
  refine keeps_budget.bind fun _ => (keeps_emptyLines onward _).bind fun empty => ?_
  cases empty with
  | none => exact .pure _
  | some empty => exact .pure _

theorem keeps_plainStretches (inFlow : Bool) (indent : Int) (count : Nat) (gap : Gap) :
    Keeps holds fails (plainStretches inFlow indent count gap) := by
  induction count generalizing gap with
  | zero => exact .pure _
  | succ count ih =>
    refine keeps_peek.bind fun _ => .ite (.pure _) ?_
    refine keeps_budget.bind fun _ => (keeps_plainStretch onward _ _).bind fun _ => ?_
    refine .ite (.pure _) ((keeps_plainGap onward).bind fun after => ?_)
    refine keeps_peek.bind fun _ => Keeps.get.bind fun _ => .ite (.pure _) ?_
    exact (ih after).bind fun _ => .pure _

theorem keeps_plain (inFlow : Bool) (indent : Int) : Keeps holds fails (plain inFlow indent) :=
  keeps_budget.bind fun _ => keeps_plainStretches onward _ _ _ _

/-! ## Blocks -/

theorem keeps_chomping? : Keeps holds fails chomping? := by
  refine keeps_peek.bind fun char => ?_
  split
  · exact (keeps_advance onward _).bind fun _ => .pure _
  · exact (keeps_advance onward _).bind fun _ => .pure _
  · exact .pure _

theorem keeps_blockIndentation (count widest : Nat) :
    Keeps holds fails (blockIndentation count widest) := by
  induction count generalizing widest with
  | zero => exact .pure _
  | succ count ih =>
    exact keeps_peek.bind fun _ => .ite
      ((keeps_advance onward _).bind fun _ => Keeps.get.bind fun _ => ih _)
      (.ite ((keeps_lineBreak onward).bind fun _ => (ih _).bind fun _ => .pure _) (.pure _))

theorem keeps_indentTo (column : Int) (count : Nat) :
    Keeps holds fails (indentTo column count) := by
  induction count with
  | zero => exact .pure _
  | succ count ih =>
    exact Keeps.get.bind fun _ => keeps_peek.bind fun _ =>
      .ite ((keeps_advance onward _).bind fun _ => ih) (.pure _)

theorem keeps_blockEmptyLines (column : Int) (count : Nat) :
    Keeps holds fails (blockEmptyLines column count) := by
  induction count with
  | zero => exact .pure _
  | succ count ih =>
    exact keeps_budget.bind fun _ => (keeps_indentTo onward _ _).bind fun _ =>
      keeps_peek.bind fun _ => .ite
        ((keeps_lineBreak onward).bind fun _ => ih.bind fun _ => .pure _) (.pure _)

theorem keeps_blockLines (fold : Bool) (column : Int) (count : Nat) (before : BlockEnd) :
    Keeps holds fails (blockLines fold column count before) := by
  induction count generalizing before with
  | zero => exact .pure _
  | succ count ih =>
    refine Keeps.get.bind fun _ => keeps_peek.bind fun _ => .ite (.pure _) ?_
    refine keeps_peek.bind fun _ => (keeps_span onward _).bind fun _ => ?_
    refine (keeps_lineBreak onward).bind fun _ => keeps_budget.bind fun _ => ?_
    refine (keeps_blockEmptyLines onward _ _).bind fun _ => keeps_peek.bind fun _ => ?_
    exact Keeps.get.bind fun _ => (ih _).bind fun _ => .pure _

end MovesOn

section GivesUp

include onward gives

theorem keeps_indentation? : Keeps holds fails indentation? :=
  keeps_peek.bind fun _ => .ite
    (.ite (reads_malformed_bind gives) ((keeps_advance onward _).bind fun _ => .pure _)) (.pure _)

theorem keeps_blockHeader : Keeps holds fails blockHeader := by
  refine (keeps_chomping? onward).bind fun _ => (keeps_indentation? onward gives).bind fun _ => ?_
  have finish (header : BlockHeader) :
      Keeps holds fails (expect isSpaceOrEnd >>= fun _ => pure header) :=
    (keeps_expect gives _).bind fun _ => .pure _
  exact .ite ((keeps_chomping? onward).bind fun _ => finish _) (finish _)

theorem keeps_block (fold : Bool) (indent : Int) : Keeps holds fails (block fold indent) := by
  refine (keeps_advance onward _).bind fun _ => ?_
  refine (keeps_blockHeader onward gives).bind fun header => ?_
  refine (keeps_finishLine onward gives).bind fun _ => Keeps.bind ?_ fun _ => ?_
  · rw [block.start]
    split
    · exact keeps_budget.bind fun _ => (keeps_blockEmptyLines onward _ _).bind fun _ => .pure _
    · exact keeps_budget.bind fun _ => (keeps_blockIndentation onward _ _).bind fun _ => .pure _
  · refine keeps_budget.bind fun _ => (keeps_blockLines onward _ _ _ _).bind fun _ => ?_
    cases header.chomping <;> exact .pure _

/-! ## Words -/

theorem keeps_hexNumber (width : Nat) : Keeps holds fails (hexNumber width) := by
  refine Keeps.get.bind fun _ => (keeps_advance onward _).bind fun _ => ?_
  split
  · exact .ite (.pure _) (keeps_malformed gives)
  · exact keeps_malformed gives

theorem keeps_word (mayFollow : Char → Bool) : Keeps holds fails (word mayFollow) :=
  (keeps_span onward _).bind fun _ => .ite (reads_malformed_bind gives)
    ((keeps_expect gives _).bind fun _ => .pure _)

theorem keeps_anchorName : Keeps holds fails anchorName :=
  (keeps_advance onward _).bind fun _ => keeps_word onward gives _

theorem keeps_percentOctets (count : Nat) : Keeps holds fails (percentOctets count) := by
  induction count with
  | zero => exact .pure _
  | succ count ih =>
    exact keeps_peek.bind fun _ => .ite
      ((keeps_advance onward _).bind fun _ => (keeps_hexNumber onward gives _).bind fun _ =>
        ih.bind fun _ => .pure _)
      (.pure _)

theorem keeps_tagChars (count : Nat) : Keeps holds fails (tagChars count) := by
  induction count with
  | zero => exact .pure _
  | succ count ih =>
    refine (keeps_span onward _).bind fun _ => keeps_peek.bind fun _ => .ite ?_ (.pure _)
    refine keeps_budget.bind fun _ => (keeps_percentOctets onward gives _).bind fun octets => ?_
    split
    · exact keeps_malformed gives
    · exact ih.bind fun _ => .pure _

theorem keeps_tagText : Keeps holds fails tagText :=
  (keeps_expect gives _).bind fun _ => keeps_budget.bind fun _ => keeps_tagChars onward gives _

theorem keeps_tagHandle : Keeps holds fails tagHandle :=
  (keeps_expect gives _).bind fun _ => (keeps_advance onward _).bind fun _ =>
    keeps_peek.bind fun _ => .ite (.pure _)
      ((keeps_span onward _).bind fun _ => (keeps_expect gives _).bind fun _ =>
        (keeps_advance onward _).bind fun _ => .pure _)

theorem keeps_writtenTag : Keeps holds fails writtenTag := by
  refine Keeps.bind ?_ fun _ => (keeps_expect gives _).bind fun _ => .pure _
  refine (keeps_ahead _).bind fun _ => .ite ?_ (.ite ?_ ?_)
  · exact (keeps_advance onward _).bind fun _ => (keeps_tagText onward gives).bind fun _ =>
      (keeps_expect gives _).bind fun _ => (keeps_advance onward _).bind fun _ => .pure _
  · exact (keeps_advance onward _).bind fun _ => .pure _
  · refine Keeps.get.bind fun _ => .ite ?_ ?_
    · exact (keeps_tagHandle onward gives).bind fun _ => (keeps_tagText onward gives).bind fun _ =>
        .pure _
    · exact (keeps_advance onward _).bind fun _ => (keeps_tagText onward gives).bind fun _ =>
        .pure _

theorem keeps_handleMeaning : Keeps holds fails handleMeaning :=
  (keeps_skipSpaces onward).bind fun _ => (keeps_tagHandle onward gives).bind fun _ =>
    (keeps_expect gives _).bind fun _ => (keeps_skipSpaces onward).bind fun _ =>
      (keeps_tagText onward gives).bind fun _ => (keeps_expect gives _).bind fun _ => .pure _

end GivesUp

/-! ## Faults that only numbers have -/

section Numbers

variable {chars : List Char}

/-- What is still to be read is the end of some characters. -/
def Within (chars : List Char) (cursor : Cursor) : Prop :=
  cursor.rest <:+ chars

theorem onward_within (chars : List Char) : Onward (Within chars) := by
  intro cursor within
  rw [Within, Cursor.rest_next]
  exact (List.tail_suffix _).trans within

/-- A backslash was read. -/
def Escaping (chars : List Char) (cursor : Cursor) : Prop :=
  '\\' :: cursor.rest <:+ chars

theorem Escaping.within {cursor : Cursor} (escaping : Escaping chars cursor) :
    Within chars cursor :=
  (List.suffix_cons _ _).trans escaping

theorem reads_hexNumber {fails : Fault → Prop} (gives : fails .malformed) (cursor : Cursor)
    (width : Nat) : Reads (· = cursor) fails (hexNumber width) fun number next =>
      next = cursor.forward width ∧ ∃ values,
        (cursor.rest.take width).mapM hexValue? = some values ∧ values.length = width ∧
          number = Numeral.valueOf 16 values := by
  refine Reads.get.bind fun state => .of_each fun next found => ?_
  obtain ⟨rfl, rfl⟩ := found
  refine (reads_advance _ width).bind fun _ => ?_
  split
  · next values read =>
    split
    · next exactly =>
      rintro _ rfl
      exact ⟨rfl, values, read, exactly, rfl⟩
    · exact fun _ _ => gives
  · exact fun _ _ => gives

/-- Only eight digits can make a number that is no code point. -/
theorem characterFault_of_escape {cursor : Cursor} {char : Char} {width : Nat} {values : List Nat}
    (escaping : Escaping chars cursor) (seen : cursor.peek = char)
    (wide : escapeWidth? char = some width)
    (read : ((cursor.forward 1).rest.take width).mapM hexValue? = some values)
    (exactly : values.length = width)
    (outside : CodePoint.ofNat? (Numeral.valueOf 16 values) = none) :
    CharacterFault chars
      (if Numeral.valueOf 16 values < Nat.pow 2 31 then .invalid else .hugePoint) := by
  obtain ⟨length, each⟩ := exists_of_mapM read
  have beyond : 0x110000 ≤ Numeral.valueOf 16 values := by
    rw [CodePoint.ofNat?] at outside
    split at outside
    · cases outside
    · next above => exact Nat.not_lt.mp above
  have bounded : Numeral.valueOf 16 values < 16 ^ width := by
    rw [← exactly]
    refine Numeral.valueOf_lt fun digit member => ?_
    obtain ⟨_, -, is⟩ := each digit member
    exact hexValue?_lt is
  rw [escapeWidth?.eq_def] at wide
  split at wide
  · cases wide
    exact absurd bounded (by omega)
  · cases wide
    exact absurd bounded (by omega)
  · cases wide
    have rest := Cursor.rest_of_peek seen (by decide)
    rw [← Cursor.rest_forward] at rest
    obtain ⟨before, whole⟩ := escaping
    rw [rest, ← List.take_append_drop 8 (cursor.forward 1).rest] at whole
    exact .codePoint whole.symm (length.symm.trans exactly) read beyond
  · cases wide

theorem keeps_quotedEmptyLines (count : Nat) :
    Keeps (Within chars) (CharacterFault chars) (quotedEmptyLines count) := by
  have onward := onward_within chars
  induction count with
  | zero => exact .pure _
  | succ count ih =>
    refine Keeps.get.bind fun _ => .ite (reads_malformed_bind .malformed) ?_
    exact (keeps_skip onward _).bind fun _ => keeps_peek.bind fun _ => .ite
      ((keeps_lineBreak onward).bind fun _ => ih.bind fun _ => .pure _) (.pure _)

theorem reads_escaped :
    Reads (Escaping chars) (CharacterFault chars) escaped fun _ => Within chars := by
  have onward := onward_within chars
  refine reads_peek.bind fun char => ?_
  have start (cursor : Cursor) (found : char = cursor.peek ∧ Escaping chars cursor) :
      Within chars cursor := found.2.within
  split
  · exact Keeps.reads ((keeps_advance onward _).bind fun _ => .pure _) start
  · next width _ wide =>
    refine .of_each fun cursor ⟨seen, escaping⟩ => ?_
    refine (reads_advance cursor 1).bind fun _ => .of_each fun moved is => ?_
    subst is
    refine (reads_hexNumber .malformed _ width).bind fun number => ?_
    split
    · rintro _ ⟨rfl, -⟩
      exact onward.forward (onward.forward escaping.within)
    · rintro _ ⟨rfl, values, read, exactly, rfl⟩
      exact characterFault_of_escape escaping seen.symm wide read exactly (by assumption)
  · refine Keeps.reads (.ite ?_ (keeps_malformed .malformed)) start
    exact (keeps_lineBreak onward).bind fun _ => keeps_budget.bind fun _ =>
      (keeps_quotedEmptyLines _).bind fun _ => .pure _

/-- A backslash that is seen is passed over. -/
theorem reads_backslash : Reads (fun cursor => '\\' = cursor.peek ∧ Within chars cursor)
    (CharacterFault chars) (advance 1) fun _ => Escaping chars := by
  refine .of_each fun cursor ⟨seen, within⟩ => (reads_advance cursor 1).weaken ?_
  rintro _ _ rfl
  rw [Escaping, Cursor.rest_forward, ← Cursor.rest_of_peek seen.symm (by decide)]
  exact within

theorem keeps_quotedStretch (double : Bool) (count : Nat) :
    Keeps (Within chars) (CharacterFault chars) (quotedStretch double count) := by
  have onward := onward_within chars
  induction count with
  | zero => exact .pure _
  | succ count ih =>
    refine (keeps_span onward _).bind fun _ => reads_peek.bind fun char => ?_
    have start (cursor : Cursor) (found : char = cursor.peek ∧ Within chars cursor) :
        Within chars cursor := found.2
    refine Reads.bind (keeps_ahead 1) fun _ => ?_
    split
    · exact Keeps.reads ((keeps_advance onward _).bind fun _ => ih.bind fun _ => .pure _) start
    · split
      · exact Keeps.reads ((keeps_advance onward _).bind fun _ => ih.bind fun _ => .pure _) start
      · split
        · next escapes =>
          obtain rfl : char = '\\' := eq_of_beq (Bool.and_eq_true_iff.mp escapes).2
          exact reads_backslash.bind fun _ => reads_escaped.bind fun _ => ih.bind fun _ => .pure _
        · exact Keeps.reads (.pure _) start

theorem keeps_quotedGap : Keeps (Within chars) (CharacterFault chars) quotedGap := by
  have onward := onward_within chars
  refine (keeps_span onward _).bind fun _ => keeps_peek.bind fun _ => ?_
  refine .ite (keeps_malformed .malformed) (.ite ?_ (.pure _))
  exact (keeps_lineBreak onward).bind fun _ => keeps_budget.bind fun _ =>
    (keeps_quotedEmptyLines _).bind fun _ => .pure _

theorem keeps_quotedRest (double : Bool) (mark : Char) (count : Nat) :
    Keeps (Within chars) (CharacterFault chars) (quotedRest double mark count) := by
  induction count with
  | zero => exact keeps_malformed .malformed
  | succ count ih =>
    refine keeps_peek.bind fun _ => .ite ?_ ?_
    · exact (keeps_advance (onward_within chars) _).bind fun _ => .pure _
    exact keeps_quotedGap.bind fun _ => keeps_budget.bind fun _ =>
      (keeps_quotedStretch _ _).bind fun _ => ih.bind fun _ => .pure _

theorem keeps_quoted (double : Bool) :
    Keeps (Within chars) (CharacterFault chars) (quoted double) :=
  keeps_peek.bind fun _ => (keeps_advance (onward_within chars) _).bind fun _ =>
    keeps_budget.bind fun _ => (keeps_quotedStretch _ _).bind fun _ => keeps_budget.bind fun _ =>
      (keeps_quotedRest _ _ _).bind fun _ => .pure _

/-- The name of the directive of a version was read, and perhaps more. -/
def Versioned (chars : List Char) (cursor : Cursor) : Prop :=
  ∃ before between, chars = before ++ "%YAML".toList ++ between ++ cursor.rest

theorem Versioned.within {cursor : Cursor} (versioned : Versioned chars cursor) :
    Within chars cursor := by
  obtain ⟨before, between, whole⟩ := versioned
  exact ⟨_, whole.symm⟩

theorem onward_versioned (chars : List Char) : Onward (Versioned chars) := by
  rintro cursor ⟨before, between, whole⟩
  refine ⟨before, between ++ cursor.rest.take 1, ?_⟩
  rw [whole, Cursor.rest_next, ← List.drop_one, ← List.append_assoc,
    List.append_assoc _ (List.take 1 _), List.take_append_drop]

theorem keeps_versionNumber : Keeps (Versioned chars) (CharacterFault chars) versionNumber := by
  have onward := onward_versioned chars
  refine .of_each fun cursor versioned => (reads_span cursor _).bind fun digits => ?_
  refine .ite (fun _ => reads_malformed_bind CharacterFault.malformed) fun some => ?_
  split
  · rintro _ ⟨-, rfl⟩
    exact onward.forward versioned
  · next unread =>
    rintro _ ⟨rfl, -⟩
    obtain ⟨before, between, whole⟩ := versioned
    have row : (cursor.rest.takeWhile Char.isDigit).all Char.isDigit := List.all_takeWhile
    have long := Numeral.longestDecimal_lt_of_digits row
      (fun empty => some (List.isEmpty_iff.mpr empty)) unread
    rw [← List.takeWhile_append_dropWhile (p := Char.isDigit) (l := cursor.rest),
      ← List.append_assoc] at whole
    exact .version whole row long

theorem keeps_version : Keeps (Versioned chars) (CharacterFault chars) version := by
  have onward := onward_versioned chars
  refine (keeps_skipSpaces onward).bind fun _ => keeps_versionNumber.bind fun _ => ?_
  refine (keeps_expect .malformed _).bind fun _ => (keeps_advance onward _).bind fun _ => ?_
  exact keeps_versionNumber.bind fun _ => (keeps_expect .malformed _).bind fun _ => .pure _

/-- A word is what was passed over. -/
theorem reads_word {fails : Fault → Prop} (gives : fails .malformed) (mayFollow : Char → Bool)
    (cursor : Cursor) : Reads (· = cursor) fails (word mayFollow) fun name next =>
      cursor.rest = name ++ next.rest := by
  refine (reads_span cursor _).bind fun name => ?_
  refine .ite (fun _ => reads_malformed_bind gives) fun _ => ?_
  refine Reads.bind (keeps_expect gives _) fun _ => ?_
  rintro _ ⟨rfl, rfl⟩
  change cursor.rest = _ ++ (cursor.forward _).rest
  rw [Cursor.rest_forward]
  exact (List.prefix_iff_eq_append.mp (List.takeWhile_prefix _)).symm

/-- A directive is met. -/
theorem reads_directive : Reads (fun cursor => '%' = cursor.peek ∧ Within chars cursor)
    (CharacterFault chars) directive fun _ => Within chars := by
  have onward := onward_within chars
  refine .of_each fun cursor ⟨seen, within⟩ => (reads_advance cursor 1).bind fun _ => ?_
  refine .of_each fun moved is => (reads_word .malformed _ moved).bind fun keyword => ?_
  have finish (directive : Directive) : Keeps (Within chars) (CharacterFault chars)
      (finishLine >>= fun _ => pure directive) :=
    (keeps_finishLine onward .malformed).bind fun _ => .pure _
  have begun : cursor.rest = '%' :: moved.rest := by
    rw [is, Cursor.rest_forward]
    exact Cursor.rest_of_peek seen.symm (by decide)
  have start (next : Cursor) (read : moved.rest = keyword ++ next.rest) : Within chars next := by
    rw [Within, begun, read] at within
    exact ((List.suffix_append _ _).trans (List.suffix_cons _ _)).trans within
  refine .ite (fun named => ?_) fun _ => Keeps.reads (.ite ?_ ?_) start
  · refine Reads.bind (Keeps.reads keeps_version fun next read => ?_) fun _ =>
      (finish _).reads fun _ => Versioned.within
    obtain ⟨before, whole⟩ := within
    obtain rfl : keyword = "YAML".toList := eq_of_beq named
    refine ⟨before, [], ?_⟩
    rw [← whole, begun, read]
    simp
  · exact (keeps_handleMeaning onward .malformed).bind fun _ => finish _
  · exact (keeps_skip onward _).bind fun _ => finish _

end Numbers

end Lexer

end PatternForge.Yaml
