import PatternForge.Yaml.Cursor

/-! # Readers

The readers of a document are programs with a state that may give up. What a reader does is said by
what holds before it and after it, and by the faults with which it may give up (`Reads`). A reader
that keeps something whatever its result is said to keep it (`Keeps`), and readers that keep it can
be done one after the other.
-/

namespace PatternForge.Yaml

variable {σ α β : Type}

/-- From a state of which one thing holds a reader comes to a result and a state of which another
holds, or it gives up with a fault that it may have. -/
def Reads (before : σ → Prop) (fails : Fault → Prop) (reader : StateT σ (Except Fault) α)
    (after : α → σ → Prop) : Prop :=
  ∀ state, before state →
    match reader state with
    | .ok (result, next) => after result next
    | .error fault => fails fault

/-- Whatever it reads, a reader keeps what holds of its state, or it gives up with a fault that it
may have. -/
def Keeps (holds : σ → Prop) (fails : Fault → Prop) (reader : StateT σ (Except Fault) α) : Prop :=
  Reads holds fails reader fun _ => holds

namespace Reads

variable {before : σ → Prop} {middle after : α → σ → Prop} {last : β → σ → Prop}
  {fails : Fault → Prop}

theorem bind {reader : StateT σ (Except Fault) α} {next : α → StateT σ (Except Fault) β}
    (reads : Reads before fails reader middle)
    (further : ∀ result, Reads (middle result) fails (next result) last) :
    Reads before fails (reader >>= next) last := by
  intro state holds
  have first := reads state holds
  change match Except.bind (reader state) (fun read => next read.1 read.2) with
    | .ok (result, next) => last result next
    | .error fault => fails fault
  cases ended : reader state with
  | error fault =>
    rw [ended] at first
    exact first
  | ok read =>
    rw [ended] at first
    exact further read.1 read.2 first

theorem ite {condition : Prop} [Decidable condition] {yes no : StateT σ (Except Fault) α}
    (one : condition → Reads before fails yes after)
    (other : ¬condition → Reads before fails no after) :
    Reads before fails (if condition then yes else no) after := by
  split
  · next found => exact one found
  · next missed => exact other missed

/-- What is known more exactly is known. -/
theorem weaken {reader : StateT σ (Except Fault) α} (reads : Reads before fails reader middle)
    (less : ∀ result state, middle result state → after result state) :
    Reads before fails reader after := by
  intro state holds
  have first := reads state holds
  cases ended : reader state with
  | error fault =>
    rw [ended] at first
    exact first
  | ok read =>
    rw [ended] at first
    exact less _ _ first

/-- To prove something of a reader it is enough to prove it from each state by itself. -/
theorem of_each {reader : StateT σ (Except Fault) α}
    (each : ∀ state, before state → Reads (· = state) fails reader after) :
    Reads before fails reader after :=
  fun state holds => each state holds state rfl

theorem ok {reader : StateT σ (Except Fault) α} (reads : Reads before fails reader after)
    {state next : σ} (holds : before state) {result : α}
    (ended : reader state = .ok (result, next)) : after result next := by
  have read := reads state holds
  rw [ended] at read
  exact read

theorem error {reader : StateT σ (Except Fault) α} (reads : Reads before fails reader after)
    {state : σ} (holds : before state) {fault : Fault} (ended : reader state = .error fault) :
    fails fault := by
  have read := reads state holds
  rw [ended] at read
  exact read

/-- A fact that the state shows and that is not about the state may be used all along. -/
theorem of_fact {start : σ → Prop} {fact : Prop} {reader : StateT σ (Except Fault) α}
    (shows : ∀ state, start state → before state ∧ fact)
    (reads : fact → Reads before fails reader after) : Reads start fails reader after :=
  fun state holds => reads (shows state holds).2 state (shows state holds).1

/-- What is computed without the state may fail. -/
theorem lift {result : Except Fault α} (gives : ∀ fault, result = .error fault → fails fault)
    (makes : ∀ value state, result = .ok value → before state → after value state) :
    Reads before fails (liftM result : StateT σ (Except Fault) α) after := by
  intro state holds
  cases result with
  | error fault => exact gives fault rfl
  | ok value => exact makes value state rfl holds

theorem get : Reads before fails (MonadState.get : StateT σ (Except Fault) σ)
    fun result state => result = state ∧ before state :=
  fun _ holds => ⟨rfl, holds⟩

end Reads

namespace Keeps

variable {holds : σ → Prop} {fails : Fault → Prop}

protected theorem pure (result : α) :
    Keeps holds fails (pure result : StateT σ (Except Fault) α) :=
  fun _ held => held

theorem get : Keeps holds fails (MonadState.get : StateT σ (Except Fault) σ) :=
  fun _ held => held

theorem modify {change : σ → σ} (kept : ∀ state, holds state → holds (change state)) :
    Keeps holds fails (modify change : StateT σ (Except Fault) PUnit) :=
  kept

theorem throw {fault : Fault} (may : fails fault) :
    Keeps holds fails (throw fault : StateT σ (Except Fault) α) :=
  fun _ _ => may

theorem bind {reader : StateT σ (Except Fault) α} {next : α → StateT σ (Except Fault) β}
    (keeps : Keeps holds fails reader) (further : ∀ result, Keeps holds fails (next result)) :
    Keeps holds fails (reader >>= next) :=
  Reads.bind keeps further

theorem map {reader : StateT σ (Except Fault) α} (change : α → β)
    (keeps : Keeps holds fails reader) : Keeps holds fails (change <$> reader) :=
  keeps.bind fun _ => .pure _

theorem ite {condition : Prop} [Decidable condition] {yes no : StateT σ (Except Fault) α}
    (one : Keeps holds fails yes) (other : Keeps holds fails no) :
    Keeps holds fails (if condition then yes else no) :=
  Reads.ite (fun _ => one) fun _ => other

/-- What is done only on some condition may be followed by more. -/
theorem optionally {condition : Prop} [Decidable condition]
    {reader : StateT σ (Except Fault) PUnit} {next : PUnit → StateT σ (Except Fault) β}
    (keeps : Keeps holds fails reader) (further : ∀ result, Keeps holds fails (next result)) :
    Keeps holds fails (if condition then reader >>= next else next ⟨⟩) :=
  .ite (keeps.bind further) (further ⟨⟩)

/-- A list is read part by part. -/
theorem mapM {items : List α} {part : α → StateT σ (Except Fault) β}
    (each : ∀ item ∈ items, Keeps holds fails (part item)) :
    Keeps holds fails (items.mapM part) := by
  induction items with
  | nil => exact .pure _
  | cons item items ih =>
    rw [List.mapM_cons]
    refine (each item List.mem_cons_self).bind fun _ => Keeps.bind ?_ fun _ => .pure _
    exact ih fun other member => each other (List.mem_cons_of_mem _ member)

theorem forM {items : List α} {part : α → StateT σ (Except Fault) PUnit}
    (each : ∀ item ∈ items, Keeps holds fails (part item)) :
    Keeps holds fails (items.forM part) := by
  induction items with
  | nil => exact .pure _
  | cons item items ih =>
    refine (each item List.mem_cons_self).bind fun _ => ?_
    exact ih fun other member => each other (List.mem_cons_of_mem _ member)

end Keeps

/-- A reader that keeps something may start from more. -/
theorem Keeps.reads {before holds : σ → Prop} {fails : Fault → Prop}
    {reader : StateT σ (Except Fault) α} (keeps : Keeps holds fails reader)
    (start : ∀ state, before state → holds state) : Reads before fails reader fun _ => holds :=
  fun state held => keeps state (start state held)

/-! ## Reading characters -/

namespace Cursor

variable {cursor : Cursor}

theorem rest_next (cursor : Cursor) : cursor.next.rest = cursor.rest.tail := by
  rw [next]
  split
  · next empty => rw [empty, List.tail_nil]
  · next char rest found =>
    rw [found, List.tail_cons]
    split
    · rfl
    · split <;> rfl

theorem rest_forward (cursor : Cursor) (count : Nat) :
    (cursor.forward count).rest = cursor.rest.drop count := by
  induction count generalizing cursor with
  | zero => rfl
  | succ count ih => rw [forward, ih, rest_next, List.drop_tail]

/-- A character that is seen is the first of those still to be read. -/
theorem rest_of_peek {char : Char} (seen : cursor.peek = char) (inside : char ≠ endMark) :
    cursor.rest = char :: cursor.rest.drop 1 := by
  rw [peek, ahead] at seen
  cases rest : cursor.rest with
  | nil =>
    rw [rest] at seen
    exact absurd seen.symm inside
  | cons first others =>
    rw [rest] at seen
    obtain rfl : first = char := seen
    rfl

end Cursor

namespace Lexer

section Exactly

variable {holds : Cursor → Prop} {fails : Fault → Prop}

theorem reads_ahead (distance : Nat) : Reads holds fails (ahead distance)
    fun char cursor => char = cursor.ahead distance ∧ holds cursor :=
  fun _ held => ⟨rfl, held⟩

theorem reads_peek : Reads holds fails peek fun char cursor => char = cursor.peek ∧ holds cursor :=
  reads_ahead 0

variable (cursor : Cursor)

theorem reads_advance (count : Nat) :
    Reads (· = cursor) fails (advance count) fun _ next => next = cursor.forward count := by
  rintro _ rfl
  rfl

theorem reads_span (member : Char → Bool) : Reads (· = cursor) fails (span member)
    fun chars next =>
      chars = cursor.rest.takeWhile member ∧ next = cursor.forward chars.length := by
  rintro _ rfl
  exact ⟨rfl, rfl⟩

end Exactly

/-- What holds of a place in a document may be kept as the reading moves on. -/
def Onward (holds : Cursor → Prop) : Prop :=
  ∀ cursor, holds cursor → holds cursor.next

variable {holds : Cursor → Prop} {fails : Fault → Prop} (onward : Onward holds)
  (gives : fails .malformed)

theorem keeps_ahead (distance : Nat) : Keeps holds fails (ahead distance) :=
  Keeps.get.bind fun _ => .pure _

theorem keeps_peek : Keeps holds fails peek :=
  keeps_ahead 0

theorem keeps_budget : Keeps holds fails budget :=
  Keeps.get.bind fun _ => .pure _

section GivesUp

include gives

theorem keeps_malformed : Keeps holds fails (malformed : Lexer α) :=
  .throw gives

theorem reads_malformed_bind {next : α → Lexer β} {after : β → Cursor → Prop} :
    Reads holds fails (malformed >>= next) after :=
  fun _ _ => gives

theorem keeps_expect (member : Char → Bool) : Keeps holds fails (expect member) :=
  keeps_peek.bind fun _ => .ite (keeps_malformed gives) (.pure _)

end GivesUp

section MovesOn

include onward

theorem Onward.forward {count : Nat} {cursor : Cursor} (held : holds cursor) :
    holds (cursor.forward count) := by
  induction count generalizing cursor with
  | zero => exact held
  | succ count ih => exact ih (onward cursor held)

theorem keeps_advance (count : Nat) : Keeps holds fails (advance count) :=
  Keeps.modify fun _ held => onward.forward held

theorem keeps_span (member : Char → Bool) : Keeps holds fails (span member) :=
  Keeps.get.bind fun _ => (keeps_advance onward _).bind fun _ => .pure _

theorem keeps_skip (member : Char → Bool) : Keeps holds fails (skip member) :=
  (keeps_span onward member).bind fun _ => .pure _

theorem keeps_skipSpaces : Keeps holds fails skipSpaces :=
  keeps_skip onward _

theorem keeps_skipComment : Keeps holds fails skipComment :=
  keeps_peek.bind fun _ => .ite (keeps_skip onward _) (.pure _)

theorem keeps_lineBreak : Keeps holds fails lineBreak := by
  refine Keeps.get.bind fun cursor => ?_
  split
  · exact (keeps_advance onward _).bind fun _ => .pure _
  · exact .ite ((keeps_advance onward _).bind fun _ => .pure _)
      (.ite ((keeps_advance onward _).bind fun _ => .pure _) (.pure _))
  · exact .pure _

end MovesOn

include onward gives

theorem keeps_finishLine : Keeps holds fails finishLine :=
  (keeps_skipSpaces onward).bind fun _ => (keeps_skipComment onward).bind fun _ =>
    (keeps_expect gives _).bind fun _ => (keeps_lineBreak onward).bind fun _ => .pure _

end Lexer

end PatternForge.Yaml
