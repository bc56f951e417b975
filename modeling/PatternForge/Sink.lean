import PatternForge.Text.Quoted

/-!
# Sinks

Generation appends fragments to a sink: a buffer, whose value is the text that the fragments make
together, or a plain list of fragments.
-/

namespace PatternForge

/-- Fragments that make a text. -/
structure Buffer where
  fragments : List Text := []

namespace Buffer

def ofText (initial : Text) : Buffer :=
  ⟨if initial.isEmpty then [] else [initial]⟩

def value (buffer : Buffer) : Text :=
  buffer.fragments.flatten

/-- The length of the text, counted by fragments. -/
def length (buffer : Buffer) : Nat :=
  (buffer.fragments.map List.length).foldr (· + ·) 0

def append (buffer : Buffer) (fragments : List Text) : Buffer :=
  ⟨buffer.fragments ++ fragments⟩

def reset (_ : Buffer) : Buffer :=
  {}

@[simp] theorem value_ofText (initial : Text) : (ofText initial).value = initial := by
  cases initial <;> simp [ofText, value]

@[simp] theorem value_append (buffer : Buffer) (fragments : List Text) :
    (buffer.append fragments).value = buffer.value ++ fragments.flatten := by
  simp [append, value]

theorem length_eq (buffer : Buffer) : buffer.length = buffer.value.length := by
  rw [value, List.length_flatten]
  rfl

def display (buffer : Buffer) : Text :=
  "ResultBuffer(" ++ buffer.value.quoted ++ ")"

end Buffer

/-- What fragments are appended to. -/
inductive Sink where
  | buffer (buffer : Buffer)
  | fragments (fragments : List Text)

namespace Sink

def append (more : List Text) : Sink → Sink
  | buffer held => buffer (held.append more)
  | fragments held => fragments (held ++ more)

def reset : Sink → Sink
  | buffer held => buffer held.reset
  | fragments _ => fragments []

/-- The length of the text of a buffer, or the number of fragments of a list. -/
def length : Sink → Nat
  | buffer held => held.length
  | fragments held => held.length

/-- Whether two sinks are equal: buffers by their texts, lists by their fragments. -/
def equals : Sink → Sink → Bool
  | buffer first, buffer second => first.value == second.value
  | fragments first, fragments second => first == second
  | _, _ => false

def text : Sink → Text
  | buffer held => held.value
  | fragments held => held.flatten

theorem append_nil (sink : Sink) : sink.append [] = sink := by
  cases sink <;> simp only [append, Buffer.append, List.append_nil]

theorem append_append (sink : Sink) (first second : List Text) :
    sink.append (first ++ second) = (sink.append first).append second := by
  cases sink <;> simp only [append, Buffer.append, List.append_assoc]

end Sink

end PatternForge
