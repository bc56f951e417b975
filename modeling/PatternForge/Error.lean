import PatternForge.Number.Decimal

/-!
# Errors

An error is reported by its class and its wording. A wording may hold numbers, and one of them may
be too long to be written. Then the error cannot be worded, and what is reported is that failure.
-/

namespace PatternForge

/-- The class of an error. -/
inductive ErrorKind where
  /-- Scopes cannot be generated, attached or made as they are given. -/
  | configurationError
  /-- A source gives no number of the range that it is asked for. -/
  | randomSourceError
  /-- A value is not of the form that a reader asks for; findings say where. -/
  | validationError
  | valueError
  | typeError
  | keyError
  | indexError
  | attributeError
  | overflowError
  | fileNotFoundError
  | isADirectoryError
  | osError
  | unicodeDecodeError
  /-- A class of its own that a source of another make brings along. -/
  | foreign (className : Text)
deriving DecidableEq

def ErrorKind.name : ErrorKind → Text
  | configurationError => "ConfigurationError"
  | randomSourceError => "RandomSourceError"
  | validationError => "ValidationError"
  | valueError => "ValueError"
  | typeError => "TypeError"
  | keyError => "KeyError"
  | indexError => "IndexError"
  | attributeError => "AttributeError"
  | overflowError => "OverflowError"
  | fileNotFoundError => "FileNotFoundError"
  | isADirectoryError => "IsADirectoryError"
  | osError => "OSError"
  | unicodeDecodeError => "UnicodeDecodeError"
  | foreign className => className

structure Report where
  kind : ErrorKind
  message : Text
deriving DecidableEq

/-- Two things are written together if each of them can be written. -/
theorem isSome_bind_bind {α β γ : Type} (first : Option α) (second : Option β) (join : α → β → γ) :
    (first.bind fun left => second.bind fun right => some (join left right)).isSome =
      (first.isSome && second.isSome) := by
  cases first <;> cases second <;> rfl

namespace Report

/-- A number is too long to be written. -/
def tooLong : Report where
  kind := .valueError
  message :=
    "Exceeds the limit (" ++ Text.ofNat Numeral.longestDecimal
      ++ " digits) for integer string conversion; use sys.set_int_max_str_digits() to increase "
      ++ "the limit"

/-- The report of an error of a class, given its wording if that can be written. -/
def ofWording (kind : ErrorKind) : Option Text → Report
  | some message => ⟨kind, message⟩
  | none => tooLong

/-- An error keeps its class if it can be worded. -/
theorem kind_ofWording_eq_iff {kind : ErrorKind} {wording : Option Text}
    (other : kind ≠ .valueError) :
    (ofWording kind wording).kind = kind ↔ wording.isSome = true := by
  cases wording with
  | some message => exact iff_of_true rfl rfl
  | none => exact iff_of_false other.symm Bool.false_ne_true

/-- It takes on no other class than that of its failure. -/
theorem kind_ofWording_ne {kind other : ErrorKind} {wording : Option Text}
    (different : kind ≠ other) (worded : .valueError ≠ other) :
    (ofWording kind wording).kind ≠ other := by
  cases wording with
  | some message => exact different
  | none => exact worded

theorem ofWording_of_isNone {kind : ErrorKind} {wording : Option Text}
    (unwritten : ¬wording.isSome = true) : ofWording kind wording = tooLong := by
  cases wording with
  | some message => exact absurd rfl unwritten
  | none => rfl

end Report

end PatternForge
