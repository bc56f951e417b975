import PatternForge.Finding
import PatternForge.Value

/-!
# Sources of choices

A source answers requests for a number in a range. Its behaviour is two functions on a state of any
type: one hears what the next request is for, the other answers a request or refuses it. An answer
may be any value; whoever asked has to check it.
-/

namespace PatternForge

/-- What a request is for. -/
structure Announcement where
  scope : Text
  purpose : Text
deriving DecidableEq

/-- What a scope lets a source decide. -/
inductive Purpose where
  | count
  | literal
  | child
deriving DecidableEq, Repr

def Purpose.name : Purpose → Text
  | count => "count"
  | literal => "literal"
  | child => "child"

/-- Why a source gives no value. -/
inductive DrawFault where
  | inverted (low high : Int)
  /-- The range leaves the numbers that the source can give. -/
  | outside (low high top : Int)
  | unexpectedCall (number known : Nat)
  | unexpectedRange (number : Nat) (low high : Int) (expectedLow expectedHigh : Value)
  | exhausted (count : Nat)
  | unrecordable (findings : List Finding)
  /-- A source of another make fails with an error of its own. -/
  | foreign (className message : Text)

def DrawFault.report : DrawFault → Report
  | inverted low high =>
    .ofWording .randomSourceError do
      return "Invalid range: low " ++ (← Text.ofInt? low) ++ " is greater than high "
        ++ (← Text.ofInt? high)
  | outside low high top =>
    .ofWording .randomSourceError do
      return "Range [" ++ (← Text.ofInt? low) ++ ", " ++ (← Text.ofInt? high)
        ++ "] is outside the source range [0, " ++ (← Text.ofInt? top) ++ "]"
  | unexpectedCall number known =>
    ⟨.randomSourceError, "Unexpected call #" ++ Text.ofNat number ++ ": only " ++ Text.ofNat known
      ++ " calls were expected"⟩
  | unexpectedRange number low high expectedLow expectedHigh =>
    .ofWording .randomSourceError do
      return "Unexpected arguments for call #" ++ Text.ofNat number ++ ": got ("
        ++ (← Text.ofInt? low) ++ ", " ++ (← Text.ofInt? high) ++ "), expected ("
        ++ (← expectedLow.written?) ++ ", " ++ (← expectedHigh.written?) ++ ")"
  | exhausted count =>
    ⟨.randomSourceError, "Scripted values exhausted after " ++ Text.ofNat count ++ " draws"⟩
  | unrecordable _ => ⟨.validationError, "DrawStep"⟩
  | foreign className message => ⟨.foreign className, message⟩

/-- No source is to blame for the configuration. -/
theorem DrawFault.kind_report_ne (fault : DrawFault) :
    fault.report.kind ≠ .configurationError := by
  cases fault with
  | inverted => exact Report.kind_ofWording_ne nofun nofun
  | outside => exact Report.kind_ofWording_ne nofun nofun
  | unexpectedCall => exact nofun
  | unexpectedRange => exact Report.kind_ofWording_ne nofun nofun
  | exhausted => exact nofun
  | unrecordable => exact nofun
  | foreign => exact nofun

theorem DrawFault.kind_report_unexpectedRange {number : Nat} {low high : Int}
    {expectedLow expectedHigh : Value} (lower : Numeral.isWritable low = true)
    (upper : Numeral.isWritable high = true) (least : expectedLow.isWritable = true)
    (greatest : expectedHigh.isWritable = true) :
    (unexpectedRange number low high expectedLow expectedHigh).report.kind =
      .randomSourceError := by
  simp only [report, Text.ofInt?, Value.written?, lower, upper, least, greatest, ↓reduceIte]
  rfl

/-- What is wrong with a range for a source whose greatest number is given. -/
def rangeFault? (top low high : Int) : Option DrawFault :=
  if high < low then some (.inverted low high)
  else if low < 0 ∨ top < high then some (.outside low high top)
  else none

theorem rangeFault?_eq_none_iff {top low high : Int} :
    rangeFault? top low high = none ↔ 0 ≤ low ∧ low ≤ high ∧ high ≤ top := by
  simp only [rangeFault?]
  split
  · simp only [reduceCtorEq, false_iff]; omega
  · split
    · simp only [reduceCtorEq, false_iff]; omega
    · simp only [true_iff]; omega

/-- The behaviour of a source with states of a type. -/
structure Source (σ : Type) where
  /-- Hears what the next request is for. -/
  announce : Announcement → σ → σ
  /-- Answers a request for a number from low to high. -/
  draw : (low high : Int) → σ → Except DrawFault Value × σ

/-- A source that does not listen to announcements. -/
def Source.ofDraw {σ : Type} (draw : (low high : Int) → σ → Except DrawFault Value × σ) :
    Source σ :=
  ⟨fun _ state => state, draw⟩

/-- In linked states two sources answer alike, and they stay linked. -/
structure Source.Alike {σ τ : Type} (source : Source σ) (other : Source τ)
    (linked : σ → τ → Prop) : Prop where
  announce : ∀ announcement state twin, linked state twin →
    linked (source.announce announcement state) (other.announce announcement twin)
  draw : ∀ low high state twin, linked state twin →
    (source.draw low high state).1 = (other.draw low high twin).1 ∧
      linked (source.draw low high state).2 (other.draw low high twin).2

end PatternForge
