import PatternForge.Error

/-!
# Repetition bounds

Every scope repeats between a least and a greatest number of times. The bounds are free to be set;
whether they can be generated is asked only when a scope is visited.
-/

namespace PatternForge

/-- How often a scope repeats. -/
structure Bounds where
  least : Int := 1
  greatest : Int := 1
deriving DecidableEq, Repr

/-- Why a scope can generate nothing. -/
inductive ScopeFault where
  | negativeBound (scope : Text) (bounds : Bounds)
  | invertedBound (scope : Text) (bounds : Bounds)
  | aboveLimit (scope : Text) (bounds : Bounds) (limit : Int)
  | emptyPool (scope : Text)
  | emptyGroup (scope : Text)
deriving DecidableEq

def Bounds.areWritable (bounds : Bounds) : Bool :=
  Numeral.isWritable bounds.least && Numeral.isWritable bounds.greatest

namespace ScopeFault

/-- The wording of a fault, if the bounds and the limit in it can be written. -/
def wording? : ScopeFault → Option Text
  | negativeBound scope bounds => do
    return "Scope '" ++ scope ++ "' has a negative repetition bound ["
      ++ (← Text.ofInt? bounds.least) ++ ", " ++ (← Text.ofInt? bounds.greatest) ++ "]"
  | invertedBound scope bounds => do
    return "Scope '" ++ scope ++ "' has min occurrences " ++ (← Text.ofInt? bounds.least)
      ++ " greater than max " ++ (← Text.ofInt? bounds.greatest)
  | aboveLimit scope bounds limit => do
    return "Scope '" ++ scope ++ "' max occurrences " ++ (← Text.ofInt? bounds.greatest)
      ++ " exceeds the limit of " ++ (← Text.ofInt? limit)
  | emptyPool scope => some ("Literal scope '" ++ scope ++ "' has no literals to generate from")
  | emptyGroup scope => some ("Group scope '" ++ scope ++ "' has no child scopes to generate")

def report (fault : ScopeFault) : Report :=
  .ofWording .configurationError fault.wording?

@[simp] theorem isSome_wording?_negativeBound (scope : Text) (bounds : Bounds) :
    (negativeBound scope bounds).wording?.isSome = bounds.areWritable := by
  simp [wording?, isSome_bind_bind, Bounds.areWritable]

@[simp] theorem isSome_wording?_invertedBound (scope : Text) (bounds : Bounds) :
    (invertedBound scope bounds).wording?.isSome = bounds.areWritable := by
  simp [wording?, isSome_bind_bind, Bounds.areWritable]

@[simp] theorem isSome_wording?_aboveLimit (scope : Text) (bounds : Bounds) (limit : Int) :
    (aboveLimit scope bounds limit).wording?.isSome =
      (Numeral.isWritable bounds.greatest && Numeral.isWritable limit) := by
  simp [wording?, isSome_bind_bind]

theorem kind_report_eq_iff {fault : ScopeFault} :
    fault.report.kind = .configurationError ↔ fault.wording?.isSome = true :=
  Report.kind_ofWording_eq_iff nofun

theorem kind_report_aboveLimit_iff {scope : Text} {bounds : Bounds} {limit : Int} :
    (aboveLimit scope bounds limit).report.kind = .configurationError ↔
      (Numeral.isWritable bounds.greatest && Numeral.isWritable limit) = true := by
  rw [kind_report_eq_iff, isSome_wording?_aboveLimit]

theorem report_of_unwritten {fault : ScopeFault} (unwritten : ¬fault.wording?.isSome = true) :
    fault.report = .tooLong :=
  Report.ofWording_of_isNone unwritten

/-- A limit that is exceeded by too long a number is not named. -/
theorem report_aboveLimit_of_long {scope : Text} {bounds : Bounds} {limit : Int}
    (long : Numeral.isWritable bounds.greatest = false) :
    (aboveLimit scope bounds limit).report = .tooLong := by
  refine report_of_unwritten ?_
  rw [isSome_wording?_aboveLimit, long]
  exact Bool.false_ne_true

end ScopeFault

namespace Bounds

/-- The bounds are whole numbers in order, none below zero. -/
def Ordered (bounds : Bounds) : Prop :=
  0 ≤ bounds.least ∧ bounds.least ≤ bounds.greatest

instance (bounds : Bounds) : Decidable bounds.Ordered :=
  inferInstanceAs (Decidable (_ ∧ _))

/-- What is wrong with the bounds by themselves. -/
def orderFault? (bounds : Bounds) (scope : Text) : Option ScopeFault :=
  if bounds.least < 0 ∨ bounds.greatest < 0 then some (.negativeBound scope bounds)
  else if bounds.greatest < bounds.least then some (.invertedBound scope bounds)
  else none

/-- What a limit on repetitions objects to. -/
def limitFault? (bounds : Bounds) (scope : Text) : Option Int → Option ScopeFault
  | none => none
  | some limit => if limit < bounds.greatest then some (.aboveLimit scope bounds limit) else none

/-- What is wrong with the bounds under a limit on repetitions. -/
def fault? (bounds : Bounds) (scope : Text) (limit : Option Int) : Option ScopeFault :=
  bounds.orderFault? scope <|> bounds.limitFault? scope limit

theorem orderFault?_eq_none_iff {bounds : Bounds} {scope : Text} :
    bounds.orderFault? scope = none ↔ bounds.Ordered := by
  simp only [orderFault?, Ordered]
  split
  · simp only [reduceCtorEq, false_iff]; omega
  · split
    · simp only [reduceCtorEq, false_iff]; omega
    · simp only [true_iff]; omega

theorem exists_orderFault {bounds : Bounds} (disorder : ¬bounds.Ordered) (scope : Text) :
    ∃ fault, bounds.orderFault? scope = some fault :=
  Option.ne_none_iff_exists'.mp fun none => disorder (orderFault?_eq_none_iff.mp none)

theorem limitFault?_eq_none_iff {bounds : Bounds} {scope : Text} {limit : Option Int} :
    bounds.limitFault? scope limit = none ↔ ∀ bound ∈ limit, bounds.greatest ≤ bound := by
  cases limit with
  | none => simp [limitFault?]
  | some limit => simp [limitFault?]

theorem fault?_eq_none_iff {bounds : Bounds} {scope : Text} {limit : Option Int} :
    bounds.fault? scope limit = none ↔
      bounds.Ordered ∧ ∀ bound ∈ limit, bounds.greatest ≤ bound := by
  have inOrder : bounds.orderFault? scope = none ↔ bounds.Ordered := orderFault?_eq_none_iff
  have inReach : bounds.limitFault? scope limit = none ↔
      ∀ bound ∈ limit, bounds.greatest ≤ bound := limitFault?_eq_none_iff
  rw [← inOrder, ← inReach]
  cases order : bounds.orderFault? scope <;> simp [fault?, order]

theorem fault?_of_above {bounds : Bounds} {scope : Text} {bound : Int} (ordered : bounds.Ordered)
    (above : bound < bounds.greatest) :
    bounds.fault? scope (some bound) = some (.aboveLimit scope bounds bound) := by
  have order : bounds.orderFault? scope = none := orderFault?_eq_none_iff.mpr ordered
  rw [fault?, order, limitFault?, if_pos above]
  rfl

/-- An objection can be worded if the bounds and the limit can be written. -/
theorem isSome_wording?_of_fault? {bounds : Bounds} {scope : Text} {limit : Option Int}
    {fault : ScopeFault} (writable : bounds.areWritable = true)
    (limits : ∀ bound ∈ limit, Numeral.isWritable bound = true)
    (found : bounds.fault? scope limit = some fault) : fault.wording?.isSome = true := by
  have greatest : Numeral.isWritable bounds.greatest = true :=
    (Bool.and_eq_true_iff.mp writable).2
  rw [fault?, orderFault?] at found
  split at found
  · cases found
    rw [ScopeFault.isSome_wording?_negativeBound, writable]
  · split at found
    · cases found
      rw [ScopeFault.isSome_wording?_invertedBound, writable]
    · cases limit with
      | none => cases found
      | some bound =>
        rw [limitFault?] at found
        split at found
        · cases found
          rw [ScopeFault.isSome_wording?_aboveLimit, greatest, limits bound rfl]
          rfl
        · cases found

end Bounds

end PatternForge
