import PatternForge.Text.CaseData

/-!
# Case mappings

The full mappings of Unicode to lower and upper case. A text may grow, and the lower case of a
capital sigma depends on its neighbours: at the end of a word it is the final sigma.
-/

namespace PatternForge

/-- How far a list of runs moves a number. -/
def CaseRun.shiftOf (runs : List CaseRun) (number : Nat) : Int :=
  match runs.find? fun run =>
      run.first ≤ number && number ≤ run.last && (number - run.first) % run.step == 0 with
  | some run => run.shift
  | none => 0

namespace Text

/-- Whether the nearest code point that is not ignorable for case is cased. -/
def startsCased (text : Text) : Bool :=
  match text.dropWhile fun point => caseIgnorableRanges.covers point.val with
  | [] => false
  | point :: _ => casedRanges.covers point.val

/-- The lower case of one code point between those before it, nearest first, and those after it. -/
def lowerPoint (before : Text) (point : CodePoint) (after : Text) : Text :=
  if point.val = 0x3A3 then
    ofNumbers [if startsCased before && !startsCased after then 0x3C2 else 0x3C3]
  else if point.val = 0x130 then ofNumbers [0x69, 0x307]
  else ofNumbers [(point.val + CaseRun.shiftOf lowerRuns point.val).toNat]

/-- The lower case of a text that follows the given code points, nearest first. -/
def lowerAfter (before : Text) : Text → Text
  | [] => []
  | point :: after => lowerPoint before point after ++ lowerAfter (point :: before) after

def lower (text : Text) : Text :=
  lowerAfter [] text

/-- The upper case of one code point. -/
def upperPoint (point : CodePoint) : Text :=
  match upperExpansions.find? fun entry => entry.1 == point.val with
  | some entry => ofNumbers entry.2
  | none => ofNumbers [(point.val + CaseRun.shiftOf upperRuns point.val).toNat]

def upper (text : Text) : Text :=
  text.flatMap upperPoint

end Text

end PatternForge
