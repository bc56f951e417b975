import PatternForge.Generation
import PatternForge.Journal
import PatternForge.Loading
import PatternForge.Scope.Forest
import PatternForge.Settings.Basic
import PatternForge.Source.Bench

/-!
# Faults of the workshop

Everything that can go wrong in the workshop, by the part of it where it goes wrong. Each fault is
reported under the class that a caller can tell it by (`WorkFault.report`), and so are the faults of
the parts: a scope's are configuration errors, a source's are random source errors, and what breaks
the form of a record is a validation error. A wording that cannot be written comes in their place.
-/

namespace PatternForge

/-- Why something was not done. -/
inductive WorkFault where
  | load (fault : LoadFault)
  /-- A value is no description, where a description by itself was asked for. -/
  | description (findings : List Finding)
  | file (fault : FileFault)
  | attach (fault : AttachFault)
  | generation (fault : GenerationFault)
  | settings (fault : SettingsFault)
  | expectation (fault : ExpectationFault)
  | unknownGenerator (name : Text)
  /-- A value is no name for the root of a trace. -/
  | trace (findings : List Finding)
  | level (fault : LevelFault)
  /-- A written form holds a number that is too long to be written. -/
  | unwritable

namespace WorkFault

def draw (fault : DrawFault) : WorkFault :=
  generation (.source fault)

def report : WorkFault → Report
  | load fault => fault.report
  | description _ => ⟨.validationError, "ScopeSpec"⟩
  | file fault => fault.report
  | attach fault => fault.report
  | generation fault => fault.report
  | settings (.invalid _) => ⟨.validationError, "Settings"⟩
  | settings (.unreadable fault) => fault.report
  | expectation fault => fault.report
  | unknownGenerator name =>
    ⟨.configurationError, "Unknown random source '" ++ name ++ "', expected one of: "
      ++ Text.joinWith ", " (Generator.all.map Generator.name)⟩
  | trace _ => ⟨.validationError, "GenerationTrace"⟩
  | level fault => fault.report
  | unwritable => .tooLong

def message (fault : WorkFault) : Text :=
  fault.report.message

/-- What was found in the value at fault, if a value was read. -/
def findings? : WorkFault → Option (List Finding)
  | load (.invalid findings) => some findings
  | description findings => some findings
  | generation (.source (.unrecordable findings)) => some findings
  | settings (.invalid findings) => some findings
  | trace findings => some findings
  | _ => none

end WorkFault

end PatternForge
