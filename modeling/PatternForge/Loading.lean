import PatternForge.Description
import PatternForge.Yaml.Document

/-!
# Loading descriptions

A description is given as a value, or as a document whose value is a mapping.
-/

namespace PatternForge

/-- Why there is no description. -/
inductive LoadFault where
  | document (fault : Yaml.Fault)
  | notMapping
  | invalid (findings : List Finding)

/-- The report of a fault. A text that is not of the form that its tag asks for has no wording. -/
def LoadFault.report : LoadFault → Report
  | document .malformed => ⟨.configurationError, "Malformed scope description"⟩
  | document .invalid => ⟨.valueError, []⟩
  | document .unknownWord => ⟨.keyError, []⟩
  | document .noTimestamp => ⟨.attributeError, []⟩
  | document .emptyNumeral => ⟨.indexError, []⟩
  | document .noScalar => ⟨.typeError, "expected string or bytes-like object, got 'list'"⟩
  | document .overflow => ⟨.overflowError, "int too large to convert to float"⟩
  | document .hugePoint => ⟨.overflowError, "Python int too large to convert to C int"⟩
  | notMapping => ⟨.configurationError, "Scope description must be a mapping"⟩
  | invalid _ => ⟨.configurationError, "Invalid scope description"⟩

namespace Description

def ofValue (value : Value) : Except LoadFault Description :=
  (read value).mapError .invalid

def ofDocument (text : Text) : Except LoadFault Description :=
  match Yaml.readDocument text with
  | .error fault => .error (.document fault)
  | .ok (.map entries) => ofValue (.map entries)
  | .ok _ => .error .notMapping

end Description

end PatternForge
