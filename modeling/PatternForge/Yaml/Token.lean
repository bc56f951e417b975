import PatternForge.Text.Basic

/-!
# Tokens of a document

The marks that a document is made of. Block collections start and end with marks that have no
characters of their own; they come from indentation.
-/

namespace PatternForge.Yaml

structure WrittenTag where
  /-- The handle, which a directive may give a meaning. -/
  handle : Option (List Char)
  /-- What follows the handle, or the whole tag. -/
  suffix : List Char
deriving DecidableEq

inductive Directive where
  | version (major minor : Nat)
  | handle (name meaning : List Char)
  | reserved
deriving DecidableEq

inductive Token where
  | directive (directive : Directive)
  | documentStart
  | documentEnd
  | streamEnd
  | blockSequence
  | blockMapping
  | blockEnd
  | flowSequence
  | flowSequenceEnd
  | flowMapping
  | flowMappingEnd
  | flowEntry
  | blockEntry
  | key
  | value
  | alias (name : List Char)
  | anchor (name : List Char)
  | tag (tag : WrittenTag)
  /-- A scalar, and whether it stands without quotes or header. -/
  | scalar (text : Text) (plain : Bool)
deriving DecidableEq

end PatternForge.Yaml
