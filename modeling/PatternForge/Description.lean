import PatternForge.Field

/-!
# Scope descriptions

A description says what one scope is made of and, for a group, what its children are. Reading one
from a value checks every field and reports all that is wrong; the rules that tie fields together
are checked only when each field by itself is in order.
-/

namespace PatternForge

inductive ScopeKind where
  | literal
  | group
deriving DecidableEq

def ScopeKind.name : ScopeKind → Text
  | literal => "literal"
  | group => "group"

/-- A description of one scope and of those below it. -/
structure Description where
  name : Text
  kind : ScopeKind := .literal
  literals : List Text := []
  children : List Description := []
  minOccurrences : Int := 1
  maxOccurrences : Int := 1
  /-- Whether a repetition of a group takes one child instead of all. -/
  alternating : Bool := false

namespace Description

/-- The first rule on the whole that a description breaks. -/
def breach? (description : Description) : Option ShapeBreach :=
  if description.maxOccurrences < description.minOccurrences then
    some (.inverted description.minOccurrences description.maxOccurrences)
  else
    match description.kind with
    | .literal =>
      if description.children.isEmpty then none else some (.literalWithChildren description.name)
    | .group =>
      if description.literals.isEmpty then none else some (.groupWithLiterals description.name)

/-- A description that keeps the rules on the whole. -/
def checked (description : Description) : Reading Description :=
  match description.breach? with
  | none => .ok description
  | some breach => Reading.object (.shape breach)

def readKind : Value → Reading ScopeKind
  | .scalar (.text text) =>
    if !text.isEncodable then Reading.object .notUnicode
    else if text = ScopeKind.literal.name then .ok .literal
    else if text = ScopeKind.group.name then .ok .group
    else Reading.object .notKind
  | _ => Reading.object .notKind

/-- The description in the entries of a mapping, the children being read already. -/
def ofEntries (entries : List (Scalar × Value)) (children : Reading (List Description)) :
    Reading Description :=
  let name := Field.required entries "name" Field.readName
  let kind := Field.optional entries "kind" .literal readKind
  let literals := Field.optional entries "literals" [] Field.readTexts
  let least := Field.optional entries "min_occurrences" 1 Field.readCount
  let greatest := Field.optional entries "max_occurrences" 1 Field.readCount
  let alternating := Field.optional entries "alternating" false Field.readBool
  match name, kind, literals, children, least, greatest, alternating with
  | .ok name, .ok kind, .ok literals, .ok children, .ok least, .ok greatest, .ok alternating =>
    checked ⟨name, kind, literals, children, least, greatest, alternating⟩
  | name, kind, literals, children, least, greatest, alternating =>
    .error (name.findings ++ kind.findings ++ literals.findings
      ++ Reading.findings (Reading.within (.field "children") children)
      ++ least.findings ++ greatest.findings ++ alternating.findings)

theorem breach?_eq_none_iff {description : Description} : description.breach? = none ↔
    description.minOccurrences ≤ description.maxOccurrences ∧
      (description.kind = .literal → description.children = []) ∧
      (description.kind = .group → description.literals = []) := by
  rw [breach?]
  by_cases inverted : description.maxOccurrences < description.minOccurrences
  · rw [if_pos inverted]
    exact iff_of_false nofun fun kept => absurd kept.1 (Int.not_le.mpr inverted)
  · rw [if_neg inverted]
    cases kind : description.kind <;> simp [Int.not_lt.mp inverted]

theorem checked_eq_ok_iff {description result : Description} :
    checked description = .ok result ↔ description = result ∧ description.breach? = none := by
  rw [checked]
  cases description.breach? <;> simp [Reading.object]

/-- A description comes of entries whose fields are all read and keep the rules together. -/
theorem ofEntries_eq_ok_iff {entries : List (Scalar × Value)}
    {children : Reading (List Description)} {description : Description} :
    ofEntries entries children = .ok description ↔
      Field.required entries "name" Field.readName = .ok description.name ∧
      Field.optional entries "kind" .literal readKind = .ok description.kind ∧
      Field.optional entries "literals" [] Field.readTexts = .ok description.literals ∧
      children = .ok description.children ∧
      Field.optional entries "min_occurrences" 1 Field.readCount =
        .ok description.minOccurrences ∧
      Field.optional entries "max_occurrences" 1 Field.readCount =
        .ok description.maxOccurrences ∧
      Field.optional entries "alternating" false Field.readBool = .ok description.alternating ∧
      description.breach? = none := by
  constructor
  · intro reading
    unfold ofEntries at reading
    dsimp only at reading
    split at reading
    next name kind literals least greatest alternating =>
      obtain ⟨rfl, kept⟩ := checked_eq_ok_iff.mp reading
      exact ⟨name, kind, literals, rfl, least, greatest, alternating, kept⟩
    -- With a field that is not read there are only findings.
    next => cases reading
  · rintro ⟨name, kind, literals, rfl, least, greatest, alternating, kept⟩
    obtain ⟨_, _, _, _, _, _, _⟩ := description
    unfold ofEntries
    rw [name, kind, literals, least, greatest, alternating]
    exact checked_eq_ok_iff.mpr ⟨rfl, kept⟩

mutual

/-- The description that a mapping holds. Names of no field are passed over. -/
def read : Value → Reading Description
  | .map entries => ofEntries entries (readChildren entries)
  | .enclosingMap => Reading.object .cyclic
  | _ => Reading.object .notDescription

/-- The children in the entries of a mapping; without an entry there are none. -/
def readChildren : List (Scalar × Value) → Reading (List Description)
  | [] => .ok []
  | (name, value) :: rest =>
    if name = .text "children" then readItems value else readChildren rest

/-- The descriptions in a list. A set holds scalars alone, none of which describes a scope. -/
def readItems : Value → Reading (List Description)
  | .list items => readList 0 items
  | .set members =>
    Field.readAll (fun _ => Reading.object .notDescription) 0 (members.map Value.scalar)
  | _ => Reading.object .notList

/-- The descriptions of a list's items, each known by its place. -/
def readList : Nat → List Value → Reading (List Description)
  | _, [] => .ok []
  | index, item :: rest =>
    (Reading.both ((read item).within (.item index)) (readList (index + 1) rest)).map
      fun parts => parts.1 :: parts.2

end

mutual

/-- The value that states every field of a description. -/
def toValue : Description → Value
  | ⟨name, kind, literals, children, least, greatest, alternating⟩ =>
    .map [
      (.text "name", .text name),
      (.text "kind", .text kind.name),
      (.text "literals", .list (literals.map Value.text)),
      (.text "children", .list (toValues children)),
      (.text "min_occurrences", .int least),
      (.text "max_occurrences", .int greatest),
      (.text "alternating", .bool alternating)]

def toValues : List Description → List Value
  | [] => []
  | description :: rest => toValue description :: toValues rest

end

end Description

end PatternForge
