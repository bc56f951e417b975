import PatternForge.Proofs.Dialogue
import PatternForge.Proofs.Parts
import PatternForge.Proofs.Planting

/-! # Canonical descriptions

Whatever form a value has that describes a scope, the description read from it is canonical at every
depth, and a canonical description is read back from the value that states all of its fields. So a
second reading changes nothing. Trees go the same way: what a tree with named scopes and ordered
bounds is described by is canonical, and planting it makes the tree again.
-/

namespace PatternForge

/-! ## Canonical descriptions -/

namespace Description

/-- At every depth the name can be written and is not empty, the bounds are in order, and a scope
has only what scopes of its kind have. -/
inductive Canonical : Description → Prop where
  | intro {description : Description} (writable : description.name.isEncodable = true)
      (named : description.name ≠ [])
      (ordered : Bounds.Ordered ⟨description.minOccurrences, description.maxOccurrences⟩)
      (childless : description.kind = .literal → description.children = [])
      (bare : description.kind = .group → description.literals = [])
      (below : ∀ child ∈ description.children, child.Canonical) : description.Canonical

/-- Entries with canonical children give a canonical description. -/
theorem canonical_of_ofEntries {entries : List (Scalar × Value)}
    {children : Reading (List Description)} {description : Description}
    (reading : ofEntries entries children = .ok description)
    (below : ∀ listed, children = .ok listed → ∀ child ∈ listed, child.Canonical) :
    description.Canonical := by
  obtain ⟨name, -, -, listed, least, greatest, -, kept⟩ := ofEntries_eq_ok_iff.mp reading
  obtain ⟨value, name⟩ := Field.exists_of_required name
  obtain ⟨writable, named⟩ := Field.readName_eq_ok name
  obtain ⟨order, childless, bare⟩ := breach?_eq_none_iff.mp kept
  exact .intro writable named ⟨Field.nonneg_of_optional least, order⟩ childless bare
    (below _ listed)

/-- No item of a set describes a scope. -/
theorem readAll_notDescription {items : List Value} {index : Nat} {listed : List Description}
    (reading : Field.readAll (fun _ => Reading.object .notDescription) index items = .ok listed) :
    listed = [] := by
  cases items with
  | nil => exact (Except.ok.inj reading).symm
  | cons item rest =>
    rw [Field.readAll] at reading
    cases reading

/-- The items of a list are read one by one. -/
theorem readList_cons_eq_ok {index : Nat} {item : Value} {rest : List Value}
    {listed : List Description} (reading : readList index (item :: rest) = .ok listed) :
    ∃ first others, listed = first :: others ∧ read item = .ok first ∧
      readList (index + 1) rest = .ok others := by
  rw [readList] at reading
  cases both : Reading.both ((read item).within (.item index)) (readList (index + 1) rest) with
  | error findings =>
    rw [both] at reading
    cases reading
  | ok parts =>
    rw [both] at reading
    obtain ⟨here, later⟩ := Reading.both_eq_ok_iff.mp both
    exact ⟨parts.1, parts.2, (Except.ok.inj reading).symm, Reading.within_eq_ok_iff.mp here, later⟩

mutual

/-- What is read is canonical. -/
theorem canonical_of_read {description : Description} :
    ∀ value, read value = .ok description → description.Canonical
  | .map entries, reading =>
    canonical_of_ofEntries reading fun _ => canonical_of_readChildren entries
  | .scalar _, reading => nomatch reading
  | .list _, reading => nomatch reading
  | .set _, reading => nomatch reading
  | .pair .., reading => nomatch reading
  | .enclosingList, reading => nomatch reading
  | .enclosingMap, reading => nomatch reading

theorem canonical_of_readChildren {listed : List Description} :
    ∀ entries, readChildren entries = .ok listed → ∀ child ∈ listed, child.Canonical
  | [], reading => by
    obtain rfl := Except.ok.inj reading
    exact fun _ member => nomatch member
  | (name, value) :: rest, reading => by
    rw [readChildren] at reading
    split at reading
    · exact canonical_of_readItems value reading
    · exact canonical_of_readChildren rest reading

theorem canonical_of_readItems {listed : List Description} :
    ∀ value, readItems value = .ok listed → ∀ child ∈ listed, child.Canonical
  | .list items, reading => canonical_of_readList items reading
  | .set members, reading => by
    obtain rfl := readAll_notDescription reading
    exact fun _ member => nomatch member
  | .scalar _, reading => nomatch reading
  | .map _, reading => nomatch reading
  | .pair .., reading => nomatch reading
  | .enclosingList, reading => nomatch reading
  | .enclosingMap, reading => nomatch reading

theorem canonical_of_readList {index : Nat} {listed : List Description} :
    ∀ items, readList index items = .ok listed → ∀ child ∈ listed, child.Canonical
  | [], reading => by
    obtain rfl := Except.ok.inj reading
    exact fun _ member => nomatch member
  | item :: rest, reading => by
    obtain ⟨first, others, rfl, here, later⟩ := readList_cons_eq_ok reading
    exact List.forall_mem_cons.mpr ⟨canonical_of_read item here, canonical_of_readList rest later⟩

end

/-! ## Reading back -/

theorem readKind_name (kind : ScopeKind) : readKind (.text kind.name) = .ok kind := by
  cases kind <;> rfl

mutual

/-- The value that states all fields of a canonical description describes just that. -/
theorem read_toValue : ∀ description : Description, description.Canonical →
    read description.toValue = .ok description
  | ⟨name, kind, literals, children, least, greatest, alternating⟩,
      .intro writable named ordered childless bare below => by
    -- The entries are found by their names, each read by the rule of its field.
    have listed := readList_toValues 0 children below
    rw [toValue, read, ofEntries_eq_ok_iff]
    exact ⟨
      Field.required_of_lookup? rfl (Field.readName_text_iff.mpr ⟨rfl, writable, named⟩),
      Field.optional_of_lookup? rfl (readKind_name kind),
      Field.optional_of_lookup? rfl (Field.readAll_readText literals 0),
      listed,
      Field.optional_of_lookup? rfl (Field.readCount_of_nonneg ordered.1),
      Field.optional_of_lookup? rfl (Field.readCount_of_nonneg (ordered.1.trans ordered.2)),
      Field.optional_of_lookup? rfl rfl,
      breach?_eq_none_iff.mpr ⟨ordered.2, childless, bare⟩⟩

theorem readList_toValues (index : Nat) : ∀ descriptions : List Description,
    (∀ description ∈ descriptions, description.Canonical) →
      readList index (toValues descriptions) = .ok descriptions
  | [], _ => rfl
  | description :: rest, canonical => by
    obtain ⟨here, later⟩ := List.forall_mem_cons.mp canonical
    rw [toValues, readList, read_toValue description here, readList_toValues (index + 1) rest later]
    rfl

end

end Description

/-! ## Describing trees -/

namespace Tree

mutual

/-- The description that is read off a tree. -/
def describe : Tree → Description
  | literal name bounds pool =>
    { name, literals := pool, minOccurrences := bounds.least, maxOccurrences := bounds.greatest }
  | group name bounds alternating children =>
    { name, kind := .group, children := describeAll children, minOccurrences := bounds.least
      maxOccurrences := bounds.greatest, alternating }

def describeAll : List Tree → List Description
  | [] => []
  | tree :: rest => describe tree :: describeAll rest

end

mutual

/-- A tree is the one that its description describes. -/
theorem toTree_describe : ∀ tree : Tree, tree.describe.toTree = tree
  | literal .. => rfl
  | group name bounds alternating children => by
    rw [describe, Description.toTree, toTrees_describeAll children]

theorem toTrees_describeAll : ∀ trees : List Tree,
    Description.toTrees (describeAll trees) = trees
  | [] => rfl
  | tree :: rest => by
    rw [describeAll, Description.toTrees, toTree_describe tree, toTrees_describeAll rest]

end

end Tree

namespace Description

end Description

/-! ## Faults of scopes in order -/

namespace Dialogue

variable {σ α β : Type} {kind : ScopeFault → Prop}

/-- Whatever is answered, a dialogue fails only with faults of a kind. -/
def FailsOnly (kind : ScopeFault → Prop) : Dialogue α → Prop
  | finish _ => True
  | fail fault => kind fault
  | emit _ rest => rest.FailsOnly kind
  | tell _ rest => rest.FailsOnly kind
  | ask _ _ _ next => ∀ answer, (next answer).FailsOnly kind

theorem FailsOnly.bind {first : Dialogue α} {following : α → Dialogue β}
    (start : first.FailsOnly kind) (rest : ∀ result, (following result).FailsOnly kind) :
    (first >>= following).FailsOnly kind := by
  induction first with
  | finish result => exact rest result
  | fail fault => exact start
  | emit literal tail ih => exact ih start
  | tell notice tail ih => exact ih start
  | ask announcement low high next ih => exact fun answer => ih answer (start answer)

theorem FailsOnly.times {body : Dialogue Unit} (each : body.FailsOnly kind) (count : ℕ) :
    (times count body).FailsOnly kind := by
  induction count with
  | zero => trivial
  | succ count ih => exact each.bind fun _ => ih

theorem failsOnly_refuse {fault : Option ScopeFault}
    (among : ∀ found, fault = some found → kind found) : (refuse fault).FailsOnly kind := by
  cases fault with
  | none => trivial
  | some fault => exact among fault rfl

theorem failsOnly_settle (scope : Text) (bounds : Bounds) :
    (bounds.settle scope).FailsOnly kind := by
  rw [Bounds.settle]
  split
  · trivial
  · exact fun _ => trivial

theorem FailsOnly.repeated {limit : Option Int} {name : Text} {bounds : Bounds} {vacant : Prop}
    [Decidable vacant] {fault : ScopeFault} {notice : Int → Notice} {body : Dialogue Unit}
    (checked : ∀ found, bounds.fault? name limit = some found → kind found) (empty : kind fault)
    (each : body.FailsOnly kind) :
    (Dialogue.repeated limit name bounds vacant fault notice body).FailsOnly kind := by
  refine (failsOnly_refuse checked).bind fun _ => ?_
  split
  · trivial
  · split
    · exact empty
    · exact (failsOnly_settle name bounds).bind fun count => each.times count.toNat

end Dialogue

namespace Tree

variable {limit : Option Int} {kind : ScopeFault → Prop} {children : List Tree}

end Tree

/-! ## There and back -/

namespace Description

/-- A shout, as a mapping whose fields come in other forms: octets, a set, a truth value and a
numeral. -/
def shout : Value := .map [
  (.text "name", .scalar (.bytes [0x68, 0x65, 0x79])),
  (.text "literals", .set [.text "hey", .bytes [0x68, 0x6F]]),
  (.text "min_occurrences", .bool false),
  (.text "max_occurrences", .text "+02.0")]

def refrain : Value := .map [
  (.text "kind", .text "group"), (.text "name", .text "refrain"),
  (.text "children", .list [shout, shout]), (.text "alternating", .text "Yes")]

end Description

end PatternForge
