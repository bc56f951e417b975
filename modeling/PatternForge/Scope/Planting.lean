import PatternForge.Description
import PatternForge.Scope.Forest

/-!
# Planting descriptions

A description becomes scopes of a forest: one new scope for each place of the description, the
children attached to their group one after the other.
-/

namespace PatternForge.Description

mutual

/-- Makes the scopes of a description and gives the root of them. -/
def plant : Description → Forest → Except AttachFault (Forest × ScopeId)
  | ⟨name, .literal, literals, _, least, greatest, _⟩, forest =>
    let (forest, id) := forest.addLiteral name literals
    .ok (forest.setBounds id fun _ => ⟨least, greatest⟩, id)
  | ⟨name, .group, _, children, least, greatest, alternating⟩, forest => do
    let (forest, id) := forest.addGroup name alternating
    let forest ← plantAll id children forest
    .ok (forest.setBounds id fun _ => ⟨least, greatest⟩, id)

/-- Makes the scopes of some descriptions and attaches each to the group. -/
def plantAll (group : ScopeId) : List Description → Forest → Except AttachFault Forest
  | [], forest => .ok forest
  | description :: rest, forest => do
    let (forest, child) ← plant description forest
    plantAll group rest (← forest.attach group child)

end

mutual

/-- The tree that a description describes. -/
def toTree : Description → Tree
  | ⟨name, .literal, literals, _, least, greatest, _⟩ => .literal name ⟨least, greatest⟩ literals
  | ⟨name, .group, _, children, least, greatest, alternating⟩ =>
    .group name ⟨least, greatest⟩ alternating (toTrees children)

def toTrees : List Description → List Tree
  | [] => []
  | description :: rest => toTree description :: toTrees rest

end

end PatternForge.Description
