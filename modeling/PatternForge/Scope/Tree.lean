import PatternForge.Scope.Bounds

/-!
# Scope trees

A scope tree is what generation walks over: leaves that emit literals of their pools, and groups
that repeat their children.
-/

namespace PatternForge

/-- A scope and the scopes below it. -/
inductive Tree where
  /-- A leaf with its pool of literals. Duplicates count. -/
  | literal (name : Text) (bounds : Bounds) (pool : List Text)
  /-- A group. A repetition takes all children in order, or one of them when alternating. -/
  | group (name : Text) (bounds : Bounds) (alternating : Bool) (children : List Tree)

namespace Tree

def name : Tree → Text
  | literal name _ _ => name
  | group name _ _ _ => name

def bounds : Tree → Bounds
  | literal _ bounds _ => bounds
  | group _ bounds _ _ => bounds

/-- Induction on a tree: what holds of a group may be shown from the same of its children. -/
@[elab_as_elim]
theorem induct {motive : Tree → Prop}
    (literal : ∀ name bounds pool, motive (literal name bounds pool))
    (group : ∀ name bounds alternating children, (∀ child ∈ children, motive child) →
      motive (group name bounds alternating children)) :
    ∀ tree, motive tree
  | .literal name bounds pool => literal name bounds pool
  | .group name bounds alternating children =>
    group name bounds alternating children fun child _ => induct literal group child

mutual

/-- The scopes of a tree, each before those below it. -/
def scopes : Tree → List Tree
  | literal name bounds pool => [literal name bounds pool]
  | group name bounds alternating children =>
    group name bounds alternating children :: scopesAll children

def scopesAll : List Tree → List Tree
  | [] => []
  | tree :: rest => scopes tree ++ scopesAll rest

end

theorem mem_scopes_self (tree : Tree) : tree ∈ tree.scopes := by
  cases tree <;> exact List.mem_cons_self

theorem mem_scopesAll_iff {node : Tree} {children : List Tree} :
    node ∈ scopesAll children ↔ ∃ child ∈ children, node ∈ child.scopes := by
  induction children with
  | nil => exact iff_of_false List.not_mem_nil nofun
  | cons child rest ih =>
    simp only [scopesAll, List.mem_append, ih, List.mem_cons, exists_eq_or_imp]

/-- The scopes of a child are scopes of the group. -/
theorem mem_scopes_of_child {name : Text} {bounds : Bounds} {alternating : Bool}
    {children : List Tree} {child node : Tree} (member : child ∈ children)
    (below : node ∈ child.scopes) : node ∈ (group name bounds alternating children).scopes :=
  List.mem_cons_of_mem _ (mem_scopesAll_iff.mpr ⟨child, member, below⟩)

/-- The bounds of all scopes can be written, and so can the limit on them, if there is one. -/
def Writable (limit : Option Int) (tree : Tree) : Prop :=
  (∀ scope ∈ tree.scopes, scope.bounds.areWritable = true) ∧
    ∀ bound ∈ limit, Numeral.isWritable bound = true

end Tree

end PatternForge
