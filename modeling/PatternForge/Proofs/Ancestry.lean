import PatternForge.Proofs.Histories

/-! # Ancestry

Attaching a scope asks whether the group stands below it, and finds out by a search down the child
lists. In a strict hierarchy the way up from the group, from parent to parent, tells the same
(`Forest.Strict.holds_iff_mem_ancestors`): a scope on the way up encloses more than the one before,
so the way ends after as many steps as there are scopes. Together with the question whether the
scope has a group this decides about an attachment, and nothing that would have left the hierarchy
strict is refused (`Forest.Strict.attach_eq_ok_iff_link`).
-/

namespace PatternForge

namespace Forest

/-- The scopes above a scope, from parent to parent, within so many levels. -/
def ancestorsWithin (forest : Forest) : Nat → ScopeId → List ScopeId
  | 0, _ => []
  | levels + 1, id =>
    match forest.parentOf id with
    | some parent => parent :: ancestorsWithin forest levels parent
    | none => []

/-- The scopes above a scope, from parent to parent. No way up is longer than the number of
scopes. -/
def ancestors (forest : Forest) (id : ScopeId) : List ScopeId :=
  forest.ancestorsWithin forest.nodes.size id

variable {forest : Forest} {group child above below id : ScopeId}

/-- A scope that is the group, or stands above it, closes a circle when it is put there. -/
theorem not_strict_link_of_above (grouping : forest.isGroup group = true)
    (around : child = group ∨ forest.Encloses child group) : ¬(forest.link group child).Strict := by
  intro linked
  have last : (forest.link group child).Lists group child :=
    (lists_link grouping).mpr (.inr ⟨rfl, rfl⟩)
  rcases around with rfl | encloses
  · exact linked.acyclic child (.single last)
  · have way : (forest.link group child).Encloses child group :=
      Relation.TransGen.mono (fun _ _ lists => (lists_link grouping).mpr (.inl lists)) _ _ encloses
    exact linked.acyclic child (way.tail last)

namespace Strict

variable (strict : forest.Strict)
include strict

/-- The way up comes to all scopes above if the levels and the scopes below make up all scopes. -/
theorem mem_ancestorsWithin_iff {levels : ℕ}
    (enough : forest.nodes.size ≤ levels + (forest.enclosed id).ncard) :
    above ∈ forest.ancestorsWithin levels id ↔ forest.Encloses above id := by
  induction levels generalizing id with
  | zero =>
    refine iff_of_false List.not_mem_nil fun encloses => ?_
    obtain ⟨parent, -, lists⟩ := Relation.TransGen.tail'_iff.mp encloses
    have fewer := strict.ncard_enclosed_lt_size (strict.lt_size_of_listed lists)
    omega
  | succ levels ih =>
    rw [ancestorsWithin]
    cases named : forest.parentOf id with
    | none =>
      refine iff_of_false List.not_mem_nil fun encloses => ?_
      obtain ⟨parent, -, lists⟩ := Relation.TransGen.tail'_iff.mp encloses
      have linked := (strict.linked parent id).mpr lists
      rw [named] at linked
      cases linked
    | some parent =>
      have lists : forest.Lists parent id := (strict.linked parent id).mp named
      have less := strict.ncard_enclosed_lt lists
      have further : above ∈ forest.ancestorsWithin levels parent ↔ forest.Encloses above parent :=
        ih (by omega)
      rw [List.mem_cons, further]
      constructor
      · rintro (rfl | encloses)
        · exact .single lists
        · exact .tail encloses lists
      · intro encloses
        obtain ⟨other, way, last⟩ := Relation.TransGen.tail'_iff.mp encloses
        obtain rfl : other = parent := strict.unique last lists
        rcases Relation.reflTransGen_iff_eq_or_transGen.mp way with same | encloses
        · exact .inl same.symm
        · exact .inr encloses

theorem mem_ancestors_iff : above ∈ forest.ancestors id ↔ forest.Encloses above id :=
  strict.mem_ancestorsWithin_iff (Nat.le_add_right _ _)

/-- The search down the child lists and the way up the parents agree. -/
theorem holds_iff_mem_ancestors :
    forest.holds above below = true ↔ above ∈ forest.ancestors below := by
  rw [strict.holds_iff, strict.mem_ancestors_iff]

/-- A scope that has a group is listed twice when it is put into one, there or in two places. -/
theorem not_strict_link_of_parent (grouping : forest.isGroup group = true) {parent : ScopeId}
    (named : forest.parentOf child = some parent) : ¬(forest.link group child).Strict := by
  intro linked
  have listed : forest.Lists parent child := (strict.linked parent child).mp named
  have still : (forest.link group child).Lists parent child :=
    (lists_link grouping).mpr (.inl listed)
  have last : (forest.link group child).Lists group child :=
    (lists_link grouping).mpr (.inr ⟨rfl, rfl⟩)
  obtain rfl : parent = group := linked.unique still last
  have twice := linked.once parent
  rw [childrenOf_link grouping, Function.update_self] at twice
  exact (List.nodup_append.mp twice).2.2 child listed child (List.mem_singleton_self child) rfl

/-- What an attachment comes to is decided by the scopes above the group and the scope's own group;
a circle is reported first. -/
theorem attach_eq (group child : ScopeId) : forest.attach group child =
    if child ∈ group :: forest.ancestors group then
      .error (.cycle (forest.nameOf child) (forest.nameOf group))
    else
      match forest.parentOf child with
      | some parent => .error (.attached (forest.nameOf child) (forest.nameOf parent))
      | none => .ok (forest.link group child) := by
  have searched : (child == group || forest.holds child group) = true ↔
      child ∈ group :: forest.ancestors group := by
    rw [Bool.or_eq_true, beq_iff_eq, strict.holds_iff_mem_ancestors, List.mem_cons]
  rw [Forest.attach]
  exact if_congr searched rfl rfl

theorem attach_eq_cycle_iff :
    forest.attach group child = .error (.cycle (forest.nameOf child) (forest.nameOf group)) ↔
      child ∈ group :: forest.ancestors group := by
  rw [strict.attach_eq]
  split
  · next around => simp only [around]
  · next outside => cases forest.parentOf child <;> simp [outside]

theorem attach_eq_attached_iff :
    (∃ parent, forest.parentOf child = some parent ∧ forest.attach group child =
      .error (.attached (forest.nameOf child) (forest.nameOf parent))) ↔
      child ∉ group :: forest.ancestors group ∧ forest.parentOf child ≠ none := by
  rw [strict.attach_eq]
  split
  · next around => simp [around]
  · next outside => cases forest.parentOf child <;> simp [outside]

theorem attach_eq_link_iff : forest.attach group child = .ok (forest.link group child) ↔
    child ∉ group :: forest.ancestors group ∧ forest.parentOf child = none := by
  rw [strict.attach_eq]
  split
  · next around => simp [around]
  · next outside => cases forest.parentOf child <;> simp [outside]

/-- An attachment is made exactly if the hierarchy stays strict with it. -/
theorem attach_eq_ok_iff_link (grouping : forest.isGroup group = true)
    (made : forest.isMade child = true) :
    (∃ after, forest.attach group child = .ok after) ↔ (forest.link group child).Strict := by
  constructor
  · rintro ⟨after, attached⟩
    obtain ⟨-, -, -, rfl⟩ := attach_eq_ok_iff.mp attached
    exact strict.attach made grouping attached
  · intro linked
    refine ⟨_, strict.attach_eq_link_iff.mpr ⟨?_, ?_⟩⟩
    · rw [List.mem_cons, strict.mem_ancestors_iff]
      exact fun around => not_strict_link_of_above grouping around linked
    · cases named : forest.parentOf child with
      | none => rfl
      | some parent => exact absurd linked (strict.not_strict_link_of_parent grouping named)

end Strict

end Forest

namespace Work

variable {shop : Workshop} {group child : ScopeId}

theorem run_attach_eq_error_iff {fault : AttachFault} :
    (attach group child).run.run shop = (.error (.attach fault), shop) ↔
      shop.forest.attach group child = .error fault := by
  rw [run_attach]
  cases shop.forest.attach group child with
  | error reason =>
    constructor
    · intro same
      cases same
      rfl
    · intro same
      cases same
      rfl
  | ok after => exact iff_of_false nofun nofun

theorem run_attach_eq_ok_iff {after : Forest} :
    (attach group child).run.run shop = (.ok (), { shop with forest := after }) ↔
      shop.forest.attach group child = .ok after := by
  rw [run_attach]
  cases shop.forest.attach group child with
  | error reason => exact iff_of_false nofun nofun
  | ok linked =>
    constructor
    · intro same
      cases same
      rfl
    · intro same
      cases same
      rfl

theorem run_attach_ok_iff : ((attach group child).run.run shop).1 = .ok () ↔
    ∃ after, shop.forest.attach group child = .ok after := by
  rw [run_attach]
  cases shop.forest.attach group child with
  | error reason => exact iff_of_false nofun nofun
  | ok linked => exact iff_of_true rfl ⟨linked, rfl⟩

end Work

namespace Workshop

/-- Whatever was done with the scopes of a workshop that had none at first, attaching decides
exactly. It reports a circle if the scope is the group or stands above it at any depth, which is to
say, on the way up from the group; if not, it reports the group that the scope has; and if there is
none, it attaches. So it attaches whatever leaves the hierarchy strict, and nothing else, and the
search that it makes agrees with the way up. -/
theorem attach_decides_of_history (start : Workshop) (bare : start.forest = {})
    (history : List ScopeOperation) :
    let shop := start.afterAll history
    let forest := shop.forest
    (∀ above below levels, forest.nodes.size ≤ levels →
      (forest.holdsWithin levels above below = true ↔ above ∈ forest.ancestors below)) ∧
      ∀ group child, forest.isGroup group = true → forest.isMade child = true →
        let answer := (Work.attach group child).run.run shop
        let around := child = group ∨ forest.Encloses child group
        (around ↔ child ∈ group :: forest.ancestors group) ∧
          (answer = (.error (.attach (.cycle (forest.nameOf child) (forest.nameOf group))), shop) ↔
            around) ∧
          ((∃ parent, forest.parentOf child = some parent ∧
              answer = (.error (.attach (.attached (forest.nameOf child) (forest.nameOf parent))),
                shop)) ↔ ¬around ∧ forest.parentOf child ≠ none) ∧
          (answer = (.ok (), { shop with forest := forest.link group child }) ↔
            ¬around ∧ forest.parentOf child = none) ∧
          (answer.1 = .ok () ↔ (forest.link group child).Strict) := by
  intro shop forest
  have strict : forest.Strict := by
    apply strict_afterAll _ history
    rw [bare]
    exact strict_empty
  refine ⟨?_, ?_⟩
  · intro above below levels enough
    rw [strict.holdsWithin_iff enough, strict.mem_ancestors_iff]
  · intro group child grouping made answer around
    have above : around ↔ child ∈ group :: forest.ancestors group := by
      simp only [around, List.mem_cons, strict.mem_ancestors_iff]
    refine ⟨above, ?_, ?_, ?_, ?_⟩
    · rw [above, ← strict.attach_eq_cycle_iff]
      exact Work.run_attach_eq_error_iff
    · rw [above, ← strict.attach_eq_attached_iff]
      exact exists_congr fun parent => and_congr_right fun _ => Work.run_attach_eq_error_iff
    · rw [above, ← strict.attach_eq_link_iff]
      exact Work.run_attach_eq_ok_iff
    · rw [← strict.attach_eq_ok_iff_link grouping made]
      exact Work.run_attach_ok_iff

/-- A verse of a song, and its lines. The lines cannot hold the song, which stands two levels above
them; a line that is in a group can be put in no second one, and a new line in any. -/
theorem attach_decides_of_history_verse :
    let history : List ScopeOperation :=
      [.makeGroup "song" false, .makeGroup "verse" false, .makeGroup "lines" true,
        .makeLiteral "line" ["la"], .makeLiteral "more" ["lo"], .attach 0 1, .attach 1 2,
        .attach 2 3]
    let shop := ({} : Workshop).afterAll history
    shop.forest.ancestors 2 = [1, 0] ∧
      (Work.attach 2 0).run.run shop = (.error (.attach (.cycle "song" "lines")), shop) ∧
      (Work.attach 1 3).run.run shop = (.error (.attach (.attached "line" "lines")), shop) ∧
      ((Work.attach 2 4).run.run shop).1 = .ok () ∧ (shop.forest.link 2 4).Strict := by
  intro history shop
  obtain ⟨-, decides⟩ := attach_decides_of_history {} rfl history
  have above : shop.forest.ancestors 2 = [1, 0] := by decide
  obtain ⟨around, reported, -⟩ := decides 2 0 (by decide) (by decide)
  obtain ⟨outside, -, named, -⟩ := decides 1 3 (by decide) (by decide)
  obtain ⟨apart, -, -, attached, accepted⟩ := decides 2 4 (by decide) (by decide)
  have circle := reported.mpr (around.mpr (by decide))
  obtain ⟨parent, is, taken⟩ := named.mpr
    ⟨fun inside => absurd (outside.mp inside) (by decide), by decide⟩
  obtain rfl : 2 = parent := Option.some.inj (Eq.trans (by decide) is)
  have free := attached.mpr ⟨fun inside => absurd (apart.mp inside) (by decide), by decide⟩
  have ended := congrArg Prod.fst free
  exact ⟨above, circle, taken, ended, accepted.mp ended⟩

end Workshop

end PatternForge
