import Mathlib.Algebra.Order.Floor.Div
import Mathlib.Data.Set.Card
import Mathlib.Order.Interval.Finset.Nat
import PatternForge.Proofs.Residues

/-! # Even shares

A generator scales its states onto a range. A step only moves the states around
(`MinimalStandard.bijOn_next`), and those that are scaled to one number stand side by side
(`filter_scaled`). So each number of a range has as many states as any other, but for one state more
or less (`MinimalStandard.ncard_statesFor_even`), and each is given from some seed, unless there are
more numbers than states (`MinimalStandard.exists_seed_iff`).
-/

namespace PatternForge

/-! ## Places scaled to parts -/

section Scaled

variable {count span part : ℕ}

/-- The places that are scaled to a part stand side by side, between two multiples of their
number. -/
theorem filter_scaled (occupied : 0 < count) (inside : part < span) :
    (Finset.range count).filter (fun place => place * span / count = part) =
      Finset.Ico (part * count ⌈/⌉ span) ((part + 1) * count ⌈/⌉ span) := by
  have wide : 0 < span := Nat.zero_lt_of_lt inside
  ext place
  have reach : place < (part + 1) * count ⌈/⌉ span ↔ place * span < (part + 1) * count := by
    rw [← not_le, ceilDiv_le_iff_le_mul wide, not_le, Nat.mul_comm]
  have least : part * count ⌈/⌉ span ≤ place ↔ part * count ≤ place * span := by
    rw [ceilDiv_le_iff_le_mul wide, Nat.mul_comm span]
  have scaled : place * span / count = part ↔
      part * count ≤ place * span ∧ place * span < (part + 1) * count := by
    rw [← Nat.le_div_iff_mul_le occupied, ← Nat.div_lt_iff_lt_mul occupied]
    omega
  have within : place * span < (part + 1) * count → place < count := by
    intro below
    have all : (part + 1) * count ≤ count * span := by
      rw [Nat.mul_comm count]
      exact Nat.mul_le_mul_right count inside
    exact Nat.lt_of_mul_lt_mul_right (Nat.lt_of_lt_of_le below all)
  rw [Finset.mem_filter, Finset.mem_range, Finset.mem_Ico, scaled, least, reach]
  constructor
  · rintro ⟨-, both⟩
    exact both
  · rintro ⟨lower, upper⟩
    exact ⟨within upper, lower, upper⟩

theorem ceilDiv_bounds (wide : 0 < span) (count : ℕ) :
    count ≤ span * (count ⌈/⌉ span) ∧ span * (count ⌈/⌉ span) < count + span := by
  refine ⟨le_smul_ceilDiv wide, ?_⟩
  have rounded : span * ((count + span - 1) / span) ≤ count + span - 1 := Nat.mul_div_le _ _
  rw [Nat.ceilDiv_eq_add_pred_div]
  omega

/-- A quotient rounded up is at most one more than rounded down. -/
theorem div_le_ceilDiv (wide : 0 < span) (count : ℕ) :
    count / span ≤ count ⌈/⌉ span ∧ count ⌈/⌉ span ≤ count / span + 1 := by
  rw [Nat.ceilDiv_eq_add_pred_div, ← Nat.add_div_right count wide]
  exact ⟨Nat.div_le_div_right (by omega), Nat.div_le_div_right (by omega)⟩

/-- Rounded up, two multiples that follow each other are a quotient apart, rounded down or up. -/
theorem ceilDiv_succ_mul (wide : 0 < span) (part count : ℕ) :
    (part + 1) * count ⌈/⌉ span - part * count ⌈/⌉ span = count / span ∨
      (part + 1) * count ⌈/⌉ span - part * count ⌈/⌉ span = count ⌈/⌉ span := by
  obtain ⟨first, last⟩ := ceilDiv_bounds wide (part * count)
  obtain ⟨next, final⟩ := ceilDiv_bounds wide ((part + 1) * count)
  obtain ⟨enough, -⟩ := ceilDiv_bounds wide count
  obtain ⟨-, close⟩ := div_le_ceilDiv wide count
  have floor : span * (count / span) ≤ count := Nat.mul_div_le count span
  have more : (part + 1) * count = part * count + count := Nat.succ_mul part count
  generalize (part + 1) * count ⌈/⌉ span = stop at *
  generalize part * count ⌈/⌉ span = start at *
  generalize count ⌈/⌉ span = most at *
  generalize count / span = least at *
  have atLeast : start + least < stop + 1 := by
    refine Nat.lt_of_mul_lt_mul_left (a := span) ?_
    rw [Nat.mul_add, Nat.mul_add, Nat.mul_one]
    omega
  have atMost : stop < start + most + 1 := by
    refine Nat.lt_of_mul_lt_mul_left (a := span) ?_
    rw [Nat.mul_add, Nat.mul_add, Nat.mul_one]
    omega
  omega

/-- Of so many places each part of the span has the same share, rounded down or up. -/
theorem card_filter_scaled (occupied : 0 < count) (inside : part < span) :
    ((Finset.range count).filter fun place => place * span / count = part).card = count / span ∨
      ((Finset.range count).filter fun place => place * span / count = part).card =
        count ⌈/⌉ span := by
  rw [filter_scaled occupied inside, Nat.card_Ico]
  exact ceilDiv_succ_mul (Nat.zero_lt_of_lt inside) part count

end Scaled

/-! ## The states of a generator -/

namespace MinimalStandard

/-- The states that a generator can be in. -/
def units : Set MinimalStandard :=
  {generator | generator.Unit}

/-- The factor of a step back. -/
def inverse : ℕ := 1407677000

def previous (generator : MinimalStandard) : MinimalStandard :=
  ⟨generator.state * inverse % modulus⟩

private theorem state_mul_mul {state factor back : ℕ} (below : state < modulus)
    (undone : factor * back % modulus = 1) :
    state * factor % modulus * back % modulus = state := by
  have same : factor * back ≡ 1 [MOD modulus] := undone
  calc state * factor % modulus * back % modulus
      = state * factor * back % modulus := (Nat.mod_modEq _ _).mul_right back
    _ = state * (factor * back) % modulus := by rw [Nat.mul_assoc]
    _ = state * 1 % modulus := same.mul_left state
    _ = state := by rw [Nat.mul_one, Nat.mod_eq_of_lt below]

theorem Unit.previous_next {generator : MinimalStandard} (unit : generator.Unit) :
    generator.next.previous = generator :=
  congrArg MinimalStandard.mk (state_mul_mul unit.2 (by decide))

theorem Unit.next_previous {generator : MinimalStandard} (unit : generator.Unit) :
    generator.previous.next = generator :=
  congrArg MinimalStandard.mk (state_mul_mul unit.2 (by decide))

theorem Unit.previous {generator : MinimalStandard} (unit : generator.Unit) :
    generator.previous.Unit := by
  refine ⟨Nat.pos_of_ne_zero fun zero => ?_, Nat.mod_lt _ (by decide)⟩
  have stuck : generator.previous.next.state = 0 := by
    rw [MinimalStandard.next, zero, Nat.zero_mul, Nat.zero_mod]
  rw [unit.next_previous] at stuck
  exact unit.1.ne' stuck

/-- A step moves the states around. -/
theorem bijOn_next : Set.BijOn next units units :=
  Set.InvOn.bijOn ⟨fun _ unit => unit.previous_next, fun _ unit => unit.next_previous⟩
    (fun _ unit => unit.next) fun _ unit => unit.previous

/-- The state at a place, counted from zero. -/
def atPlace (place : ℕ) : MinimalStandard :=
  ⟨place + 1⟩

theorem atPlace_injective : Function.Injective atPlace := by
  intro place other same
  exact Nat.succ.inj (congrArg state same)

theorem unit_atPlace_iff {place : ℕ} : (atPlace place).Unit ↔ place < modulus - 1 := by
  change 0 < place + 1 ∧ place + 1 < modulus ↔ _
  omega

theorem exists_atPlace {generator : MinimalStandard} (unit : generator.Unit) :
    ∃ place, generator = atPlace place :=
  ⟨generator.state - 1, congrArg MinimalStandard.mk (Nat.sub_add_cancel unit.1).symm⟩

theorem ncard_units : units.ncard = modulus - 1 := by
  have placed : units = atPlace '' (Finset.range (modulus - 1) : Set ℕ) := by
    ext generator
    rw [Set.mem_image]
    constructor
    · intro unit
      obtain ⟨place, rfl⟩ := exists_atPlace unit
      exact ⟨place, Finset.mem_coe.mpr (Finset.mem_range.mpr (unit_atPlace_iff.mp unit)), rfl⟩
    · rintro ⟨place, inside, rfl⟩
      exact unit_atPlace_iff.mpr (Finset.mem_range.mp (Finset.mem_coe.mp inside))
  rw [placed, Set.ncard_image_of_injective _ atPlace_injective, Set.ncard_coe_finset,
    Finset.card_range]

/-- The states from which a request is answered by a number. -/
def statesFor (low high value : Int) : Set MinimalStandard :=
  {generator ∈ units | (draw low high generator).1 = .ok (.int value)}

section Range

variable {low high : Int}

theorem scale_atPlace (order : low ≤ high) (place : ℕ) :
    (atPlace place).scale low high =
      low + ((place * (high - low + 1).toNat / (modulus - 1) : ℕ) : Int) := by
  have span : ((high - low + 1).toNat : Int) = high - low + 1 := Int.toNat_of_nonneg (by omega)
  have count : ((modulus - 1 : ℕ) : Int) = (modulus : Int) - 1 := rfl
  have shifted : ((atPlace place).state : Int) - 1 = place := by
    change ((place + 1 : ℕ) : Int) - 1 = place
    omega
  rw [scale, shifted, Int.natCast_ediv, Int.natCast_mul, span, count]

/-- A later state stands for no smaller number. -/
theorem scale_mono (order : low ≤ high) {generator further : MinimalStandard}
    (before : generator.state ≤ further.state) :
    generator.scale low high ≤ further.scale low high := by
  have wide : 0 ≤ high - low + 1 := by omega
  have place : (generator.state : Int) - 1 ≤ (further.state : Int) - 1 := by omega
  exact Int.add_le_add_left
    (Int.ediv_le_ediv (by decide) (Int.mul_le_mul_of_nonneg_right place wide)) low

/-- After a step, the states from which a number is given are those at the places that are scaled to
it. -/
theorem image_next_statesFor (served : rangeFault? top low high = none) {value : Int}
    (lower : low ≤ value) :
    next '' statesFor low high value =
      atPlace '' ((Finset.range (modulus - 1)).filter fun place =>
        place * (high - low + 1).toNat / (modulus - 1) = (value - low).toNat : Finset ℕ) := by
  obtain ⟨-, order, -⟩ := rangeFault?_eq_none_iff.mp served
  have answered (generator : MinimalStandard) :
      (draw low high generator).1 = .ok (.int value) ↔
        generator.next.scale low high = value := by
    simp only [draw_of_served generator served, Except.ok.injEq, Value.scalar.injEq,
      Scalar.int.injEq]
  have scaled (place : ℕ) : (atPlace place).scale low high = value ↔
      place * (high - low + 1).toNat / (modulus - 1) = (value - low).toNat := by
    rw [scale_atPlace order]
    omega
  ext generator
  simp only [Set.mem_image, Finset.mem_coe, Finset.mem_filter, Finset.mem_range]
  constructor
  · rintro ⟨before, ⟨unit, drawn⟩, rfl⟩
    obtain ⟨place, stands⟩ := exists_atPlace unit.next
    have inside : (atPlace place).Unit := stands ▸ unit.next
    refine ⟨place, ⟨unit_atPlace_iff.mp inside, (scaled place).mp ?_⟩, stands.symm⟩
    rw [← stands]
    exact (answered before).mp drawn
  · rintro ⟨place, ⟨inside, part⟩, rfl⟩
    have unit : (atPlace place).Unit := unit_atPlace_iff.mpr inside
    refine ⟨(atPlace place).previous, ⟨unit.previous, (answered _).mpr ?_⟩, unit.next_previous⟩
    rw [unit.next_previous]
    exact (scaled place).mpr part

/-- Every number of a range has the same share of the states, rounded down or up. -/
theorem ncard_statesFor (served : rangeFault? top low high = none) {value : Int}
    (lower : low ≤ value) (upper : value ≤ high) :
    (statesFor low high value).ncard = (modulus - 1) / (high - low + 1).toNat ∨
      (statesFor low high value).ncard = (modulus - 1) ⌈/⌉ (high - low + 1).toNat := by
  have injective : Set.InjOn next (statesFor low high value) :=
    bijOn_next.injOn.mono (Set.sep_subset _ _)
  rw [← injective.ncard_image, image_next_statesFor served lower,
    Set.ncard_image_of_injective _ atPlace_injective, Set.ncard_coe_finset]
  exact card_filter_scaled (by decide) (by omega)

end Range

/-- A generator shares its states out evenly among the numbers of a range that it can serve: each
number is given from as many states, rounded down or up, so that none has more than one state more
than another. The number that is given rises with the state after the step. -/
theorem ncard_statesFor_even (low high : Int) (served : rangeFault? top low high = none) :
    let span := (high - low + 1).toNat
    units.ncard = 2 ^ 31 - 2 ∧
      (∀ value, low ≤ value → value ≤ high →
        (statesFor low high value).ncard = (2 ^ 31 - 2) / span ∨
          (statesFor low high value).ncard = (2 ^ 31 - 2) ⌈/⌉ span) ∧
      (∀ value other, low ≤ value → value ≤ high → low ≤ other → other ≤ high →
        (statesFor low high value).ncard ≤ (statesFor low high other).ncard + 1) ∧
      ∀ generator ∈ units, ∀ further ∈ units, generator.next.state ≤ further.next.state →
        ∃ value more, (draw low high generator).1 = .ok (.int value) ∧
          (draw low high further).1 = .ok (.int more) ∧ value ≤ more := by
  intro span
  obtain ⟨-, order, -⟩ := rangeFault?_eq_none_iff.mp served
  refine ⟨ncard_units, fun value => ncard_statesFor served, ?_, ?_⟩
  · intro value other lower upper least greatest
    have wide : 0 < (high - low + 1).toNat := by omega
    obtain ⟨down, up⟩ := div_le_ceilDiv wide (modulus - 1)
    have first := ncard_statesFor served lower upper
    have second := ncard_statesFor served least greatest
    omega
  · intro generator _ further _ before
    refine ⟨_, _, congrArg Prod.fst (draw_of_served generator served),
      congrArg Prod.fst (draw_of_served further served), scale_mono order before⟩

/-- A die of four sides shares out an even number of states that is no multiple of four. Of the
widest range a number has one state or none. -/
theorem ncard_statesFor_even_die :
    rangeFault? top 1 4 = none ∧ rangeFault? top 0 (2 ^ 31 - 2) = none ∧
      ((statesFor 1 4 3).ncard = 536870911 ∨ (statesFor 1 4 3).ncard = 536870912) ∧
      (statesFor 1 4 3).ncard ≤ (statesFor 1 4 1).ncard + 1 ∧
      ((statesFor 0 (2 ^ 31 - 2) 7).ncard = 0 ∨ (statesFor 0 (2 ^ 31 - 2) 7).ncard = 1) := by
  obtain ⟨-, shares, close, -⟩ := ncard_statesFor_even 1 4 rfl
  obtain ⟨-, scarce, -⟩ := ncard_statesFor_even 0 (2 ^ 31 - 2) rfl
  exact ⟨rfl, rfl, shares 3 (by decide) (by decide),
    close 3 1 (by decide) (by decide) (by decide) (by decide), scarce 7 (by decide) (by decide)⟩

/-! ## Numbers that are given at all -/

/-- Every state is the one that some seed leads to: the seed of its own number. -/
theorem Unit.ofSeed_state {generator : MinimalStandard} (unit : generator.Unit) :
    ofSeed generator.state = generator := by
  have reduced : ((generator.state : Int) % modulus).toNat = generator.state := by
    rw [← Int.natCast_emod, Int.toNat_natCast, Nat.mod_eq_of_lt unit.2]
  refine congrArg MinimalStandard.mk ?_
  rw [reduced, if_neg unit.1.ne']

theorem exists_seed_iff_nonempty (low high value : Int) :
    (∃ seed : Int, (draw low high (ofSeed seed)).1 = .ok (.int value)) ↔
      (statesFor low high value).Nonempty := by
  constructor
  · rintro ⟨seed, drawn⟩
    exact ⟨ofSeed seed, unit_ofSeed seed, drawn⟩
  · rintro ⟨generator, unit, drawn⟩
    exact ⟨generator.state, by rw [unit.ofSeed_state, drawn]⟩

/-- A range of no more numbers than there are states leaves none of them out. -/
theorem statesFor_nonempty {low high value : Int} (served : rangeFault? top low high = none)
    (lower : low ≤ value) (upper : value ≤ high) (narrow : high - low < top) :
    (statesFor low high value).Nonempty := by
  have wide : 0 < (high - low + 1).toNat := by omega
  have fits : (high - low + 1).toNat ≤ modulus - 1 := by
    rw [top] at narrow
    rw [modulus]
    omega
  have share : 0 < (modulus - 1) / (high - low + 1).toNat := Nat.div_pos fits wide
  obtain ⟨rounded, -⟩ := div_le_ceilDiv wide (modulus - 1)
  have shares := ncard_statesFor served lower upper
  exact Set.nonempty_of_ncard_ne_zero (by omega)

/-- On the widest range a state stands for its own place. -/
theorem Unit.scale_widest {generator : MinimalStandard} (unit : generator.Unit) :
    generator.scale 0 top = generator.state - 1 := by
  obtain ⟨place, rfl⟩ := exists_atPlace unit
  have inside : place < modulus - 1 := unit_atPlace_iff.mp unit
  have span : (top - 0 + 1).toNat = (modulus - 1) + 1 := rfl
  have self : place * ((modulus - 1) + 1) / (modulus - 1) = place := by
    rw [Nat.mul_succ, Nat.add_comm, Nat.add_mul_div_right _ _ (by decide),
      Nat.div_eq_of_lt inside, Nat.zero_add]
  rw [scale_atPlace (by decide), span, self]
  change 0 + (place : Int) = ((place + 1 : ℕ) : Int) - 1
  omega

/-- On the widest range a step gives the place that it comes to. -/
theorem Unit.draw_widest {generator : MinimalStandard} (unit : generator.Unit) :
    MinimalStandard.draw 0 top generator =
      (.ok (.int (generator.next.state - 1)), generator.next) := by
  rw [draw_of_served generator rfl, unit.next.scale_widest]

/-- A generator can give any number of a range that it serves, from a seed of its own each, but for
the greatest number of the widest range: there are as many numbers less one as there are states. -/
theorem exists_seed_iff (low high value : Int) :
    (∃ seed : Int, (draw low high (ofSeed seed)).1 = .ok (.int value)) ↔
      (0 ≤ low ∧ low ≤ value ∧ value ≤ high ∧ high ≤ top) ∧ ¬(low = 0 ∧ value = top) := by
  constructor
  · rintro ⟨seed, drawn⟩
    have unit : (ofSeed seed).Unit := unit_ofSeed seed
    cases checked : rangeFault? top low high with
    | some fault =>
      rw [draw_of_refused _ checked] at drawn
      cases drawn
    | none =>
      obtain ⟨sign, order, reach⟩ := rangeFault?_eq_none_iff.mp checked
      obtain ⟨lower, upper⟩ := unit.next.scale_mem order
      rw [draw_of_served _ checked] at drawn
      obtain rfl : (ofSeed seed).next.scale low high = value := by
        simpa only [Except.ok.injEq, Value.scalar.injEq, Scalar.int.injEq] using drawn
      refine ⟨⟨sign, lower, upper, reach⟩, ?_⟩
      rintro ⟨rfl, greatest⟩
      obtain rfl : high = top := Int.le_antisymm reach (greatest ▸ upper)
      have below := unit.next.2
      rw [unit.next.scale_widest, top] at greatest
      rw [modulus] at below
      omega
  · rintro ⟨⟨sign, lower, upper, reach⟩, given⟩
    have served : rangeFault? top low high = none :=
      rangeFault?_eq_none_iff.mpr ⟨sign, lower.trans upper, reach⟩
    rw [exists_seed_iff_nonempty]
    by_cases narrow : high - low < top
    · exact statesFor_nonempty served lower upper narrow
    · -- The range is the widest one, and the number stands at a place.
      obtain ⟨rfl, rfl⟩ : low = 0 ∧ high = top := by omega
      have inside : value.toNat < modulus - 1 := by
        rw [top] at upper given
        rw [modulus]
        omega
      have unit : (atPlace value.toNat).Unit := unit_atPlace_iff.mpr inside
      refine ⟨(atPlace value.toNat).previous, unit.previous, ?_⟩
      rw [unit.previous.draw_widest, unit.next_previous]
      change Except.ok (Value.int (((value.toNat + 1 : ℕ) : Int) - 1)) = _
      rw [show ((value.toNat + 1 : ℕ) : Int) - 1 = value by omega]

/-- The greatest number of a generator is in a range that it serves, but is not drawn from any seed.
The one seed that leads to the last state gives the number before it. -/
theorem top_not_drawn :
    rangeFault? top 0 top = none ∧
      draw 0 top (ofSeed 739806647) = (.ok (.int (top - 1)), ⟨modulus - 1⟩) ∧
      ∀ seed : Int, (draw 0 top (ofSeed seed)).1 ≠ .ok (.int top) := by
  refine ⟨rfl, rfl, ?_⟩
  intro seed drawn
  have unit : (ofSeed seed).Unit := unit_ofSeed seed
  have below := unit.next.2
  rw [unit.draw_widest] at drawn
  simp only [Except.ok.injEq, Value.scalar.injEq, Scalar.int.injEq, top] at drawn
  rw [modulus] at below
  omega

end MinimalStandard

end PatternForge
