import Mathlib.NumberTheory.LucasPrimality
import Mathlib.Tactic.ReduceModChar
import Mathlib.Tactic.Simproc.Factors
import PatternForge.Proofs.Evenness

/-! # The period of a generator

The factor of a step is a primitive root of the prime (`MinimalStandard.orderOf_multiplier`), which
is checked at the prime factors of the prime less one. So the steps from a state lead through all
states before they come back (`MinimalStandard.bijOn_iterate_next`), and each request that is served
is one step (`MinimalStandard.course_periodic`).
-/

namespace PatternForge.MinimalStandard

/-! ## The factor as a primitive root -/

theorem primeFactorsList_pred_modulus :
    (modulus - 1).primeFactorsList = [2, 3, 3, 7, 11, 31, 151, 331] := by
  change (2147483646 : ℕ).primeFactorsList = _
  simp only [Nat.primeFactorsList_ofNat]

theorem multiplier_pow_pred_modulus : (multiplier : ZMod modulus) ^ (modulus - 1) = 1 := by
  have power : (16807 : ZMod 2147483647) ^ 2147483646 = 1 := by reduce_mod_char
  exact power

theorem multiplier_pow_ne_one {factor : ℕ} (prime : factor.Prime) (divides : factor ∣ modulus - 1) :
    (multiplier : ZMod modulus) ^ ((modulus - 1) / factor) ≠ 1 := by
  have member : factor ∈ (modulus - 1).primeFactorsList :=
    (Nat.mem_primeFactorsList (by decide)).mpr ⟨prime, divides⟩
  rw [primeFactorsList_pred_modulus] at member
  simp only [List.mem_cons, List.not_mem_nil, or_false] at member
  have power : (16807 : ZMod 2147483647) ^ (2147483646 / factor) ≠ 1 := by
    rcases member with rfl | rfl | rfl | rfl | rfl | rfl | rfl | rfl <;>
      · simp only [Nat.reduceDiv]
        reduce_mod_char
        decide
  exact power

theorem prime_modulus : modulus.Prime :=
  lucas_primality modulus multiplier multiplier_pow_pred_modulus fun _ => multiplier_pow_ne_one

theorem orderOf_multiplier : orderOf (multiplier : ZMod modulus) = modulus - 1 :=
  orderOf_eq_of_pow_and_pow_div_prime (by decide) multiplier_pow_pred_modulus
    fun _ => multiplier_pow_ne_one

/-! ## The orbit of a state -/

/-- A state is known by its residue modulo the prime. -/
theorem Unit.eq_iff {generator other : MinimalStandard} (unit : generator.Unit)
    (also : other.Unit) : generator = other ↔ (generator.state : ZMod modulus) = other.state := by
  refine ⟨fun same => by rw [same], fun same => ?_⟩
  rw [ZMod.natCast_eq_natCast_iff', Nat.mod_eq_of_lt unit.2, Nat.mod_eq_of_lt also.2] at same
  exact congrArg MinimalStandard.mk same

/-- So many steps multiply by so many factors. -/
theorem state_iterate_next (generator : MinimalStandard) (count : ℕ) :
    ((next^[count] generator).state : ZMod modulus) = generator.state * multiplier ^ count := by
  induction count with
  | zero => rw [Function.iterate_zero_apply, pow_zero, mul_one]
  | succ count ih =>
    rw [Function.iterate_succ_apply', next, ZMod.natCast_mod, Nat.cast_mul, ih, pow_succ, mul_assoc]

section Orbit

variable {generator : MinimalStandard} (unit : generator.Unit)
include unit

theorem unit_iterate_next (count : ℕ) : (next^[count] generator).Unit := by
  induction count with
  | zero => exact unit
  | succ count ih =>
    rw [Function.iterate_succ_apply']
    exact ih.next

/-- From a state, two numbers of steps lead to the same state exactly if they leave the same
remainder. -/
theorem iterate_next_eq_iff (first second : ℕ) :
    next^[first] generator = next^[second] generator ↔ first ≡ second [MOD modulus - 1] := by
  have : Fact modulus.Prime := ⟨prime_modulus⟩
  have nonzero : (generator.state : ZMod modulus) ≠ 0 := by
    rw [Ne, ZMod.natCast_eq_zero_iff]
    exact Nat.not_dvd_of_pos_of_lt unit.1 unit.2
  have finite : IsOfFinOrder (multiplier : ZMod modulus) :=
    orderOf_pos_iff.mp (orderOf_multiplier ▸ by decide)
  rw [(unit_iterate_next unit first).eq_iff (unit_iterate_next unit second), state_iterate_next,
    state_iterate_next, mul_right_inj' nonzero, finite.pow_eq_pow_iff_modEq, orderOf_multiplier]

/-- The states that the first steps lead to are all states, each of them once. -/
theorem bijOn_iterate_next :
    Set.BijOn (fun count => next^[count] generator) (Set.Iio (modulus - 1)) units := by
  have maps : Set.MapsTo (fun count => next^[count] generator) (Set.Iio (modulus - 1)) units :=
    fun count _ => unit_iterate_next unit count
  have injective : Set.InjOn (fun count => next^[count] generator) (Set.Iio (modulus - 1)) := by
    intro first below second also same
    exact ((iterate_next_eq_iff unit first second).mp same).eq_of_lt_of_lt below also
  have places : (Set.Iio (modulus - 1)).ncard = modulus - 1 := by
    rw [← Finset.coe_Iio, Set.ncard_coe_finset, Nat.card_Iio]
  have finite : units.Finite := Set.finite_of_ncard_ne_zero (by rw [ncard_units]; decide)
  have all : (fun count => next^[count] generator) '' Set.Iio (modulus - 1) = units :=
    Set.eq_of_subset_of_ncard_le maps.image_subset
      (by rw [injective.ncard_image, places, ncard_units]) finite
  exact ⟨maps, injective, all.superset⟩

end Orbit

/-! ## The course of a generator -/

/-- The generator after so many of a row of requests. -/
def course (requests : ℕ → Int × Int) (generator : MinimalStandard) : ℕ → MinimalStandard
  | 0 => generator
  | made + 1 => (draw (requests made).1 (requests made).2 (course requests generator made)).2

/-- Each request that is served is a step. -/
theorem course_eq_iterate {requests : ℕ → Int × Int}
    (served : ∀ number, rangeFault? top (requests number).1 (requests number).2 = none)
    (generator : MinimalStandard) : course requests generator = (next^[·] generator) := by
  funext made
  induction made with
  | zero => rfl
  | succ made ih => rw [course, ih, draw_of_served _ (served made), Function.iterate_succ_apply']

/-- A generator has the full period. From whatever seed it starts and whatever ranges are asked of
it, as long as it can serve them, it comes back to a state after `2 ^ 31 - 2` requests and multiples
of these, and at no other time; in between it visits every state once. -/
theorem course_periodic (seed : Int) (requests : ℕ → Int × Int)
    (served : ∀ number, rangeFault? top (requests number).1 (requests number).2 = none) :
    let states := course requests (ofSeed seed)
    Function.Periodic states (2 ^ 31 - 2) ∧
      (∀ first second, states first = states second ↔ first ≡ second [MOD 2 ^ 31 - 2]) ∧
      (∀ number, 1 ≤ (states number).state ∧ (states number).state ≤ 2 ^ 31 - 2) ∧
      ∀ state, 1 ≤ state → state ≤ 2 ^ 31 - 2 →
        ∃! number, number < 2 ^ 31 - 2 ∧ (states number).state = state := by
  intro states
  have unit : (ofSeed seed).Unit := unit_ofSeed seed
  have steps : states = (next^[·] (ofSeed seed)) := course_eq_iterate served (ofSeed seed)
  have returns (first second : ℕ) :
      states first = states second ↔ first ≡ second [MOD 2 ^ 31 - 2] := by
    rw [steps]
    exact iterate_next_eq_iff unit first second
  obtain ⟨maps, injective, surjective⟩ := bijOn_iterate_next unit
  rw [← steps] at maps injective surjective
  refine ⟨fun number => ?_, returns, fun number => ?_, ?_⟩
  · rw [returns]
    exact Nat.add_modEq_right
  · have visited : (states number).Unit := by
      rw [steps]
      exact unit_iterate_next unit number
    exact ⟨visited.1, Nat.le_sub_one_of_lt visited.2⟩
  · intro state positive below
    have listed : (⟨state⟩ : MinimalStandard) ∈ units :=
      ⟨positive, Nat.lt_of_le_pred (by decide) below⟩
    obtain ⟨number, inside, reached⟩ := surjective listed
    refine ⟨number, ⟨inside, congrArg MinimalStandard.state reached⟩, ?_⟩
    rintro other ⟨also, same⟩
    exact injective also inside ((congrArg MinimalStandard.mk same).trans reached.symm)

/-- A wheel and a die in turns, from a seed that counts as one. -/
theorem course_periodic_wheel :
    let requests : ℕ → Int × Int := fun number => if number % 2 = 0 then (0, 36) else (1, 6)
    let states := course requests (ofSeed 0)
    (∀ number, rangeFault? top (requests number).1 (requests number).2 = none) ∧
      states 0 = ⟨1⟩ ∧ states 2 = ⟨282475249⟩ ∧ states (2 ^ 31 - 2) = ⟨1⟩ ∧
      (∀ number, states number = states 2 ↔ number ≡ 2 [MOD 2 ^ 31 - 2]) ∧
      ∃! number, number < 2 ^ 31 - 2 ∧ (states number).state = 2 ^ 31 - 2 := by
  intro requests states
  have served : ∀ number, rangeFault? top (requests number).1 (requests number).2 = none := by
    intro number
    dsimp only [requests]
    split <;> rfl
  obtain ⟨periodic, returns, -, visits⟩ := course_periodic 0 requests served
  refine ⟨served, rfl, by decide, ?_, fun number => returns number 2, visits _ (by decide) le_rfl⟩
  have back := periodic 0
  rw [Nat.zero_add] at back
  exact back

end PatternForge.MinimalStandard
