import PatternForge.Proofs.Scripting
import PatternForge.Proofs.Course
import Mathlib.Algebra.BigOperators.Fin
import Mathlib.Data.Fintype.BigOperators
import Mathlib.Data.Set.Card

/-! # The weights of literals

A leaf picks each literal by its place in the pool, so a literal that stands there several times is
picked at each of its places. The places of a run may be told by a script: then the run takes the
course that they make (`Dialogue.Course.literal`), and it emits what stands at them. Of all lists of
places as many emit some given literals as the product of their multiplicities tells
(`ncard_places`), since what is picked in one repetition leaves the others free.
-/

namespace PatternForge

/-- The answers that settle on a number of repetitions; bounds that are fixed ask for none. -/
def Bounds.settling (bounds : Bounds) (count : ℕ) : List Int :=
  if bounds.least < bounds.greatest then [(count : Int)] else []

namespace Dialogue.Course

variable {limit : Option Int} {name : Text} {bounds : Bounds} {pool : List Text} {count : ℕ}

theorem settle (scope : Text) (lower : bounds.least ≤ count) (upper : count ≤ bounds.greatest) :
    Course (bounds.settle scope) (bounds.settling count) [] count := by
  by_cases fixed : bounds.least = bounds.greatest
  · have same : bounds.least = count := by omega
    rw [Bounds.settle, Bounds.settling, if_pos fixed, if_neg (by omega), same]
    exact .finish _
  · rw [Bounds.settle, Bounds.settling, if_neg fixed, if_pos (by omega)]
    exact .ask lower upper (.finish _)

/-- A scope that is in order repeats what it repeats as often as it is told. -/
theorem repeated {vacant : Prop} [Decidable vacant] {body : Dialogue Unit} {answers : List Int}
    {fragments : List Text} (ordered : bounds.Ordered)
    (within : ∀ bound ∈ limit, bounds.greatest ≤ bound) (occupied : ¬vacant)
    (lower : bounds.least ≤ count) (upper : count ≤ bounds.greatest)
    (course : Course (times count body) answers fragments ()) (fault : ScopeFault)
    (notice : Int → Notice) :
    Course (Dialogue.repeated limit name bounds vacant fault notice body)
      (bounds.settling count ++ answers) fragments () := by
  have sound : bounds.fault? name limit = none :=
    Bounds.fault?_eq_none_iff.mpr ⟨ordered, within⟩
  rw [Dialogue.repeated, sound]
  change Course (if bounds.greatest = 0 then _ else _) _ _ _
  by_cases silent : bounds.greatest = 0
  · -- Nothing is asked, and no repetition is all that there can be.
    obtain rfl : count = 0 := by omega
    have settled : bounds.settling 0 = [] := if_neg (by have := ordered.1; omega)
    rwa [if_pos silent, settled]
  · rw [if_neg silent, if_neg occupied]
    exact (settle name lower upper).bind (.tell course)

theorem pick (name : Text) (pool : List Text) (place : Fin pool.length) :
    Course (Dialogue.pick name pool) [(place : Int)] [pool[place]] () := by
  have inside := place.isLt
  refine .ask (by omega) (by omega) ?_
  rw [Int.toNat_natCast, ← List.getElem_eq_getD (h := inside) []]
  exact .emit (.finish ())

/-- Each place is one repetition. -/
theorem picks (name : Text) (pool : List Text) (places : List (Fin pool.length)) :
    Course (times places.length (Dialogue.pick name pool))
      (places.map fun place : Fin pool.length => (place : Int))
      (places.map fun place => pool[place]) () := by
  induction places with
  | nil => exact .finish ()
  | cons place rest ih => exact (pick name pool place).bind ih

/-- The places of a pool make a course through the leaf. -/
theorem literal (name : Text) (stocked : pool ≠ []) (ordered : bounds.Ordered)
    (within : ∀ bound ∈ limit, bounds.greatest ≤ bound) (places : List (Fin pool.length))
    (lower : bounds.least ≤ places.length) (upper : places.length ≤ bounds.greatest) :
    Course ((Tree.literal name bounds pool).dialogue limit)
      (bounds.settling places.length ++ places.map fun place : Fin pool.length => (place : Int))
      (places.map fun place => pool[place]) () :=
  repeated ordered within (mt List.isEmpty_iff.mp stocked) lower upper (picks name pool places) _ _

end Dialogue.Course

/-! ## Counting places -/

section Counting

variable {pool : List Text}

/-- A text stands at as many places as the pool has it. -/
theorem card_places (pool : List Text) (literal : Text) :
    (Finset.univ.filter fun place : Fin pool.length => pool[place] = literal).card =
      pool.count literal := by
  rw [lawful_beq_subsingleton List.instBEq (instBEqOfDecidableEq (α := Text))]
  exact Fin.card_filter_univ_eq_vector_get_eq_count literal ⟨pool, rfl⟩

/-- The lists of places at which some literals stand are as many as the product of how often each of
them stands in the pool. -/
theorem ncard_places (pool fragments : List Text) :
    {places : Fin fragments.length → Fin pool.length |
        (List.ofFn fun repetition => pool[places repetition]) = fragments}.ncard =
      (fragments.map (pool.count ·)).prod := by
  let standing (repetition : Fin fragments.length) : Finset (Fin pool.length) :=
    Finset.univ.filter fun place => pool[place] = fragments[repetition]
  have free : {places : Fin fragments.length → Fin pool.length |
      (List.ofFn fun repetition => pool[places repetition]) = fragments} =
        Fintype.piFinset standing := by
    ext places
    have same : (List.ofFn fun repetition => pool[places repetition]) = fragments ↔
        ∀ repetition, pool[places repetition] = fragments[repetition] := by
      conv_lhs => rhs; rw [← @List.ofFn_getElem _ fragments]
      rw [List.ofFn_inj, funext_iff]
      rfl
    simp only [Set.mem_ofPred_eq, same, Finset.mem_coe, Fintype.mem_piFinset, standing,
      Finset.mem_filter, Finset.mem_univ, true_and]
  calc
    _ = ∏ repetition, (standing repetition).card := by
      rw [free, Set.ncard_coe_finset, Fintype.card_piFinset]
    _ = ∏ repetition, pool.count fragments[repetition] :=
      Finset.prod_congr rfl fun repetition _ => card_places pool _
    _ = (fragments.map (pool.count ·)).prod := by
      rw [← List.prod_ofFn]
      conv_rhs => rw [← @List.ofFn_getElem _ fragments, List.map_ofFn]
      rfl

end Counting

/-! ## Scripts of places -/

/-- A script that settles on as many repetitions as there are places, and tells the places. -/
def Bounds.scriptOf (bounds : Bounds) {count size : ℕ} (places : Fin count → Fin size) : Scripted :=
  { values := (bounds.settling count ++ List.ofFn fun repetition => (places repetition : Int)).map
      Value.int }

section Leaf

variable {limit : Option Int} (name : Text) {bounds : Bounds} {pool : List Text} {count : ℕ}
  (stocked : pool ≠ []) (ordered : bounds.Ordered)
  (within : ∀ bound ∈ limit, bounds.greatest ≤ bound) (lower : bounds.least ≤ count)
  (upper : count ≤ bounds.greatest) (places : Fin count → Fin pool.length)
include stocked ordered within lower upper

/-- A leaf that such a script leads emits what stands at the places. -/
theorem Tree.generate_scriptOf :
    let visit := (Tree.literal name bounds pool).generate limit Scripted.source
      (bounds.scriptOf places)
    visit.outcome = .ok () ∧
      visit.emitted = List.ofFn fun repetition => pool[places repetition] := by
  intro visit
  have length : (List.ofFn places).length = count := List.length_ofFn
  have course := Dialogue.Course.literal name stocked ordered within (List.ofFn places)
    (by rwa [length]) (by rwa [length])
  rw [length, List.map_ofFn, List.map_ofFn] at course
  have fresh : (bounds.scriptOf places).remaining = _ := rfl
  obtain ⟨returned, emitted, -⟩ := course.run_script rfl rfl fresh
  simp only [visit, generate_eq_run]
  exact ⟨returned, emitted⟩

/-- In a workshop it adds that to a list. -/
theorem Work.generateInto_scriptOf {shop : Workshop} {current : Settings}
    (loads : shop.desk.settings.1 = .ok current) (limited : current.maxOccurrencesLimit = limit)
    {source : SourceId} (placed : source < shop.bench.sources.size) {sink : SinkId}
    {held : List Text} (listed : shop.sinks[sink]? = some (.fragments held)) :
    let ran := (generateInto (.literal name bounds pool) source sink).run.run
      { shop with bench := shop.bench.put source (.scripted (bounds.scriptOf places)) }
    ran.1 = .ok () ∧ ran.2.sinks[sink]? =
      some (.fragments (held ++ List.ofFn fun repetition => pool[places repetition])) := by
  intro ran
  subst limited
  let leaf : Tree := .literal name bounds pool
  let ready : Workshop :=
    { shop with bench := shop.bench.put source (.scripted (bounds.scriptOf places)) }
  have stands : ready.bench.source? source = some (.scripted (bounds.scriptOf places)) :=
    Bench.source?_put_self placed _
  obtain ⟨returned, emitted⟩ :=
    Tree.generate_scriptOf name stocked ordered within lower upper places
  obtain ⟨outcome, events, -⟩ :=
    (Bench.alike_script source).generate current.maxOccurrencesLimit leaf stands
  have told : ready.desk.settings.1 = .ok current := loads
  obtain ⟨ended, sinks⟩ := generateInto_of_settings told leaf source sink
  have added := (congrArg (List.filterMap Event.literal?) events).trans emitted
  constructor
  · exact ended.trans (congrArg (Except.mapError WorkFault.generation) (outcome.trans returned))
  · rw [show ran.2.sinks = _ from sinks, Array.getElem?_modify, if_pos rfl, listed, Visit.emitted,
      added]
    rfl

end Leaf

/-- Each literal weighs as much as it is in the pool, and does so in each repetition whatever the
others pick. A leaf in order that a script leads through as many places of its pool, from a number
of repetitions that the bounds allow, ends well and adds to a list what stands at these places. So
of all lists of places those that add some given literals are as many as the product of how often
the pool has each of them, and none if it lacks one. -/
theorem Work.ncard_places_of_fragments {shop : Workshop} {current : Settings}
    (loads : shop.desk.settings.1 = .ok current) {source : SourceId}
    (placed : source < shop.bench.sources.size) {sink : SinkId} {held : List Text}
    (listed : shop.sinks[sink]? = some (.fragments held)) (name : Text) {bounds : Bounds}
    {pool : List Text} (stocked : pool ≠ []) (ordered : bounds.Ordered)
    (within : ∀ bound ∈ current.maxOccurrencesLimit, bounds.greatest ≤ bound) {count : ℕ}
    (lower : bounds.least ≤ count) (upper : count ≤ bounds.greatest) {fragments : List Text}
    (length : fragments.length = count) :
    let ran (places : Fin count → Fin pool.length) :=
      (generateInto (.literal name bounds pool) source sink).run.run
        { shop with bench := shop.bench.put source (.scripted (bounds.scriptOf places)) }
    (∀ places, (ran places).1 = .ok () ∧ (ran places).2.sinks[sink]? =
        some (.fragments (held ++ List.ofFn fun repetition => pool[places repetition]))) ∧
      {places | (ran places).2.sinks[sink]? = some (.fragments (held ++ fragments))}.ncard =
        (fragments.map (pool.count ·)).prod := by
  intro ran
  have filled (places : Fin count → Fin pool.length) :
      (ran places).1 = .ok () ∧ (ran places).2.sinks[sink]? =
        some (.fragments (held ++ List.ofFn fun repetition => pool[places repetition])) :=
    generateInto_scriptOf name stocked ordered within lower upper places loads rfl placed listed
  refine ⟨filled, ?_⟩
  subst length
  rw [← ncard_places]
  congr 1
  ext places
  simp only [Set.mem_ofPred_eq, (filled places).2, Option.some.injEq, Sink.fragments.injEq,
    List.append_cancel_left_eq]

/-- A coin with two heads and one tail in its pool. -/
def coinPool : List Text := ["heads", "tails", "heads"]

namespace Work

/-- A workshop with room for a script, a list that holds a toss, and a limit on repetitions. -/
def tossing : Workshop where
  bench := { sources := #[.scripted { values := [] }] }
  sinks := #[.fragments ["tails"]]
  desk := { kept := some { maxOccurrencesLimit := some 3 } }

/-- Of the 27 lists of three places four toss heads, tails and heads. -/
theorem ncard_places_of_fragments_coin :
    let ran (places : Fin 3 → Fin 3) :=
      (generateInto (.literal "coin" ⟨1, 3⟩ coinPool) 0 0).run.run
        { tossing with
          bench := tossing.bench.put 0 (.scripted (Bounds.scriptOf ⟨1, 3⟩ places)) }
    tossing.desk.settings.1 = .ok { maxOccurrencesLimit := some 3 } ∧
      tossing.sinks[0]? = some (.fragments ["tails"]) ∧
      (ran ![2, 1, 0]).1 = .ok () ∧
      {places | (ran places).2.sinks[0]? =
        some (.fragments ["tails", "heads", "tails", "heads"])}.ncard = 4 := by
  intro ran
  have loads : tossing.desk.settings.1 = .ok { maxOccurrencesLimit := some 3 } := rfl
  have listed : tossing.sinks[0]? = some (.fragments ["tails"]) := rfl
  have placed : 0 < tossing.bench.sources.size := by decide
  have stocked : coinPool ≠ [] := by decide
  have ordered : (⟨1, 3⟩ : Bounds).Ordered := by decide
  have tossed : (["heads", "tails", "heads"] : List Text).length = 3 := rfl
  obtain ⟨filled, weighed⟩ := ncard_places_of_fragments loads placed listed "coin" stocked ordered
    (by decide) (by decide) (by decide) tossed
  exact ⟨loads, listed, (filled _).1, weighed⟩

end Work

end PatternForge
