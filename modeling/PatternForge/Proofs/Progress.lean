import PatternForge.Proofs.Failure
import PatternForge.Source.MinimalStandard

/-! # Progress

A run can end before its time for two reasons: a scope can generate nothing, or the source has no
number for a request. The first is read off the scopes of a tree (`Tree.exists_bad_of_canFail`). For
the second every request has to be one that the source can serve: a range in order that ends where
the source does (`Dialogue.AsksWithin`). A tree of scopes that fit a source makes no other requests
(`Tree.asksWithin_dialogue`), fixed bounds asking for nothing, however great they are.
-/

namespace PatternForge

/-! ## Sources that serve -/

/-- In a good state a source answers every request up to a greatest number by a number of the range,
and its state stays good. -/
structure Source.Serves {σ : Type} (source : Source σ) (top : Int) (good : σ → Prop) : Prop where
  announce : ∀ announcement state, good state → good (source.announce announcement state)
  /-- A request is answered. -/
  draw : ∀ low high state, good state → 0 ≤ low → low ≤ high → high ≤ top →
    ∃ value after, source.draw low high state = (.ok value, after) ∧
      value.inRange low high = true ∧ good after

/-- A source that gives the greatest number of a range, and refuses a range that goes beyond its
own. -/
def Source.countingTo (top : Int) : Source Unit :=
  .ofDraw fun low high state =>
    match rangeFault? top low high with
    | some fault => (.error fault, state)
    | none => (.ok (.int high), state)

theorem Source.serves_countingTo (top : Int) :
    (Source.countingTo top).Serves top fun _ => True where
  announce := fun _ _ good => good
  draw := by
    intro low high state good sign order reach
    have served : rangeFault? top low high = none :=
      rangeFault?_eq_none_iff.mpr ⟨sign, order, reach⟩
    have drawn : (Source.countingTo top).draw low high state = (.ok (.int high), state) := by
      simp only [Source.countingTo, Source.ofDraw, served]
    exact ⟨_, _, drawn, Value.inRange_int_iff.mpr ⟨order, le_rfl⟩, good⟩

namespace Dialogue

variable {σ α β : Type} {top : Int}

/-- All requests, whatever their answers, are for ranges of a kind. -/
def Asks (range : Int → Int → Prop) : Dialogue α → Prop
  | finish _ => True
  | fail _ => True
  | emit _ rest => rest.Asks range
  | tell _ rest => rest.Asks range
  | ask _ low high next =>
    range low high ∧ ∀ answer, low ≤ answer → answer ≤ high → (next answer).Asks range

/-- All requests are for ranges in order from zero to a greatest number. -/
def AsksWithin (top : Int) (dialogue : Dialogue α) : Prop :=
  dialogue.Asks fun low high => 0 ≤ low ∧ low ≤ high ∧ high ≤ top

/-- A source that can serve all requests leads the run to its end, or to a scope that can generate
nothing. -/
theorem outcome_run_of_serves {source : Source σ} {good : σ → Prop}
    (serves : source.Serves top good) {dialogue : Dialogue α} (asks : dialogue.AsksWithin top)
    {state : σ} (start : good state) :
    (∃ result, (dialogue.run source state).outcome = .ok result) ∨
      ∃ fault, (dialogue.run source state).outcome = .error (.scope fault) := by
  induction dialogue generalizing state with
  | finish result => exact .inl ⟨result, rfl⟩
  | fail fault => exact .inr ⟨fault, rfl⟩
  | emit literal rest ih => exact ih asks start
  | tell notice rest ih => exact ih asks start
  | ask announcement low high next ih =>
    obtain ⟨⟨sign, order, reach⟩, further⟩ := asks
    have heard : good (source.announce announcement state) := serves.announce _ _ start
    obtain ⟨value, after, drawn, inside, still⟩ := serves.draw low high _ heard sign order reach
    obtain ⟨lower, upper⟩ := Value.number_of_inRange inside
    rw [run_ask_accepted drawn inside]
    exact ih value.number (further _ lower upper) still

section Asks

variable {range : Int → Int → Prop}

theorem Asks.bind {first : Dialogue α} {following : α → Dialogue β} (asks : first.Asks range)
    (further : ∀ result, (following result).Asks range) : (first >>= following).Asks range := by
  change (first.bind following).Asks range
  induction first with
  | finish result => exact further result
  | fail fault => trivial
  | emit literal rest ih => exact ih asks
  | tell notice rest ih => exact ih asks
  | ask announcement low high next ih =>
    refine ⟨asks.1, ?_⟩
    intro answer lower upper
    exact ih answer (asks.2 answer lower upper)

theorem Asks.times {body : Dialogue Unit} (asks : body.Asks range) (count : ℕ) :
    (times count body).Asks range := by
  induction count with
  | zero => trivial
  | succ count ih => exact asks.bind fun _ => ih

/-- Bounds ask for the range between them, unless they are fixed. -/
theorem asks_settle {scope : Text} {bounds : Bounds} (ordered : bounds.Ordered)
    (counts : bounds.least < bounds.greatest → range bounds.least bounds.greatest) :
    (bounds.settle scope).Asks range := by
  obtain ⟨sign, order⟩ := ordered
  rw [Bounds.settle]
  split
  · trivial
  · next loose => exact ⟨counts (by omega), fun _ _ _ => trivial⟩

theorem asks_pick {name : Text} {pool : List Text} (places : range 0 ((pool.length : Int) - 1)) :
    (pick name pool).Asks range :=
  ⟨places, fun _ _ _ => trivial⟩

theorem asks_turn {name : Text} {count : ℕ} {one : ℕ → Dialogue Unit}
    (places : range 0 ((count : Int) - 1)) (each : ∀ index, (one index).Asks range) :
    (turn name count one).Asks range :=
  ⟨places, fun answer _ _ => each answer.toNat⟩

/-- A scope makes requests only if its bounds are in order and it has something to repeat. -/
theorem asks_repeated {limit : Option Int} {name : Text} {bounds : Bounds} {vacant : Prop}
    [Decidable vacant] {fault : ScopeFault} {notice : Int → Notice} {body : Dialogue Unit}
    (counts : bounds.Ordered → bounds.least < bounds.greatest →
      range bounds.least bounds.greatest)
    (asks : ¬vacant → body.Asks range) :
    (repeated limit name bounds vacant fault notice body).Asks range := by
  rw [repeated]
  cases checked : bounds.fault? name limit with
  | some fault => trivial
  | none =>
    obtain ⟨ordered, -⟩ := Bounds.fault?_eq_none_iff.mp checked
    refine Asks.bind trivial fun _ => ?_
    split
    · trivial
    · split
      · trivial
      · next occupied =>
        exact (asks_settle ordered (counts ordered)).bind fun count => (asks occupied).times _

end Asks

end Dialogue

/-! ## Trees that fit a source -/

namespace Tree

variable {limit : Option Int} {top : Int}

/-- How many literals or children the root has. -/
def stock : Tree → ℕ
  | literal _ _ pool => pool.length
  | group _ _ _ children => children.length

/-- The root can be generated: its bounds are in order and not above the limit, and if it repeats
there is something to repeat. -/
structure Sound (limit : Option Int) (tree : Tree) : Prop where
  ordered : tree.bounds.Ordered
  within : ∀ bound ∈ limit, tree.bounds.greatest ≤ bound
  stocked : 0 < tree.bounds.greatest → tree.stock ≠ 0

/-- What the root may ask for ends where the source does. -/
structure Fits (top : Int) (tree : Tree) : Prop where
  /-- Bounds that are not fixed are not above what the source can give. -/
  bounds : tree.bounds.least < tree.bounds.greatest → tree.bounds.greatest ≤ top
  /-- Nor are the numbers of the literals or children. -/
  stock : (tree.stock : Int) ≤ top + 1

instance (limit : Option Int) (tree : Tree) : Decidable (tree.Sound limit) :=
  decidable_of_iff (tree.bounds.Ordered ∧ (∀ bound ∈ limit, tree.bounds.greatest ≤ bound) ∧
      (0 < tree.bounds.greatest → tree.stock ≠ 0))
    ⟨fun ⟨ordered, within, stocked⟩ => ⟨ordered, within, stocked⟩,
      fun ⟨ordered, within, stocked⟩ => ⟨ordered, within, stocked⟩⟩

instance (top : Int) (tree : Tree) : Decidable (tree.Fits top) :=
  decidable_of_iff ((tree.bounds.least < tree.bounds.greatest → tree.bounds.greatest ≤ top) ∧
      (tree.stock : Int) ≤ top + 1)
    ⟨fun ⟨bounds, stock⟩ => ⟨bounds, stock⟩, fun ⟨bounds, stock⟩ => ⟨bounds, stock⟩⟩

theorem vacant_iff_stock {tree : Tree} : tree.Vacant ↔ tree.stock = 0 := by
  cases tree <;> exact List.length_eq_zero_iff.symm

theorem sound_iff_not_bad {tree : Tree} : tree.Sound limit ↔ ¬tree.Bad limit := by
  rw [Bad, Bounds.not_unfit_iff, vacant_iff_stock]
  constructor
  · rintro ⟨ordered, within, stocked⟩
    refine ⟨ordered, within, ?_⟩
    by_cases silent : tree.bounds.greatest = 0
    · exact .inl silent
    · obtain ⟨sign, order⟩ := ordered
      exact .inr (stocked (by omega))
  · rintro ⟨ordered, within, silent | stocked⟩
    · exact ⟨ordered, within, fun repeats => by omega⟩
    · exact ⟨ordered, within, fun _ => stocked⟩

/-- A tree can fail only at one of its scopes. -/
theorem exists_bad_of_canFail {tree : Tree} (fails : tree.CanFail limit) :
    ∃ node ∈ tree.scopes, node.Bad limit := by
  induction fails with
  | @bad tree bad => exact ⟨tree, mem_scopes_self tree, bad⟩
  | child repeats member _ ih =>
    obtain ⟨node, below, bad⟩ := ih
    exact ⟨node, mem_scopes_of_child member below, bad⟩

section Asks

variable {range : Int → Int → Prop}

private theorem asks_dialogueAll {children : List Tree}
    (each : ∀ child ∈ children, (child.dialogue limit).Asks range) :
    (dialogueAll limit children).Asks range := by
  induction children with
  | nil => trivial
  | cons child rest ih =>
    have others := ih fun other member => each other (List.mem_cons_of_mem _ member)
    exact (each child List.mem_cons_self).bind fun _ => others

private theorem asks_dialogueOne {children : List Tree}
    (each : ∀ child ∈ children, (child.dialogue limit).Asks range) (index : ℕ) :
    (dialogueOne limit children index).Asks range := by
  induction children generalizing index with
  | nil => trivial
  | cons child rest ih =>
    cases index with
    | zero => exact each child List.mem_cons_self
    | succ index => exact ih (fun other member => each other (List.mem_cons_of_mem _ member)) index

/-- What a tree asks for is how often a scope repeats, or a place among its literals or children. -/
theorem asks_dialogue (limit : Option Int) {tree : Tree}
    (counts : ∀ node ∈ tree.scopes, node.bounds.Ordered →
      node.bounds.least < node.bounds.greatest → range node.bounds.least node.bounds.greatest)
    (places : ∀ node ∈ tree.scopes, node.stock ≠ 0 → range 0 ((node.stock : Int) - 1)) :
    (tree.dialogue limit).Asks range := by
  induction tree using Tree.induct with
  | literal name bounds pool =>
    refine Dialogue.asks_repeated (counts _ (mem_scopes_self _)) fun occupied => ?_
    refine Dialogue.asks_pick (places _ (mem_scopes_self _) fun empty => occupied ?_)
    exact List.isEmpty_iff.mpr (List.length_eq_zero_iff.mp empty)
  | group name bounds alternating children each =>
    have below : ∀ child ∈ children, (child.dialogue limit).Asks range := fun child member =>
      each child member (fun node scope => counts node (mem_scopes_of_child member scope))
        fun node scope => places node (mem_scopes_of_child member scope)
    refine Dialogue.asks_repeated (counts _ (mem_scopes_self _)) fun occupied => ?_
    cases alternating with
    | false => exact asks_dialogueAll below
    | true =>
      exact Dialogue.asks_turn (places _ (mem_scopes_self _) occupied) (asks_dialogueOne below)

end Asks

/-- A tree whose scopes fit a source makes no request that the source cannot serve, sound or not. -/
theorem asksWithin_dialogue (limit : Option Int) {tree : Tree}
    (fits : ∀ node ∈ tree.scopes, node.Fits top) : (tree.dialogue limit).AsksWithin top := by
  refine asks_dialogue limit ?_ ?_
  · intro node scope ordered wide
    exact ⟨ordered.1, ordered.2, (fits node scope).bounds wide⟩
  · intro node scope stocked
    have few := (fits node scope).stock
    exact ⟨le_rfl, by omega, by omega⟩

/-- A run of a tree that fits its source can fail only at a scope. -/
theorem outcome_generate_of_serves {σ : Type} {source : Source σ} {good : σ → Prop}
    (serves : source.Serves top good) (limit : Option Int) {tree : Tree}
    (fits : ∀ node ∈ tree.scopes, node.Fits top) {state : σ} (start : good state) :
    (tree.generate limit source state).outcome = .ok () ∨
      ∃ fault, (tree.generate limit source state).outcome = .error (.scope fault) := by
  rw [generate_eq_run]
  rcases Dialogue.outcome_run_of_serves serves (asksWithin_dialogue limit fits) start with
    ⟨⟨⟩, returned⟩ | failed
  · exact .inl returned
  · exact .inr failed

/-- A run of a tree of sound scopes does not fail at a scope. -/
theorem outcome_generate_ne_scope {σ : Type} {source : Source σ} {tree : Tree}
    (sound : ∀ node ∈ tree.scopes, node.Sound limit) (state : σ) (fault : ScopeFault) :
    (tree.generate limit source state).outcome ≠ .error (.scope fault) := by
  intro failed
  obtain ⟨node, scope, bad⟩ := exists_bad_of_canFail (canFail_of_outcome failed)
  exact sound_iff_not_bad.mp (sound node scope) bad

end Tree

/-! ## The minimal standard generator -/

namespace MinimalStandard

/-- The states that a generator can come to from a seed, requests that it cannot serve included. -/
inductive Reachable : MinimalStandard → Prop where
  | seeded (seed : Int) : Reachable (ofSeed seed)
  | drawn {generator : MinimalStandard} (reachable : Reachable generator) (low high : Int) :
      Reachable (draw low high generator).2

/-- The state is a unit modulo the prime. -/
def Unit (generator : MinimalStandard) : Prop :=
  0 < generator.state ∧ generator.state < modulus

theorem unit_ofSeed (seed : Int) : (ofSeed seed).Unit := by
  have positive : (0 : Int) < modulus := by decide
  have lower : 0 ≤ seed % (modulus : Int) := Int.emod_nonneg _ positive.ne'
  have upper : seed % (modulus : Int) < modulus := Int.emod_lt_of_pos _ positive
  rw [ofSeed, Unit]
  dsimp only
  split
  · exact ⟨Nat.one_pos, by decide⟩
  · next unit => exact ⟨Nat.pos_of_ne_zero unit, by omega⟩

/-- The factor is prime to the modulus, so a step cannot come to zero. -/
theorem Unit.next {generator : MinimalStandard} (unit : generator.Unit) : generator.next.Unit := by
  obtain ⟨positive, below⟩ := unit
  refine ⟨Nat.pos_of_ne_zero fun zero => ?_, Nat.mod_lt _ (by decide)⟩
  have coprime : Nat.Coprime modulus multiplier := by decide
  have divides : modulus ∣ generator.state :=
    coprime.dvd_of_dvd_mul_right (Nat.dvd_of_mod_eq_zero zero)
  exact absurd (Nat.le_of_dvd positive divides) (by omega)

/-- A unit stands for a number of the range: a state less than the modulus less one covers less than
the whole span. -/
theorem Unit.scale_mem {generator : MinimalStandard} (unit : generator.Unit) {low high : Int}
    (order : low ≤ high) : low ≤ generator.scale low high ∧ generator.scale low high ≤ high := by
  obtain ⟨positive, below⟩ := unit
  have span : 0 < high - low + 1 := by omega
  have place : 0 ≤ (generator.state : Int) - 1 := by omega
  have least : 0 ≤ ((generator.state : Int) - 1) * (high - low + 1) / ((modulus : Int) - 1) :=
    Int.ediv_nonneg (Int.mul_nonneg place span.le) (by decide)
  have covered : ((generator.state : Int) - 1) * (high - low + 1) <
      (high - low + 1) * ((modulus : Int) - 1) := by
    rw [Int.mul_comm]
    exact Int.mul_lt_mul_of_pos_left (by omega) span
  have greatest : ((generator.state : Int) - 1) * (high - low + 1) / ((modulus : Int) - 1) <
      high - low + 1 := Int.ediv_lt_of_lt_mul (by decide) covered
  rw [scale]
  omega

theorem Unit.draw {generator : MinimalStandard} (unit : generator.Unit) (low high : Int) :
    (MinimalStandard.draw low high generator).2.Unit := by
  rw [MinimalStandard.draw]
  split
  · exact unit
  · exact unit.next

theorem Reachable.unit {generator : MinimalStandard} (reachable : generator.Reachable) :
    generator.Unit := by
  induction reachable with
  | seeded seed => exact unit_ofSeed seed
  | drawn _ low high ih => exact ih.draw low high

/-- Whatever its seed was and whatever it was asked before, the generator serves. -/
theorem serves_source : source.Serves top Reachable where
  announce := fun _ _ reachable => reachable
  draw := by
    intro low high generator reachable sign order reach
    have served : rangeFault? top low high = none :=
      rangeFault?_eq_none_iff.mpr ⟨sign, order, reach⟩
    have drawn : MinimalStandard.draw low high generator =
        (.ok (.int (generator.next.scale low high)), generator.next) := by
      rw [MinimalStandard.draw, served]
    have still : Reachable generator.next := by
      have after := reachable.drawn low high
      rw [drawn] at after
      exact after
    exact ⟨_, _, drawn, Value.inRange_int_iff.mpr (reachable.unit.next.scale_mem order), still⟩

end MinimalStandard

namespace Tree

/-- A tree of sound scopes that fit the source is generated without an error, and rendered to the
text of the run, whatever the source gives. The minimal standard generator serves in every state
that it can come to from a seed, so with it a run ends at a request only if some scope does not
fit. -/
theorem generate_returns (limit : Option Int) (tree : Tree) :
    (∀ (σ : Type) (source : Source σ) (top : Int) (good : σ → Prop), source.Serves top good →
      (∀ node ∈ tree.scopes, node.Sound limit ∧ node.Fits top) → ∀ state, good state →
        let visit := tree.generate limit source state
        visit.outcome = .ok () ∧ tree.render limit source state = .ok visit.text) ∧
    MinimalStandard.source.Serves MinimalStandard.top MinimalStandard.Reachable ∧
    ∀ (generator : MinimalStandard) (fault : GenerationFault), generator.Reachable →
      (tree.generate limit MinimalStandard.source generator).outcome = .error fault →
        (∀ reason, fault ≠ .scope reason) →
          ∃ node ∈ tree.scopes, ¬node.Fits MinimalStandard.top := by
  refine ⟨?_, MinimalStandard.serves_source, ?_⟩
  · intro σ source top good serves all state start visit
    have sound : ∀ node ∈ tree.scopes, node.Sound limit := fun node scope => (all node scope).1
    have fits : ∀ node ∈ tree.scopes, node.Fits top := fun node scope => (all node scope).2
    have returned : visit.outcome = .ok () := by
      rcases outcome_generate_of_serves serves limit fits start with returned | ⟨fault, failed⟩
      · exact returned
      · exact absurd failed (outcome_generate_ne_scope sound state fault)
    refine ⟨returned, ?_⟩
    change visit.outcome.map _ = _
    rw [returned]
    rfl
  · intro generator fault reachable failed requested
    by_contra! fits
    rcases outcome_generate_of_serves MinimalStandard.serves_source limit fits reachable with
      returned | ⟨reason, stopped⟩
    · rw [returned] at failed
      cases failed
    · rw [stopped] at failed
      exact requested reason (Except.error.inj failed).symm

/-- A chorus with a line to sing, a rest, and three bars to hum. -/
def chorus : Tree :=
  .group "chorus" ⟨0, 2⟩ true
    [.literal "line" ⟨1, 1⟩ ["la", "lo"], .literal "rest" ⟨0, 0⟩ [], .literal "bars" ⟨3, 3⟩ ["m"]]

/-- A source that counts to two is enough for the chorus: it need not count the bars. -/
theorem generate_returns_chorus :
    (∀ node ∈ chorus.scopes, node.Sound (some 3) ∧ node.Fits 2) ∧
      chorus.render (some 3) (Source.countingTo 2) () = .ok "mmmmmm" ∧
      ∀ seed, (chorus.generate (some 3) MinimalStandard.source
        (MinimalStandard.ofSeed seed)).outcome = .ok () := by
  obtain ⟨returns, serves, -⟩ := generate_returns (some 3) chorus
  have all : ∀ node ∈ chorus.scopes, node.Sound (some 3) ∧ node.Fits 2 := by decide
  have more : ∀ node ∈ chorus.scopes, node.Sound (some 3) ∧ node.Fits MinimalStandard.top := by
    decide
  have hummed := (returns _ _ 2 _ (Source.serves_countingTo 2) all () trivial).2
  refine ⟨all, hummed.trans (congrArg Except.ok (by decide)), ?_⟩
  intro seed
  exact (returns _ _ _ _ serves more _ (.seeded seed)).1

end Tree

end PatternForge
