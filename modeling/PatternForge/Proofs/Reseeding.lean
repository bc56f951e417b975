import PatternForge.Proofs.Runs

/-! # Seeding a source again

A source that is seeded again is as good as new, whatever was done with it before: what it was made
from stays with it (`Bench.make?_performAll`), and seeding it puts all else back, but for the list
of seeds that a script keeps. Nothing that a source answers depends on that list
(`Bench.performAll_of_alike`), so nobody can tell the old source from a new one.
-/

namespace PatternForge

/-! ## What a source is made from -/

/-- What a source is made from, the seed aside. -/
inductive SourceMake where
  | generator (generator : Generator)
  | script (values : List Value) (expectation : Expectation) (repeats : Bool) (top : Int)

namespace SourceMake

/-- The seeds of a source. A script can be seeded without a number, too. -/
def Seed : SourceMake → Type
  | .generator _ => Int
  | .script .. => Option Int

/-- A seed as it is given to the source. -/
def given : (make : SourceMake) → make.Seed → Option Int
  | .generator _, seed => some seed
  | .script .., seed => seed

def fresh : (make : SourceMake) → make.Seed → BenchSource
  | .generator kind, seed => kind.start (some seed)
  | .script values expectation repeats top, _ => .scripted { values, expectation, repeats, top }

end SourceMake

/-- What a source was made from. A recorder has no seed of its own. -/
def BenchSource.make? : BenchSource → Option SourceMake
  | twister _ => some (.generator .twister)
  | minimalStandard _ => some (.generator .minimalStandard)
  | scripted script => some (.script script.values script.expectation script.repeats script.top)
  | recording .. => none

theorem SourceMake.make?_fresh (make : SourceMake) (seed : make.Seed) :
    (make.fresh seed).make? = some make := by
  cases make with
  | generator kind => cases kind <;> simp only [fresh, Generator.start, BenchSource.make?]
  | script => rfl

/-- What the source under a number was made from. -/
def Bench.make? (bench : Bench) (id : SourceId) : Option SourceMake :=
  (bench.source? id).bind BenchSource.make?

/-! ## What is done with sources -/

inductive SourceOperation where
  | draw (low high : Int)
  | generate (limit : Option Int) (tree : Tree)
  /-- A tree is generated with it, and the draws are recorded in a trace of their own. -/
  | record (limit : Option Int) (tree : Tree)
  | announce (announcement : Announcement)
  | seed (value : Int)
  /-- It is seeded without a number, if it is a script. -/
  | rewind

inductive SourceAnswer where
  | nothing
  | drawn (answer : Except DrawFault Value)
  /-- The end of a visit and everything that it emitted, asked and told, in order. -/
  | visited (outcome : Except GenerationFault Unit) (events : List Event)
  | recorded (outcome : Except GenerationFault Unit) (events : List Event) (trace : Trace)

namespace Bench

/-- Seeds a script without a number. Other sources are left alone. -/
def rewind (bench : Bench) (id : SourceId) : Bench :=
  match bench.source? id with
  | some (.scripted script) => bench.put id (.scripted (script.seed none))
  | _ => bench

def perform (bench : Bench) (id : SourceId) : SourceOperation → SourceAnswer × Bench
  | .draw low high =>
    let (answer, bench) := draw id low high bench
    (.drawn answer, bench)
  | .generate limit tree =>
    let visit := tree.generate limit (source id) bench
    (.visited visit.outcome visit.events, visit.source)
  | .record limit tree =>
    let visit := tree.generate limit (Traced.source (source id)) (Traced.start tree.name bench)
    (.recorded visit.outcome visit.events visit.source.trace, visit.source.inner)
  | .announce announcement => (.nothing, announce id announcement bench)
  | .seed value => (.nothing, bench.seed id (some value))
  | .rewind => (.nothing, bench.rewind id)

/-- Does one thing after the other, each with the source of a number, and gives what comes of it. -/
def performAll (bench : Bench) : List (SourceId × SourceOperation) → List SourceAnswer × Bench
  | [] => ([], bench)
  | (id, operation) :: rest =>
    let (answer, bench) := bench.perform id operation
    let (answers, bench) := bench.performAll rest
    (answer :: answers, bench)

end Bench

/-! ## The list of seeds -/

/-- A script without the seeds that it was given. -/
def Scripted.withoutSeeds (script : Scripted) : Scripted :=
  { script with seeds := [] }

def BenchSource.withoutSeeds : BenchSource → BenchSource
  | scripted script => scripted script.withoutSeeds
  | source => source

/-- The bench without the seeds that its scripts were given. -/
def Bench.withoutSeeds (bench : Bench) : Bench :=
  { bench with sources := bench.sources.map BenchSource.withoutSeeds }

/-- The workshop without the seeds that its scripts were given. -/
def Workshop.withoutSeeds (shop : Workshop) : Workshop :=
  { shop with bench := shop.bench.withoutSeeds }

namespace Scripted

variable (script : Scripted) (low high : Int) (expected : Value × Value)

theorem advance_withoutSeeds :
    script.withoutSeeds.advance = (script.advance.1, script.advance.2.withoutSeeds) := by
  rw [advance, advance, show script.withoutSeeds.upcoming? = script.upcoming? from rfl]
  cases script.upcoming? <;> rfl

theorem advanceIf_withoutSeeds :
    script.withoutSeeds.advanceIf low high expected =
      ((script.advanceIf low high expected).1,
        (script.advanceIf low high expected).2.withoutSeeds) := by
  rw [advanceIf, advanceIf]
  cases agrees low high expected with
  | false => rfl
  | true => exact script.advance_withoutSeeds

/-- A script answers the same whatever seeds it was given. -/
theorem draw_withoutSeeds :
    script.withoutSeeds.draw low high =
      ((script.draw low high).1, (script.draw low high).2.withoutSeeds) := by
  rw [draw, draw, show script.withoutSeeds.expectation = script.expectation from rfl]
  cases script.expectation with
  | anything => exact (script.took low high).advance_withoutSeeds
  | always least greatest =>
    exact (script.took low high).advanceIf_withoutSeeds low high (least, greatest)
  | each ranges =>
    rw [show script.withoutSeeds.calls = script.calls from rfl]
    dsimp only
    cases ranges[script.calls.length]? with
    | none => rfl
    | some expected => exact (script.took low high).advanceIf_withoutSeeds low high expected

theorem exists_advance : ∃ position, script.advance.2 = { script with position } := by
  rw [advance]
  cases script.upcoming? with
  | none => exact ⟨script.position, rfl⟩
  | some value => exact ⟨script.position + 1, rfl⟩

theorem exists_advanceIf :
    ∃ position, (script.advanceIf low high expected).2 = { script with position } := by
  rw [advanceIf]
  cases agrees low high expected with
  | false => exact ⟨script.position, rfl⟩
  | true => exact script.exists_advance

/-- A request moves a script on and leaves what it was made from. -/
theorem exists_draw :
    ∃ calls position, (script.draw low high).2 = { script with calls, position } := by
  rw [draw]
  split
  · exact ⟨_, (script.took low high).exists_advance⟩
  · exact ⟨_, (script.took low high).exists_advanceIf low high _⟩
  · split
    · exact ⟨_, (script.took low high).exists_advanceIf low high _⟩
    · exact ⟨script.calls, script.position, rfl⟩

end Scripted

namespace Bench

variable {bench : Bench} {id : SourceId}

theorem source?_withoutSeeds (bench : Bench) (id : SourceId) :
    bench.withoutSeeds.source? id = (bench.source? id).map BenchSource.withoutSeeds :=
  Array.getElem?_map

@[simp] theorem withoutSeeds_withoutSeeds (bench : Bench) :
    bench.withoutSeeds.withoutSeeds = bench.withoutSeeds := by
  have twice : BenchSource.withoutSeeds ∘ BenchSource.withoutSeeds = BenchSource.withoutSeeds := by
    funext source
    cases source <;> rfl
  simp only [withoutSeeds, Array.map_map, twice]

theorem withoutSeeds_put (bench : Bench) (id : SourceId) (source : BenchSource) :
    (bench.put id source).withoutSeeds = bench.withoutSeeds.put id source.withoutSeeds := by
  simp only [put, withoutSeeds, Array.map_setIfInBounds]

theorem record_withoutSeeds (bench : Bench) (trace : TraceId) (pending : Option Announcement)
    (low high : Int) (value : Value) :
    bench.withoutSeeds.record trace pending low high value =
      ((bench.record trace pending low high value).1,
        (bench.record trace pending low high value).2.withoutSeeds) := by
  rw [record, record, show bench.withoutSeeds.trace? trace = bench.trace? trace from rfl]
  cases bench.trace? trace with
  | none => rfl
  | some written =>
    dsimp only
    cases Traced.record pending low high value written <;> rfl

/-- No source of the bench answers by the seeds that were given. -/
theorem draw_withoutSeeds (id : SourceId) (low high : Int) (bench : Bench) :
    draw id low high bench.withoutSeeds =
      ((draw id low high bench).1, (draw id low high bench).2.withoutSeeds) := by
  induction id using Nat.strongRecOn generalizing bench with
  | ind id ih =>
    rw [draw, draw, source?_withoutSeeds]
    cases bench.source? id with
    | none => rfl
    | some source =>
      cases source with
      | twister state => simp only [Option.map_some, BenchSource.withoutSeeds, withoutSeeds_put]
      | minimalStandard state =>
        simp only [Option.map_some, BenchSource.withoutSeeds, withoutSeeds_put]
      | scripted script =>
        have same := script.draw_withoutSeeds low high
        simp only [Option.map_some, BenchSource.withoutSeeds, same, withoutSeeds_put]
      | recording inner trace pending =>
        simp only [Option.map_some, BenchSource.withoutSeeds]
        -- A recorder draws from a source of a smaller number, which the induction is on.
        by_cases below : inner < id
        · have behind := ih inner below (bench.put id (.recording inner trace none))
          simp only [withoutSeeds_put, BenchSource.withoutSeeds] at behind
          simp only [below, ↓reduceIte]
          rw [behind]
          rcases draw inner low high (bench.put id (.recording inner trace none)) with
            ⟨fault | value, after⟩
          · rfl
          · exact record_withoutSeeds after trace pending low high value
        · simp only [below, ↓reduceIte, withoutSeeds_put]
          rfl

theorem announce_withoutSeeds (id : SourceId) (announcement : Announcement) (bench : Bench) :
    announce id announcement bench.withoutSeeds =
      (announce id announcement bench).withoutSeeds := by
  rw [announce, announce, source?_withoutSeeds]
  cases bench.source? id with
  | none => rfl
  | some source =>
    cases source with
    | recording inner trace pending =>
      simp only [Option.map_some, BenchSource.withoutSeeds, withoutSeeds_put]
    | _ => rfl

/-- Seeding puts the same in the place of a source, whatever seeds were given before. -/
theorem seed_withoutSeeds (id : SourceId) (value : Option Int) (bench : Bench) :
    (bench.withoutSeeds.seed id value).withoutSeeds = (bench.seed id value).withoutSeeds := by
  induction id using Nat.strongRecOn generalizing bench with
  | ind id ih =>
    rw [seed, seed, source?_withoutSeeds]
    cases bench.source? id with
    | none => exact withoutSeeds_withoutSeeds bench
    | some source =>
      cases source with
      | twister state =>
        simp only [Option.map_some, BenchSource.withoutSeeds, withoutSeeds_put,
          withoutSeeds_withoutSeeds]
      | minimalStandard state =>
        simp only [Option.map_some, BenchSource.withoutSeeds, withoutSeeds_put,
          withoutSeeds_withoutSeeds]
      | scripted script =>
        simp only [Option.map_some, BenchSource.withoutSeeds, withoutSeeds_put,
          withoutSeeds_withoutSeeds]
        rfl
      | recording inner trace pending =>
        simp only [Option.map_some, BenchSource.withoutSeeds]
        by_cases below : inner < id
        · simp only [below, ↓reduceIte]
          exact ih inner below bench
        · simp only [below, ↓reduceIte, withoutSeeds_withoutSeeds]

theorem rewind_withoutSeeds (id : SourceId) (bench : Bench) :
    (bench.withoutSeeds.rewind id).withoutSeeds = (bench.rewind id).withoutSeeds := by
  rw [rewind, rewind, source?_withoutSeeds]
  cases bench.source? id with
  | none => exact withoutSeeds_withoutSeeds bench
  | some source =>
    cases source with
    | scripted script =>
      simp only [Option.map_some, BenchSource.withoutSeeds, withoutSeeds_put,
        withoutSeeds_withoutSeeds]
      rfl
    | _ => exact withoutSeeds_withoutSeeds bench

end Bench

/-! ## What is answered -/

section Alike

variable {σ τ : Type} {source : Source σ} {other : Source τ} {linked : σ → τ → Prop}
  (alike : source.Alike other linked)
include alike

/-- Sources that answer alike answer alike when their draws are recorded. -/
theorem Source.Alike.traced :
    (Traced.source source).Alike (Traced.source other) fun traced twin =>
      linked traced.inner twin.inner ∧ traced.trace = twin.trace ∧
        traced.pending = twin.pending where
  announce := by
    rintro announcement traced twin ⟨inner, trace, -⟩
    exact ⟨inner, trace, rfl⟩
  draw := by
    rintro low high ⟨state, trace, pending⟩ ⟨twin, _, _⟩ ⟨inner, rfl, rfl⟩
    obtain ⟨same, still⟩ := alike.draw low high state twin inner
    rcases drawn : source.draw low high state with ⟨answer, after⟩
    rcases matched : other.draw low high twin with ⟨reply, later⟩
    rw [drawn, matched] at same still
    obtain rfl : answer = reply := same
    simp only [Traced.source, Traced.draw, drawn, matched]
    cases answer with
    | error fault => exact ⟨rfl, still, rfl, rfl⟩
    | ok value =>
      dsimp only
      cases Traced.record pending low high value trace with
      | error findings => exact ⟨rfl, still, rfl, rfl⟩
      | ok step => exact ⟨rfl, still, rfl, rfl⟩

theorem Source.Alike.generateTraced (limit : Option Int) (tree : Tree) {state : σ} {twin : τ}
    (start : linked state twin) :
    let visit := tree.generate limit (Traced.source source) (Traced.start tree.name state)
    let other := tree.generate limit (Traced.source other) (Traced.start tree.name twin)
    visit.outcome = other.outcome ∧ visit.events = other.events ∧
      visit.source.trace = other.source.trace ∧ linked visit.source.inner other.source.inner := by
  generalize begun : Traced.start tree.name state = traced
  generalize begunToo : Traced.start tree.name twin = tracedTwin
  have linkedStart : linked traced.inner tracedTwin.inner ∧ traced.trace = tracedTwin.trace ∧
      traced.pending = tracedTwin.pending := by
    rw [← begun, ← begunToo]
    exact ⟨start, rfl, rfl⟩
  obtain ⟨outcome, events, inner, trace, -⟩ := alike.traced.generate limit tree linkedStart
  exact ⟨outcome, events, trace, inner⟩

end Alike

namespace Bench

variable {bench twin : Bench} {id : SourceId}

theorem alike_withoutSeeds (id : SourceId) :
    (source id).Alike (source id) fun bench twin => bench.withoutSeeds = twin.withoutSeeds where
  announce := by
    intro announcement bench twin same
    change (announce id announcement bench).withoutSeeds = _
    rw [← announce_withoutSeeds, same, announce_withoutSeeds]
    rfl
  draw := by
    intro low high bench twin same
    have answers := draw_withoutSeeds id low high bench
    rw [same, draw_withoutSeeds id low high twin] at answers
    obtain ⟨answer, after⟩ := Prod.mk.inj answers
    exact ⟨answer.symm, after.symm⟩

theorem seed_of_alike (same : bench.withoutSeeds = twin.withoutSeeds) (id : SourceId)
    (value : Option Int) :
    (bench.seed id value).withoutSeeds = (twin.seed id value).withoutSeeds := by
  rw [← seed_withoutSeeds, same, seed_withoutSeeds]

theorem rewind_of_alike (same : bench.withoutSeeds = twin.withoutSeeds) (id : SourceId) :
    (bench.rewind id).withoutSeeds = (twin.rewind id).withoutSeeds := by
  rw [← rewind_withoutSeeds, same, rewind_withoutSeeds]

/-- On benches that differ in lists of seeds alone the same comes of whatever is done, and they go
on to differ in these alone. -/
theorem perform_of_alike (same : bench.withoutSeeds = twin.withoutSeeds) (id : SourceId)
    (operation : SourceOperation) :
    (bench.perform id operation).1 = (twin.perform id operation).1 ∧
      (bench.perform id operation).2.withoutSeeds = (twin.perform id operation).2.withoutSeeds := by
  cases operation with
  | draw low high =>
    obtain ⟨answer, after⟩ := (alike_withoutSeeds id).draw low high bench twin same
    exact ⟨congrArg SourceAnswer.drawn answer, after⟩
  | generate limit tree =>
    obtain ⟨outcome, events, after⟩ :=
      (alike_withoutSeeds id).generate limit tree same
    refine ⟨?_, after⟩
    change SourceAnswer.visited _ _ = SourceAnswer.visited _ _
    rw [outcome, events]
  | record limit tree =>
    obtain ⟨outcome, events, trace, after⟩ :=
      (alike_withoutSeeds id).generateTraced limit tree same
    refine ⟨?_, after⟩
    change SourceAnswer.recorded _ _ _ = SourceAnswer.recorded _ _ _
    rw [outcome, events, trace]
  | announce announcement =>
    exact ⟨rfl, (alike_withoutSeeds id).announce announcement bench twin same⟩
  | seed value => exact ⟨rfl, seed_of_alike same id (some value)⟩
  | rewind => exact ⟨rfl, rewind_of_alike same id⟩

/-- So it is with one thing after the other. -/
theorem performAll_of_alike (same : bench.withoutSeeds = twin.withoutSeeds)
    (operations : List (SourceId × SourceOperation)) :
    (bench.performAll operations).1 = (twin.performAll operations).1 ∧
      (bench.performAll operations).2.withoutSeeds =
        (twin.performAll operations).2.withoutSeeds := by
  induction operations generalizing bench twin with
  | nil => exact ⟨rfl, same⟩
  | cons step rest ih =>
    obtain ⟨id, operation⟩ := step
    obtain ⟨answer, after⟩ := perform_of_alike same id operation
    obtain ⟨answers, last⟩ := ih after
    exact ⟨List.cons_eq_cons.mpr ⟨answer, answers⟩, last⟩

end Bench

/-! ## What stays with a source -/

namespace Bench

variable {bench : Bench} {id : SourceId}

theorem make?_put {before after : BenchSource} (stands : bench.source? id = some before)
    (same : after.make? = before.make?) : (bench.put id after).make? = bench.make? := by
  funext other
  by_cases here : id = other
  · obtain rfl := here
    rw [make?, make?, source?_put_self (Array.getElem?_eq_some_iff.mp stands).choose, stands]
    exact same
  · rw [make?, make?, source?_put_of_ne here]

theorem make?_record (bench : Bench) (trace : TraceId) (pending : Option Announcement)
    (low high : Int) (value : Value) :
    (bench.record trace pending low high value).2.make? = bench.make? := by
  rw [record]
  cases bench.trace? trace with
  | none => rfl
  | some written =>
    dsimp only
    cases Traced.record pending low high value written <;> rfl

/-- A request leaves all sources what they were made from. -/
theorem make?_draw (id : SourceId) (low high : Int) (bench : Bench) :
    (draw id low high bench).2.make? = bench.make? := by
  induction id using Nat.strongRecOn generalizing bench with
  | ind id ih =>
    rw [draw]
    cases stands : bench.source? id with
    | none => rfl
    | some source =>
      cases source with
      | twister state => exact make?_put stands rfl
      | minimalStandard state => exact make?_put stands rfl
      | scripted script =>
        obtain ⟨calls, position, moved⟩ := script.exists_draw low high
        exact make?_put stands (by rw [moved]; rfl)
      | recording inner trace pending =>
        have put : (bench.put id (.recording inner trace none)).make? = bench.make? :=
          make?_put stands rfl
        by_cases below : inner < id
        · have behind := ih inner below (bench.put id (.recording inner trace none))
          simp only [below, ↓reduceIte]
          rcases drawn : draw inner low high (bench.put id (.recording inner trace none)) with
            ⟨fault | value, after⟩ <;> rw [drawn] at behind
          · exact behind.trans put
          · exact (make?_record after trace pending low high value).trans (behind.trans put)
        · simp only [below, ↓reduceIte]
          exact put

theorem make?_announce (id : SourceId) (announcement : Announcement) (bench : Bench) :
    (announce id announcement bench).make? = bench.make? := by
  rw [announce]
  split
  · next stands => exact make?_put stands rfl
  · rfl

theorem make?_seed (id : SourceId) (value : Option Int) (bench : Bench) :
    (bench.seed id value).make? = bench.make? := by
  induction id using Nat.strongRecOn generalizing bench with
  | ind id ih =>
    rw [seed]
    cases stands : bench.source? id with
    | none => rfl
    | some source =>
      cases source with
      | twister state => exact make?_put stands (by simp only [BenchSource.make?])
      | minimalStandard state => exact make?_put stands (by simp only [BenchSource.make?])
      | scripted script => exact make?_put stands rfl
      | recording inner trace pending =>
        by_cases below : inner < id
        · simp only [below, ↓reduceIte]
          exact ih inner below bench
        · simp only [below, ↓reduceIte]

theorem make?_rewind (id : SourceId) (bench : Bench) : (bench.rewind id).make? = bench.make? := by
  rw [rewind]
  split
  · next stands => exact make?_put stands rfl
  · rfl

/-- No request and no announcement changes what the sources were made from. -/
theorem alike_make? (id : SourceId) (known : SourceId → Option SourceMake) :
    (source id).Alike (source id) fun bench twin => bench = twin ∧ bench.make? = known where
  announce := by
    rintro announcement bench _ ⟨rfl, same⟩
    exact ⟨rfl, (make?_announce id announcement bench).trans same⟩
  draw := by
    rintro low high bench _ ⟨rfl, same⟩
    exact ⟨rfl, rfl, (make?_draw id low high bench).trans same⟩

theorem make?_perform (bench : Bench) (id : SourceId) (operation : SourceOperation) :
    (bench.perform id operation).2.make? = bench.make? := by
  cases operation with
  | draw low high => exact make?_draw id low high bench
  | generate limit tree =>
    exact ((alike_make? id bench.make?).generate limit tree ⟨rfl, rfl⟩).2.2.2
  | record limit tree =>
    exact ((alike_make? id bench.make?).generateTraced limit tree ⟨rfl, rfl⟩).2.2.2.2
  | announce announcement => exact make?_announce id announcement bench
  | seed value => exact make?_seed id (some value) bench
  | rewind => exact make?_rewind id bench

/-- What was made from something is still made from it, whatever is done with the sources. -/
theorem make?_performAll (bench : Bench) (operations : List (SourceId × SourceOperation)) :
    (bench.performAll operations).2.make? = bench.make? := by
  induction operations generalizing bench with
  | nil => rfl
  | cons step rest ih =>
    obtain ⟨id, operation⟩ := step
    exact (ih (bench.perform id operation).2).trans (make?_perform bench id operation)

/-- Seeding a source puts in its place what a new one would be, but for the seeds that it was
given. -/
theorem exists_seed_eq_put {make : SourceMake} (made : bench.make? id = some make)
    (seed : make.Seed) :
    ∃ source, bench.seed id (make.given seed) = bench.put id source ∧
      source.withoutSeeds = (make.fresh seed).withoutSeeds := by
  rw [make?] at made
  cases stands : bench.source? id with
  | none =>
    rw [stands] at made
    cases made
  | some source =>
    rw [stands] at made
    rw [Bench.seed, stands]
    cases source with
    | recording inner trace pending => cases made
    | _ =>
      obtain rfl := Option.some.inj made
      exact ⟨_, rfl, rfl⟩

end Bench

/-! ## Generation in a workshop -/

namespace Work

/-- The limit on repetitions has nothing to do with the sources. -/
theorem limitFor_withBench (bounds : Bounds) (shop : Workshop) (bench : Bench) :
    (limitFor bounds).run.run { shop with bench } =
      (((limitFor bounds).run.run shop).1, { ((limitFor bounds).run.run shop).2 with bench }) := by
  rw [run_limitFor, run_limitFor]
  split <;> rfl

/-- On benches that differ in lists of seeds alone the same is generated into a sink. -/
theorem generateInto_of_alike {bench twin : Bench} (same : bench.withoutSeeds = twin.withoutSeeds)
    (shop : Workshop) (tree : Tree) (source : SourceId) (sink : SinkId) :
    let ran bench := (generateInto tree source sink).run.run { shop with bench }
    (ran bench).1 = (ran twin).1 ∧ (ran bench).2.withoutSeeds = (ran twin).2.withoutSeeds := by
  intro ran
  have asked (bench : Bench) : (limitFor tree.bounds).run.run { shop with bench } = _ :=
    limitFor_withBench tree.bounds shop bench
  rcases answered : (limitFor tree.bounds).run.run shop with ⟨fault | limit, after⟩
  · simp only [answered] at asked
    simp only [ran, generateInto_of_fault (asked _), Workshop.withoutSeeds, same, and_self]
  · simp only [answered] at asked
    obtain ⟨outcome, events, later⟩ :=
      (Bench.alike_withoutSeeds source).generate limit tree same
    simp only [ran, generateInto_of_limit (asked _), Workshop.withoutSeeds, Visit.notices,
      Visit.emitted, outcome, events, later, and_self]

end Work

namespace Bench

/-- Whatever was done with the sources of a bench since a source was new, seeding it makes it as
good as new, but for the seeds that a script was given. From then on the same comes of whatever is
done with the sources of the bench as if a new one stood in its place, and nothing but such seeds
ever tells the two benches apart. So the same is generated into any sink of a workshop, or the same
of it before the same fault. -/
theorem seed_renews (make : SourceMake) (bench : Bench) (id : SourceId) (first again : make.Seed)
    (made : bench.source? id = some (make.fresh first))
    (history : List (SourceId × SourceOperation)) :
    let used := (bench.performAll history).2
    let seeded := used.seed id (make.given again)
    let new := used.put id (make.fresh again)
    (∃ source, seeded = used.put id source ∧
      source.withoutSeeds = (make.fresh again).withoutSeeds) ∧
    (∀ further, (seeded.performAll further).1 = (new.performAll further).1 ∧
      (seeded.performAll further).2.withoutSeeds = (new.performAll further).2.withoutSeeds) ∧
    ∀ (shop : Workshop) (tree : Tree) (sink : SinkId),
      let ran bench := (Work.generateInto tree id sink).run.run { shop with bench }
      (ran seeded).1 = (ran new).1 ∧ (ran seeded).2.withoutSeeds = (ran new).2.withoutSeeds := by
  intro used seeded new
  -- Of the history only this counts, however much of the source it used up.
  have still : used.make? id = some make := by
    rw [make?_performAll, make?, made]
    exact make.make?_fresh first
  obtain ⟨source, put, renewed⟩ := exists_seed_eq_put still again
  have same : seeded.withoutSeeds = new.withoutSeeds := by
    rw [show seeded = used.put id source from put, withoutSeeds_put, withoutSeeds_put, renewed]
  exact ⟨⟨source, put, renewed⟩, performAll_of_alike same, fun shop tree sink =>
    Work.generateInto_of_alike same shop tree id sink⟩

/-- A script of two values that starts over, and a recorder of it. -/
def rehearsal : Bench where
  sources := #[.scripted { values := [.int 1, .int 0], repeats := true }, .recording 0 0 none]
  traces := #[{ root := "vote" }]

/-- A vote on the script, a request past its recorder and a seed leave the cycle in its middle; once
it is seeded again it starts from its first value, as a new script does. -/
theorem seed_renews_rehearsal :
    let make : SourceMake := .script [.int 1, .int 0] .anything true 2147483647
    let history : List (SourceId × SourceOperation) :=
      [(0, .draw 4 3), (1, .generate none Tree.vote), (0, .seed 5), (0, .draw 0 1)]
    let used := (rehearsal.performAll history).2
    rehearsal.source? 0 = some (make.fresh (some 7)) ∧
      ∀ further, ((used.seed 0 none).performAll further).1 =
        ((used.put 0 (make.fresh none)).performAll further).1 := by
  intro make history used
  have renewed := seed_renews make rehearsal 0 (some 7 : Option Int) (none : Option Int) rfl history
  exact ⟨rfl, fun further => (renewed.2.1 further).1⟩

end Bench

end PatternForge
