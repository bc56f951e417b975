import PatternForge.Proofs.Parts

/-! # The discipline of draws

A scope makes draws of few kinds (`Tree.drawsOnly_ownVisit`), and those of a visit that ends well
are accounted for by how often the scope repeats (`Tree.accounts_of_ok`). What holds of single
visits adds up over a run: it draws each literal that it emits (`Tree.countP_literal_of_ok`).
-/

namespace PatternForge

variable {σ α β : Type}

def RecordedDraw.isFor (purpose : Purpose) (draw : RecordedDraw) : Bool :=
  draw.purpose == some purpose.name

theorem RecordedDraw.isFor_of_purpose {draw : RecordedDraw} {purpose : Purpose}
    (announced : draw.purpose = some purpose.name) (other : Purpose) :
    draw.isFor other = decide (purpose = other) := by
  rw [isFor, announced]
  cases purpose <;> cases other <;> rfl

namespace Visit

theorem countP_draws (visit : Visit σ α) (test : RecordedDraw → Bool) :
    visit.draws.countP test = visit.events.countP fun event => event.draw?.any test := by
  rw [draws_eq, List.countP_filterMap]
  congr 1
  funext event
  cases event.draw? <;> rfl

theorem length_emitted (visit : Visit σ α) :
    visit.emitted.length = visit.events.countP fun event => event.literal?.isSome := by
  rw [emitted, List.length_filterMap_eq_countP]

end Visit

namespace Part

/-- If in each visit to a child as many events pass one test as another, then what the scope does
itself makes all the difference between the two. -/
theorem balanced {limit : Option Int} {source : Source σ} {first second : Event → Bool}
    (parts : List (Part σ))
    (each : ∀ tree state, .child tree state ∈ parts →
      (tree.generate limit source state).events.countP first =
        (tree.generate limit source state).events.countP second) :
    (parts.flatMap (events limit source)).countP first + (parts.filterMap own?).countP second =
      (parts.flatMap (events limit source)).countP second + (parts.filterMap own?).countP first := by
  induction parts with
  | nil => rfl
  | cons part rest ih =>
    have later := ih fun tree state member => each tree state (.tail _ member)
    rw [List.flatMap_cons, List.countP_append, List.countP_append]
    cases part with
    | own event =>
      have kept : (own event :: rest).filterMap own? = event :: rest.filterMap own? := rfl
      simp only [kept, events, List.countP_cons, List.countP_nil]
      omega
    | child tree state =>
      have kept : (child tree state :: rest).filterMap own? = rest.filterMap own? := rfl
      have here : (events limit source (.child tree state)).countP first = _ :=
        each tree state List.mem_cons_self
      rw [kept, here]
      simp only [events]
      omega

end Part

namespace Tree

/-- A draw that a scope may make: it carries the name of the scope, and the range of what it
decides. -/
inductive Draws : Tree → RecordedDraw → Prop where
  /-- How often the scope repeats, if its bounds leave a choice. -/
  | count (tree : Tree) (value : Int) (nonneg : 0 ≤ tree.bounds.least)
      (spread : tree.bounds.least < tree.bounds.greatest) :
      Draws tree ⟨some tree.name, some Purpose.count.name, tree.bounds.least, tree.bounds.greatest,
        value⟩
  | literal (name : Text) (bounds : Bounds) (pool : List Text) (value : Int)
      (stocked : pool ≠ []) :
      Draws (.literal name bounds pool)
        ⟨some name, some Purpose.literal.name, 0, (pool.length : Int) - 1, value⟩
  | child (name : Text) (bounds : Bounds) (children : List Tree) (value : Int)
      (stocked : children ≠ []) :
      Draws (.group name bounds true children)
        ⟨some name, some Purpose.child.name, 0, (children.length : Int) - 1, value⟩

end Tree

/-- The draw that settles how often a scope repeats, unless its bounds leave no choice. -/
def Bounds.opening (name : Text) (bounds : Bounds) (count : Int) : List RecordedDraw :=
  if bounds.least < bounds.greatest then
    [⟨some name, some Purpose.count.name, bounds.least, bounds.greatest, count⟩]
  else []

section Own

variable {source : Source σ} {name purpose : Text} {bounds : Bounds} {low high : Int} {state : σ}

theorem drawValue_of_ok {value : Value}
    (returned : (drawValue source name purpose low high state).outcome = .ok value) :
    low ≤ value.number ∧ value.number ≤ high ∧
      (drawValue source name purpose low high state).draws =
        [⟨some name, some purpose, low, high, value.number⟩] ∧
      (drawValue source name purpose low high state).emitted = [] := by
  rcases drawn : source.draw low high (source.announce ⟨name, purpose⟩ state) with ⟨answer, after⟩
  simp only [drawValue, drawn] at returned ⊢
  cases answer with
  | error fault => cases returned
  | ok given =>
    cases inside : given.inRange low high with
    | false =>
      simp only [judge, inside, Bool.false_eq_true, ↓reduceIte] at returned
      cases returned
    | true =>
      simp only [judge, inside, ↓reduceIte, Except.ok.injEq] at returned
      obtain rfl := returned
      obtain ⟨lower, upper⟩ := Value.number_of_inRange inside
      exact ⟨lower, upper, rfl, rfl⟩

theorem resolve_of_ok {value : Value} (ordered : bounds.Ordered)
    (returned : (bounds.resolve source name state).outcome = .ok value) :
    bounds.least ≤ value.number ∧ value.number ≤ bounds.greatest ∧
      (bounds.resolve source name state).draws = bounds.opening name value.number ∧
      (bounds.resolve source name state).emitted = [] := by
  by_cases fixed : bounds.least = bounds.greatest
  · have closed : ¬ bounds.least < bounds.greatest := by omega
    simp only [Bounds.resolve, fixed, ↓reduceIte] at returned ⊢
    obtain rfl : Value.int bounds.greatest = value := Except.ok.inj returned
    rw [Bounds.opening, if_neg closed]
    exact ⟨Int.le_refl _, Int.le_refl _, rfl, rfl⟩
  · have spread : bounds.least < bounds.greatest := by
      have := ordered.2
      omega
    simp only [Bounds.resolve, fixed, ↓reduceIte] at returned ⊢
    rw [Bounds.opening, if_pos spread]
    exact drawValue_of_ok returned

end Own

namespace Visiting

/-- Every draw is of a kind. -/
def DrawsOnly (visiting : Visiting σ α) (allowed : RecordedDraw → Prop) : Prop :=
  ∀ state, ∀ step ∈ (visiting state).draws, allowed step

variable {allowed : RecordedDraw → Prop}

theorem drawsOnly_pure (result : α) : DrawsOnly (σ := σ) (pure result) allowed :=
  fun _ _ member => absurd member List.not_mem_nil

theorem drawsOnly_fail (fault : GenerationFault) : DrawsOnly (σ := σ) (α := α) (fail fault) allowed :=
  fun _ _ member => absurd member List.not_mem_nil

theorem drawsOnly_tell (notice : Notice) : DrawsOnly (σ := σ) (tell notice) allowed :=
  fun _ _ member => absurd member List.not_mem_nil

theorem drawsOnly_muted (visiting : Visiting σ α) : visiting.muted.DrawsOnly allowed :=
  fun _ _ member => absurd member List.not_mem_nil

theorem DrawsOnly.bind {first : Visiting σ α} {next : α → Visiting σ β}
    (only : first.DrawsOnly allowed) (following : ∀ result, (next result).DrawsOnly allowed) :
    (first >>= next).DrawsOnly allowed := by
  intro state step member
  rcases Visit.mem_draws_andThen member with member | ⟨result, -, member⟩
  · exact only state step member
  · exact following result _ step member

theorem DrawsOnly.times {body : Visiting σ Unit} (only : body.DrawsOnly allowed) (count : Nat) :
    (times count body).DrawsOnly allowed := by
  induction count with
  | zero => exact drawsOnly_pure ()
  | succ count ih => exact only.bind fun _ => ih

theorem drawsOnly_drawValue {source : Source σ} {name purpose : Text} {low high : Int}
    (every : ∀ value, allowed ⟨some name, some purpose, low, high, value⟩) :
    (drawValue source name purpose low high).DrawsOnly allowed := by
  intro state step member
  rcases drawn : source.draw low high (source.announce ⟨name, purpose⟩ state) with ⟨answer, after⟩
  simp only [Visit.draws_eq, drawValue, drawn] at member
  cases answer with
  | error fault => exact absurd member List.not_mem_nil
  | ok value =>
    rw [List.mem_singleton.mp member]
    exact every value.number

section Repeated

variable {limit : Option Int} {source : Source σ} {name : Text} {bounds : Bounds} {vacant : Prop}
  [Decidable vacant] {fault : ScopeFault} {notice : Int → Notice} {body : Visiting σ Unit}

/-- A scope draws how often it repeats, and what its repetitions draw. -/
theorem DrawsOnly.repeated
    (counts : 0 ≤ bounds.least → bounds.least < bounds.greatest → ∀ value,
      allowed ⟨some name, some Purpose.count.name, bounds.least, bounds.greatest, value⟩)
    (turns : ¬ vacant → body.DrawsOnly allowed) :
    (repeated limit source name bounds vacant fault notice body).DrawsOnly allowed := by
  cases checked : bounds.fault? name limit with
  | some reason =>
    rw [Visiting.repeated, checked]
    exact fun _ _ member => absurd member List.not_mem_nil
  | none =>
    obtain ⟨nonneg, ordered⟩ := (Bounds.fault?_eq_none_iff.mp checked).1
    rw [Visiting.repeated, checked]
    refine (drawsOnly_pure ()).bind fun _ => ?_
    split
    · exact drawsOnly_pure ()
    · split
      · exact drawsOnly_fail _
      · rename_i stocked
        refine DrawsOnly.bind ?_ fun value => ?_
        · rw [Bounds.resolve]
          split
          · exact drawsOnly_pure _
          · exact drawsOnly_drawValue (counts nonneg (by omega))
        · exact (drawsOnly_tell _).bind fun _ => (turns stocked).times _

/-- A scope that ends well repeats some number of times within its bounds, whatever it repeats. -/
theorem repeated_of_ok {state : σ}
    (returned : (repeated limit source name bounds vacant fault notice body state).outcome = .ok ()) :
    ∃ (count : Int) (after : σ),
      0 ≤ count ∧ bounds.least ≤ count ∧ count ≤ bounds.greatest ∧
      ∀ other : Visiting σ Unit,
        let visit := repeated limit source name bounds vacant fault notice other state
        visit.outcome = (times count.toNat other after).outcome ∧
          visit.draws = bounds.opening name count ++ (times count.toNat other after).draws ∧
          visit.emitted = (times count.toNat other after).emitted := by
  cases checked : bounds.fault? name limit with
  | some reason =>
    simp only [repeated, checked] at returned
    cases returned
  | none =>
    have ordered := (Bounds.fault?_eq_none_iff.mp checked).1
    obtain ⟨nonneg, order⟩ := ordered
    -- A silent scope settles nothing, and repeats no times.
    by_cases empty : bounds.greatest = 0
    · have least : bounds.least = 0 := by omega
      refine ⟨0, state, Int.le_refl 0, by omega, by omega, fun other => ?_⟩
      have closed : ¬ bounds.least < bounds.greatest := by omega
      have still : repeated limit source name bounds vacant fault notice other state =
          ⟨.ok (), [], state⟩ := by
        simp only [repeated, checked, empty, ↓reduceIte]
        rfl
      rw [Bounds.opening, if_neg closed]
      simp only [still]
      exact ⟨rfl, rfl, rfl⟩
    · by_cases gone : vacant
      · simp only [repeated, checked, empty, gone, ↓reduceIte] at returned
        cases returned
      · have shape (other : Visiting σ Unit) :
            repeated limit source name bounds vacant fault notice other state =
              (bounds.resolve source name state).andThen fun value after =>
                (times value.number.toNat other after).precededBy (.told (notice value.number)) := by
          simp only [repeated, checked, empty, gone, ↓reduceIte]
          rfl
        rw [shape] at returned
        obtain ⟨value, settled, -⟩ := Visit.ok_of_andThen returned
        obtain ⟨lower, upper, draws, emitted⟩ := resolve_of_ok ⟨nonneg, order⟩ settled
        refine ⟨value.number, (bounds.resolve source name state).source, Int.le_trans nonneg lower,
          lower, upper, fun other => ?_⟩
        rw [shape]
        refine ⟨?_, ?_, ?_⟩
        · rw [Visit.andThen_of_ok settled]
          rfl
        · rw [Visit.draws_andThen settled, draws]
          rfl
        · rw [Visit.emitted_andThen settled, emitted]
          rfl

end Repeated

/-- When it ends well it leaves so many draws and emits so many literals. -/
def Yields (body : Visiting σ Unit) (draws literals : Nat) : Prop :=
  ∀ state, (body state).outcome = .ok () →
    (body state).draws.length = draws ∧ (body state).emitted.length = literals

theorem Yields.times {body : Visiting σ Unit} {draws literals : Nat}
    (yields : body.Yields draws literals) (count : Nat) :
    (times count body).Yields (count * draws) (count * literals) := by
  induction count with
  | zero =>
    intro state _
    rw [Nat.zero_mul, Nat.zero_mul]
    exact ⟨rfl, rfl⟩
  | succ count ih =>
    intro state returned
    obtain ⟨_, first, rest⟩ := Visit.ok_of_andThen returned
    obtain ⟨drawn, emitted⟩ := yields state first
    obtain ⟨later, more⟩ := ih _ rest
    have leaves : (Visiting.times (count + 1) body state).draws = _ := Visit.draws_andThen first
    have fragments : (Visiting.times (count + 1) body state).emitted = _ :=
      Visit.emitted_andThen first
    refine ⟨?_, ?_⟩
    · rw [leaves, List.length_append, drawn, later, Nat.succ_mul, Nat.add_comm]
    · rw [fragments, List.length_append, emitted, more, Nat.succ_mul, Nat.add_comm]

theorem yields_muted (visiting : Visiting σ Unit) : visiting.muted.Yields 0 0 :=
  fun _ _ => ⟨rfl, rfl⟩

/-- What a scope does itself, if it yields so much in each repetition, and all that is done: both
begin with the draw for the number of repetitions, and this number tells how much the one yields. -/
theorem Yields.accounts {limit : Option Int} {source : Source σ} {name : Text} {bounds : Bounds}
    {vacant : Prop} [Decidable vacant] {fault : ScopeFault} {notice : Int → Notice}
    {own whole : Visiting σ Unit} {draws literals : Nat} (yields : own.Yields draws literals)
    (only : own.DrawsOnly allowed) {state : σ}
    (alone : (repeated limit source name bounds vacant fault notice own state).outcome = .ok ())
    (returned : (repeated limit source name bounds vacant fault notice whole state).outcome = .ok ()) :
    ∃ (count : Int) (turns others : List RecordedDraw),
      bounds.least ≤ count ∧ count ≤ bounds.greatest ∧
        (repeated limit source name bounds vacant fault notice own state).draws =
          bounds.opening name count ++ turns ∧
        (repeated limit source name bounds vacant fault notice whole state).draws =
          bounds.opening name count ++ others ∧
        turns.length = count * draws ∧
        (repeated limit source name bounds vacant fault notice own state).emitted.length =
          count * literals ∧
        ∀ step ∈ turns, allowed step := by
  obtain ⟨count, after, nonneg, lower, upper, every⟩ := repeated_of_ok returned
  obtain ⟨outcome, kept, emitted⟩ := every own
  obtain ⟨-, all, -⟩ := every whole
  obtain ⟨leaves, fragments⟩ := yields.times count.toNat after (outcome.symm.trans alone)
  refine ⟨count, _, _, lower, upper, kept, all, ?_, ?_, only.times count.toNat after⟩
  · rw [leaves, Int.natCast_mul, Int.toNat_of_nonneg nonneg]
  · rw [emitted, fragments, Int.natCast_mul, Int.toNat_of_nonneg nonneg]

end Visiting

namespace Tree

variable {limit : Option Int} {source : Source σ} {name : Text}

theorem yields_visitPool (pool : List Text) : (visitPool source name pool).Yields 1 1 := by
  intro state returned
  obtain ⟨index, drawn, -⟩ := Visit.ok_of_andThen returned
  obtain ⟨-, -, draws, emitted⟩ := drawValue_of_ok drawn
  have all : (visitPool source name pool state).draws = _ := Visit.draws_andThen drawn
  have literals : (visitPool source name pool state).emitted = _ := Visit.emitted_andThen drawn
  rw [all, literals, draws, emitted]
  exact ⟨rfl, rfl⟩

theorem drawsOnly_visitPool {allowed : RecordedDraw → Prop} {pool : List Text}
    (every : ∀ value,
      allowed ⟨some name, some Purpose.literal.name, 0, (pool.length : Int) - 1, value⟩) :
    (visitPool source name pool).DrawsOnly allowed :=
  (Visiting.drawsOnly_drawValue every).bind fun _ _ _ member => absurd member List.not_mem_nil

theorem yields_visitChildren (alternating : Bool) (count : Nat) (all : Visiting σ Unit)
    (one : Nat → Visiting σ Unit) :
    (visitChildren source name alternating count all.muted fun index => (one index).muted).Yields
      (if alternating then 1 else 0) 0 := by
  cases alternating with
  | false => exact Visiting.yields_muted all
  | true =>
    intro state returned
    obtain ⟨index, drawn, -⟩ := Visit.ok_of_andThen returned
    obtain ⟨-, -, draws, emitted⟩ := drawValue_of_ok drawn
    have leaves : (visitChildren source name true count all.muted
        (fun index => (one index).muted) state).draws = _ := Visit.draws_andThen drawn
    have literals : (visitChildren source name true count all.muted
        (fun index => (one index).muted) state).emitted = _ := Visit.emitted_andThen drawn
    rw [leaves, literals, draws, emitted]
    exact ⟨rfl, rfl⟩

theorem drawsOnly_visitChildren {allowed : RecordedDraw → Prop} {alternating : Bool} {count : Nat}
    (every : alternating = true → ∀ value,
      allowed ⟨some name, some Purpose.child.name, 0, (count : Int) - 1, value⟩)
    (all : Visiting σ Unit) (one : Nat → Visiting σ Unit) :
    (visitChildren source name alternating count all.muted fun index =>
      (one index).muted).DrawsOnly allowed := by
  cases alternating with
  | false => exact Visiting.drawsOnly_muted all
  | true => exact (Visiting.drawsOnly_drawValue (every rfl)).bind fun _ => Visiting.drawsOnly_muted _

/-- A scope makes only draws of its own. -/
theorem drawsOnly_ownVisit (tree : Tree) :
    (tree.ownVisit limit source).DrawsOnly tree.Draws := by
  cases tree with
  | literal name bounds pool =>
    rw [ownVisit, visitLiteral_eq]
    refine .repeated (fun nonneg spread value => .count (.literal name bounds pool) value nonneg spread)
      fun stocked => ?_
    refine drawsOnly_visitPool fun value => .literal name bounds pool value ?_
    rintro rfl
    exact stocked rfl
  | group name bounds alternating children =>
    rw [ownVisit, visitGroup_eq]
    refine .repeated (fun nonneg spread value =>
      .count (.group name bounds alternating children) value nonneg spread) fun stocked => ?_
    refine drawsOnly_visitChildren (fun turns value => ?_) _ _
    obtain rfl := turns
    refine .child name bounds children value ?_
    rintro rfl
    exact stocked rfl

/-- The draws that a scope makes itself in its repetitions, so many of them, and the literals that
it emits: a leaf draws each literal that it emits, an alternating group draws each child that it
takes, and any other group draws nothing. -/
def Turns (count : Int) (turns : List RecordedDraw) (emitted : List Text) : Tree → Prop
  | literal .. => turns.length = count ∧ emitted.length = count ∧
      ∀ step ∈ turns, step.purpose = some Purpose.literal.name
  | group _ _ true _ => turns.length = count ∧ emitted = [] ∧
      ∀ step ∈ turns, step.purpose = some Purpose.child.name
  | group _ _ false _ => turns = [] ∧ emitted = []

/-- The draws of a visit that ended well are accounted for. The scope repeats some number of times
within its bounds. A draw for this number comes first, unless the bounds leave no choice, and after
it the scope itself makes those of its repetitions only. -/
def Accounts (tree : Tree) (whole own : Visit σ Unit) : Prop :=
  ∃ (count : Int) (turns others : List RecordedDraw),
    tree.bounds.least ≤ count ∧ count ≤ tree.bounds.greatest ∧
      own.draws = tree.bounds.opening tree.name count ++ turns ∧
      whole.draws = tree.bounds.opening tree.name count ++ others ∧
      tree.Turns count turns own.emitted

theorem accounts_of_ok {tree : Tree} {state : σ}
    (returned : (tree.generate limit source state).outcome = .ok ()) :
    tree.Accounts (tree.generate limit source state) (tree.ownVisit limit source state) := by
  have alone : (tree.ownVisit limit source state).outcome = .ok () := by
    obtain ⟨parts, consists⟩ := splits_generate limit source tree state
    exact consists.outcome.trans returned
  cases tree with
  | literal name bounds pool =>
    rw [ownVisit, visitLiteral_eq] at alone ⊢
    rw [generate, visitLiteral_eq] at returned ⊢
    have purposes : (visitPool source name pool).DrawsOnly
        fun step => step.purpose = some Purpose.literal.name := drawsOnly_visitPool fun _ => rfl
    obtain ⟨count, turns, others, lower, upper, own, whole, draws, literals, only⟩ :=
      (yields_visitPool pool).accounts purposes alone returned
    refine ⟨count, turns, others, lower, upper, own, whole, ?_, ?_, only⟩
    · omega
    · omega
  | group name bounds alternating children =>
    rw [ownVisit, visitGroup_eq] at alone ⊢
    rw [generate, visitGroup_eq] at returned ⊢
    have purposes : (visitChildren source name alternating children.length
        (generateAll limit source children).muted
        fun index => (generateOne limit source children index).muted).DrawsOnly
          fun step => step.purpose = some Purpose.child.name :=
      drawsOnly_visitChildren (fun _ _ => rfl) _ _
    obtain ⟨count, turns, others, lower, upper, own, whole, draws, literals, only⟩ :=
      (yields_visitChildren alternating children.length _ _).accounts purposes alone returned
    refine ⟨count, turns, others, lower, upper, own, whole, ?_⟩
    have silent := List.eq_nil_of_length_eq_zero (Int.natCast_eq_zero.mp (literals.trans (by omega)))
    cases alternating with
    | false => exact ⟨List.eq_nil_of_length_eq_zero (by simpa using draws), silent⟩
    | true => exact ⟨by simpa using draws, silent, only⟩

/-- What a scope does itself in a visit that is accounted for draws each literal that it emits. -/
theorem Accounts.countP_literal {tree : Tree} {whole own : Visit σ Unit}
    (accounts : tree.Accounts whole own) :
    own.draws.countP (RecordedDraw.isFor .literal) = own.emitted.length := by
  obtain ⟨count, turns, others, -, -, draws, -, turned⟩ := accounts
  have opening : (tree.bounds.opening tree.name count).countP (RecordedDraw.isFor .literal) = 0 := by
    rw [Bounds.opening]
    split <;> rfl
  rw [draws, List.countP_append, opening, Nat.zero_add]
  cases tree with
  | literal name bounds pool =>
    obtain ⟨drawn, emitted, purposes⟩ := turned
    have all : turns.countP (RecordedDraw.isFor .literal) = turns.length :=
      List.countP_eq_length.mpr fun step member =>
        RecordedDraw.isFor_of_purpose (purposes step member) .literal
    omega
  | group name bounds alternating children =>
    cases alternating with
    | false =>
      obtain ⟨rfl, emitted⟩ := turned
      rw [emitted]
      rfl
    | true =>
      obtain ⟨-, emitted, purposes⟩ := turned
      rw [emitted]
      refine List.countP_eq_zero.mpr fun step member => ?_
      rw [RecordedDraw.isFor_of_purpose (purposes step member)]
      decide

/-- A visit that ends well draws each literal that it emits. -/
theorem countP_literal_of_ok {tree : Tree} {state : σ}
    (returned : (tree.generate limit source state).outcome = .ok ()) :
    (tree.generate limit source state).draws.countP (RecordedDraw.isFor .literal) =
      (tree.generate limit source state).emitted.length := by
  induction tree using induct_children generalizing state with
  | step tree each =>
    -- The visits to the children balance, and so does what the scope does itself.
    obtain ⟨parts, consists⟩ := splits_generate limit source tree state
    have own := (accounts_of_ok returned).countP_literal
    have parted (child : Tree) (middle : σ) (listed : .child child middle ∈ parts) :=
      each child (consists.among child middle listed) (consists.finished () returned child middle listed)
    simp only [Visit.countP_draws, Visit.length_emitted] at own parted ⊢
    rw [consists.kept] at own
    rw [consists.events]
    have balanced := Part.balanced parts parted
    omega

theorem Draws.exists_purpose {tree : Tree} {draw : RecordedDraw} (draws : tree.Draws draw) :
    ∃ purpose : Purpose, draw.purpose = some purpose.name := by
  cases draws with
  | count => exact ⟨.count, rfl⟩
  | literal => exact ⟨.literal, rfl⟩
  | child => exact ⟨.child, rfl⟩

/-- The numbers of a visit that ends well lie in the ranges that they were drawn from. -/
theorem inRange_of_mem_draws {tree : Tree} {state : σ}
    (returned : (tree.generate limit source state).outcome = .ok ()) {draw : RecordedDraw}
    (made : draw ∈ (tree.generate limit source state).draws) :
    draw.low ≤ draw.value ∧ draw.value ≤ draw.high := by
  rw [generate_eq_run] at returned made
  obtain ⟨exchange, asked, recorded⟩ := List.mem_filterMap.mp made
  obtain ⟨value, answer, inside⟩ := Dialogue.inRange_of_run returned exchange asked
  simp only [Exchange.recorded?, answer, Option.some.injEq] at recorded
  obtain rfl := recorded
  exact Value.number_of_inRange inside

end Tree

namespace Trace

theorem countOf_eq (trace : Trace) (purpose : Purpose) :
    trace.countOf purpose = trace.draws.countP (RecordedDraw.isFor purpose) := by
  simp only [countOf, countDraws, Option.isNone_some, Option.isNone_none, Bool.false_or,
    Bool.true_or, Bool.and_true]
  rfl

/-- If every draw is for one of the purposes, these make up the number of draws. -/
theorem length_draws {trace : Trace}
    (known : ∀ draw ∈ trace.draws, ∃ purpose : Purpose, draw.purpose = some purpose.name) :
    trace.draws.length = trace.countOf .count + trace.countOf .literal + trace.countOf .child := by
  rw [countOf_eq, countOf_eq, countOf_eq]
  obtain ⟨root, output, draws⟩ := trace
  simp only at known ⊢
  induction draws with
  | nil => rfl
  | cons draw rest ih =>
    obtain ⟨purpose, announced⟩ := known draw List.mem_cons_self
    have rest := ih fun other member => known other (.tail _ member)
    simp only [List.length_cons, List.countP_cons, RecordedDraw.isFor_of_purpose announced,
      decide_eq_true_eq]
    cases purpose with
    | count => simp only [reduceCtorEq, ↓reduceIte]; omega
    | literal => simp only [reduceCtorEq, ↓reduceIte]; omega
    | child => simp only [reduceCtorEq, ↓reduceIte]; omega

end Trace

namespace Tree

variable {draw : (low high : Int) → σ → Except DrawFault Value × σ}

/-- A recorded visit to which whole numbers were given records its draws. -/
theorem trace_generate_of_whole {limit : Option Int} {tree : Tree} {start : Traced σ}
    (whole : ∀ exchange ∈ (tree.generate limit (.ofDraw draw) start.inner).exchanges,
      exchange.isWhole) :
    (tree.generate limit (Traced.source (.ofDraw draw)) start).source.trace =
      start.trace.append (tree.generate limit (Traced.source (.ofDraw draw)) start).draws := by
  rw [generate_traced whole]
  rfl

/-- The draws of a recorded run whose source gives whole numbers, whether it ends well or not. Each
is made by a scope itself in a visit to it, and is one that the scope may make. A visit on the way
that ends well is made of what the scope does itself and of visits to its children, and its draws
are accounted for. If the whole run ends well, its draws are those for the three purposes, one of
them for each literal that is emitted, and each number lies in its range. -/
theorem draws_of_recorded (limit : Option Int)
    (draw : (low high : Int) → σ → Except DrawFault Value × σ) (tree : Tree) (start : Traced σ)
    (whole : ∀ exchange ∈ (tree.generate limit (.ofDraw draw) start.inner).exchanges,
      exchange.isWhole) :
    let source := Traced.source (.ofDraw draw)
    let recorded := tree.generate limit source start
    recorded.source.trace = start.trace.append recorded.draws ∧
      (∀ step ∈ recorded.draws, ∃ node state, Visits limit source tree start node state ∧
        step ∈ (node.ownVisit limit source state).draws ∧ node.Draws step) ∧
      (∀ node state, Visits limit source tree start node state →
        let visit := node.generate limit source state
        let own := node.ownVisit limit source state
        visit.outcome = .ok () → visit.source.trace = state.trace.append visit.draws ∧
          (∃ parts, Visit.ConsistsOf limit source node.children visit own parts) ∧
          node.Accounts visit own) ∧
      ∀ text trace, tree.trace limit (.ofDraw draw) start.inner = .ok (text, trace) →
        trace.draws.length =
            trace.countOf .count + trace.countOf .literal + trace.countOf .child ∧
          trace.countOf .literal = recorded.emitted.length ∧
          ∀ step ∈ trace.draws, step.low ≤ step.value ∧ step.value ≤ step.high := by
  intro source recorded
  refine ⟨trace_generate_of_whole whole, ?_, ?_, ?_⟩
  · intro step made
    obtain ⟨node, state, visits, own⟩ := exists_visit_of_mem_draws made
    exact ⟨node, state, visits, own, drawsOnly_ownVisit node state step own⟩
  · intro node state _ visit own returned
    exact ⟨trace_generate_of_whole (whole_of_recorded returned),
      splits_generate limit source node state, accounts_of_ok returned⟩
  · -- The run by itself wrote this trace, so what is known of visits holds of its draws.
    intro text trace traced
    obtain ⟨returned, -, written⟩ := ran_of_trace traced
    obtain rfl : _ = trace := congrArg Prod.snd written
    have literals := countP_literal_of_ok returned
    have same : recorded.emitted = (tree.generate limit (.ofDraw draw) start.inner).emitted :=
      congrArg Visit.emitted (generate_traced whole)
    refine ⟨Trace.length_draws ?_, ?_, fun step made => inRange_of_mem_draws returned made⟩
    · intro step made
      obtain ⟨node, state, -, own⟩ := exists_visit_of_mem_draws made
      exact (drawsOnly_ownVisit node state step own).exists_purpose
    · rw [Trace.countOf_eq, same]
      exact literals

/-- A vote, up to twice, and after each a vote that may not be taken twice. -/
def ballot : Tree :=
  .group "ballot" ⟨1, 2⟩ false [vote, .group "recount" ⟨1, 1⟩ true [vote]]

/-- A ballot with two answers and none in the recount draws six times: the recount itself does not
draw how often it is taken. -/
theorem draws_of_recorded_ballot :
    let script : Scripted := { values := [.int 1, .int 2, .bool true, .int 0, .int 0, .int 0] }
    let source := Traced.source Scripted.source
    let start := Traced.start "ballot" script
    let recorded := ballot.generate none source start
    let trace := recorded.source.trace.complete "noyes"
    (∀ exchange ∈ (ballot.generate none Scripted.source script).exchanges, exchange.isWhole) ∧
      ballot.trace none Scripted.source script = .ok ("noyes", trace) ∧
      recorded.draws = [⟨some "ballot", some "count", 1, 2, 1⟩, ⟨some "vote", some "count", 0, 2, 2⟩,
        ⟨some "vote", some "literal", 0, 1, 1⟩, ⟨some "vote", some "literal", 0, 1, 0⟩,
        ⟨some "recount", some "child", 0, 0, 0⟩, ⟨some "vote", some "count", 0, 2, 0⟩] ∧
      trace.draws.length =
        trace.countOf .count + trace.countOf .literal + trace.countOf .child ∧
      trace.countOf .literal = recorded.emitted.length ∧
      (∀ step ∈ recorded.draws, ∃ node state, Visits none source ballot start node state ∧
        step ∈ (node.ownVisit none source state).draws ∧ node.Draws step) ∧
      ballot.Accounts recorded (ballot.ownVisit none source start) := by
  obtain ⟨-, made, accounts, traced⟩ := draws_of_recorded none Scripted.draw ballot
    (Traced.start "ballot" { values := [.int 1, .int 2, .bool true, .int 0, .int 0, .int 0] })
    (by decide)
  obtain ⟨total, literals, -⟩ := traced "noyes" _ rfl
  exact ⟨by decide, rfl, rfl, total, literals, made, (accounts _ _ (.itself _ _) rfl).2.2⟩

end Tree

end PatternForge
