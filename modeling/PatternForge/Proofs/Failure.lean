import Mathlib.Algebra.BigOperators.Ring.List
import Mathlib.Algebra.Order.BigOperators.Group.List
import PatternForge.Proofs.Language

/-! # Trees that fail

Whether a run can come upon a scope that generates nothing, and whether every run must, can be read
off a tree. A tree must fail exactly if it describes the empty language
(`Tree.language_eq_zero_iff_mustFail`), and it can fail in some way exactly if its dialogue can be
led to a scope that objects in this way (`Tree.leadsTo_iff_canFailBy`). A request lets the source
choose, so what can be led somewhere is led there by a source that has its answers ready.

A scope objects by a configuration error, unless a number in the wording is too long to be written.
Then the run ends there all the same, but with an error of another class.
-/

namespace PatternForge

/-- A source that answers a request by a number of the range, wherever the range has one. -/
def Source.Obliging {σ : Type} (source : Source σ) : Prop :=
  ∀ low high state, low ≤ high →
    ∃ value, (source.draw low high state).1 = .ok value ∧ value.inRange low high = true

/-- A source that has its answers ready. One that is not in the range, or is missing, is the least
number of the range instead. -/
def Source.prepared : Source (List Int) :=
  .ofDraw fun low high answers =>
    let answer := answers.headD low
    (.ok (.int (if low ≤ answer ∧ answer ≤ high then answer else low)), answers.tail)

theorem Source.obliging_prepared : Source.prepared.Obliging := by
  intro low high answers order
  refine ⟨_, rfl, Value.inRange_int_iff.mpr ?_⟩
  split
  · next inside => exact inside
  · exact ⟨le_rfl, order⟩

/-- A scope with these bounds can generate nothing: they are out of order or above the limit, or
there is nothing to repeat. -/
def Bounds.Unfit (bounds : Bounds) (limit : Option Int) (vacant : Prop) : Prop :=
  ¬bounds.Ordered ∨ (∃ bound ∈ limit, bound < bounds.greatest) ∨ 0 < bounds.greatest ∧ vacant

/-- The objection of a scope with these bounds, given the one that it has if there is nothing to
repeat. -/
def Bounds.ownFault? (bounds : Bounds) (scope : Text) (limit : Option Int) (vacant : Prop)
    [Decidable vacant] (fault : ScopeFault) : Option ScopeFault :=
  bounds.fault? scope limit <|> if bounds.greatest ≠ 0 ∧ vacant then some fault else none

namespace Tree

/-- The root has no literals or children. -/
def Vacant : Tree → Prop
  | literal _ _ pool => pool = []
  | group _ _ _ children => children = []

/-- The root can generate nothing. -/
def Bad (limit : Option Int) (tree : Tree) : Prop :=
  tree.bounds.Unfit limit tree.Vacant

/-- The objection of the root. -/
def ownFault? (limit : Option Int) : Tree → Option ScopeFault
  | literal name bounds pool => bounds.ownFault? name limit pool.isEmpty (.emptyPool name)
  | group name bounds _ children =>
    bounds.ownFault? name limit (children.length = 0) (.emptyGroup name)

/-- Some run comes upon a scope that can generate nothing. -/
inductive CanFail (limit : Option Int) : Tree → Prop where
  | bad {tree : Tree} (bad : tree.Bad limit) : CanFail limit tree
  /-- The group may repeat, and a run from a child comes upon one. -/
  | child {name : Text} {bounds : Bounds} {alternating : Bool} {children : List Tree}
      {child : Tree} (repeats : 1 ≤ bounds.greatest) (member : child ∈ children)
      (fails : CanFail limit child) : CanFail limit (.group name bounds alternating children)

/-- Every run comes upon a scope that can generate nothing. -/
inductive MustFail (limit : Option Int) : Tree → Prop where
  | bad {tree : Tree} (bad : tree.Bad limit) : MustFail limit tree
  /-- The group has to repeat, and a child that is always taken must fail. -/
  | sequence {name : Text} {bounds : Bounds} {children : List Tree} {child : Tree}
      (repeats : 1 ≤ bounds.least) (member : child ∈ children) (fails : MustFail limit child) :
      MustFail limit (.group name bounds false children)
  /-- The group has to repeat, and whichever child is taken must fail. -/
  | turns {name : Text} {bounds : Bounds} {children : List Tree} (repeats : 1 ≤ bounds.least)
      (fail : ∀ child ∈ children, MustFail limit child) :
      MustFail limit (.group name bounds true children)

/-- Some run ends at a scope whose objection is wanted. -/
inductive CanFailBy (limit : Option Int) (wanted : ScopeFault → Prop) : Tree → Prop where
  | own {tree : Tree} {fault : ScopeFault} (found : tree.ownFault? limit = some fault)
      (suits : wanted fault) : CanFailBy limit wanted tree
  /-- The group may repeat, and a run gets to a child from which another comes upon one. -/
  | sequence {name : Text} {bounds : Bounds} {children before after : List Tree} {child : Tree}
      (sound : ownFault? limit (.group name bounds false children) = none)
      (repeats : 1 ≤ bounds.greatest) (place : children = before ++ child :: after)
      (passable : ∀ earlier ∈ before, ¬MustFail limit earlier)
      (fails : CanFailBy limit wanted child) :
      CanFailBy limit wanted (.group name bounds false children)
  /-- The group may repeat, and a run from a child comes upon one. -/
  | turns {name : Text} {bounds : Bounds} {children : List Tree} {child : Tree}
      (sound : ownFault? limit (.group name bounds true children) = none)
      (repeats : 1 ≤ bounds.greatest) (member : child ∈ children)
      (fails : CanFailBy limit wanted child) :
      CanFailBy limit wanted (.group name bounds true children)

end Tree

/-! ## The empty language -/

instance : Nontrivial (Language Text) where
  exists_pair_ne := ⟨0, 1, fun same => Language.notMem_zero [] (same ▸ Language.nil_mem_one)⟩

/-- A language that is not empty has a word. -/
theorem exists_mem_of_ne_zero {language : Language Text} (occupied : language ≠ 0) :
    ∃ fragments, fragments ∈ language :=
  Set.nonempty_iff_ne_empty.mpr occupied

theorem ne_zero_of_mem {language : Language Text} {fragments : List Text}
    (member : fragments ∈ language) : language ≠ 0 := by
  rintro rfl
  exact Language.notMem_zero fragments member

instance : NoZeroDivisors (Language Text) where
  eq_zero_or_eq_zero_of_mul_eq_zero := by
    intro first second empty
    by_contra both
    obtain ⟨left, right⟩ := not_or.mp both
    obtain ⟨opening, before⟩ := exists_mem_of_ne_zero left
    obtain ⟨closing, after⟩ := exists_mem_of_ne_zero right
    exact ne_zero_of_mem (Language.append_mem_mul before after) empty

theorem Tree.choice_eq_zero_iff {pool : List Text} : choice pool = 0 ↔ pool = [] := by
  constructor
  · intro empty
    cases pool with
    | nil => rfl
    | cons literal rest =>
      exact absurd empty (ne_zero_of_mem ⟨literal, List.mem_cons_self, rfl⟩)
  · rintro rfl
    ext fragments
    constructor
    · rintro ⟨literal, member, -⟩
      cases member
    · intro member
      exact absurd member (Language.notMem_zero fragments)

theorem Bounds.not_unfit_iff {bounds : Bounds} {limit : Option Int} {vacant : Prop} :
    ¬bounds.Unfit limit vacant ↔ bounds.Ordered ∧ (∀ bound ∈ limit, bounds.greatest ≤ bound) ∧
      (bounds.greatest = 0 ∨ ¬vacant) := by
  have sign (ordered : bounds.Ordered) : ¬0 < bounds.greatest ↔ bounds.greatest = 0 := by
    obtain ⟨lower, upper⟩ := ordered
    omega
  rw [Unfit, not_or, not_or, not_not, not_and_or]
  push Not
  exact and_congr_right fun ordered => and_congr_right fun _ =>
    or_congr_left (by rw [← sign ordered, not_lt])

theorem Bounds.ownFault?_eq_none_iff {bounds : Bounds} {scope : Text} {limit : Option Int}
    {vacant : Prop} [Decidable vacant] {fault : ScopeFault} :
    bounds.ownFault? scope limit vacant fault = none ↔ ¬bounds.Unfit limit vacant := by
  rw [not_unfit_iff, ← and_assoc, ← @fault?_eq_none_iff bounds scope limit, ownFault?]
  cases bounds.fault? scope limit with
  | some own => exact iff_of_false nofun fun both => nomatch both.1
  | none =>
    by_cases silent : bounds.greatest = 0 <;> by_cases empty : vacant <;> simp [silent, empty]

/-- If the bounds and the limit can be written, the fault of having nothing to repeat is the only
one that might not be worded. -/
theorem Bounds.isSome_wording?_of_ownFault? {bounds : Bounds} {scope : Text} {limit : Option Int}
    {vacant : Prop} [Decidable vacant] {fault own : ScopeFault}
    (writable : bounds.areWritable = true)
    (limits : ∀ bound ∈ limit, Numeral.isWritable bound = true)
    (plain : fault.wording?.isSome = true)
    (found : bounds.ownFault? scope limit vacant fault = some own) :
    own.wording?.isSome = true := by
  rw [ownFault?] at found
  cases checked : bounds.fault? scope limit with
  | some other =>
    rw [checked] at found
    obtain rfl : other = own := Option.some.inj found
    exact isSome_wording?_of_fault? writable limits checked
  | none =>
    rw [checked] at found
    change (if _ then _ else _) = _ at found
    split at found
    · cases found
      exact plain
    · cases found

/-- What is repeated comes to nothing if the scope is unfit, or has to repeat what is nothing. -/
theorem Bounds.language_eq_zero_iff {bounds : Bounds} {limit : Option Int} {occupied : Prop}
    {block : Language Text} : bounds.language limit occupied block = 0 ↔
      bounds.Unfit limit (¬occupied) ∨ 1 ≤ bounds.least ∧ block = 0 := by
  constructor
  · intro empty
    by_contra neither
    obtain ⟨fit, loose⟩ := not_or.mp neither
    obtain ⟨ordered, within, source⟩ := not_unfit_iff.mp fit
    obtain ⟨lower, upper⟩ := ordered
    by_cases silent : bounds.greatest = 0
    · have member : [] ∈ bounds.language limit occupied block := by
        refine ⟨⟨lower, upper⟩, within, ?_⟩
        rw [if_pos silent]
      exact ne_zero_of_mem member empty
    · -- As few blocks as the bounds allow are some blocks, if any are needed.
      have some : block ^ bounds.least.toNat ≠ 0 := by
        by_cases idle : bounds.least = 0
        · rw [idle, Int.toNat_zero, pow_zero]
          exact one_ne_zero
        · exact pow_ne_zero _ fun nothing => loose ⟨by omega, nothing⟩
      obtain ⟨fragments, blocks⟩ := exists_mem_of_ne_zero some
      have member : fragments ∈ bounds.language limit occupied block := by
        refine ⟨⟨lower, upper⟩, within, ?_⟩
        rw [if_neg silent]
        exact ⟨not_not.mp (source.resolve_left silent), bounds.least.toNat, by omega, by omega,
          blocks⟩
      exact ne_zero_of_mem member empty
  · rintro (unfit | ⟨repeats, nothing⟩)
    · by_contra some
      obtain ⟨fragments, ordered, within, rest⟩ := exists_mem_of_ne_zero some
      refine not_unfit_iff.mpr ⟨ordered, within, ?_⟩ unfit
      split at rest
      · next silent => exact .inl silent
      · exact .inr (not_not.mpr rest.1)
    · by_contra some
      obtain ⟨fragments, ⟨lower, upper⟩, within, rest⟩ := exists_mem_of_ne_zero some
      rw [if_neg (by omega)] at rest
      obtain ⟨-, count, enough, -, member⟩ := rest
      rw [nothing, zero_pow (by omega)] at member
      exact Language.notMem_zero fragments member

/-- A scope that has to repeat, and has nothing to repeat, is unfit. -/
theorem Bounds.unfit_of_vacant {bounds : Bounds} (limit : Option Int) {vacant : Prop}
    (repeats : 1 ≤ bounds.least) (empty : vacant) : bounds.Unfit limit vacant := by
  by_contra fit
  obtain ⟨⟨lower, upper⟩, -, silent | occupied⟩ := not_unfit_iff.mp fit
  · omega
  · exact occupied empty

namespace Tree

variable {limit : Option Int} {name : Text} {bounds : Bounds} {pool : List Text}
  {alternating : Bool} {children : List Tree}

theorem mustFail_literal_iff :
    MustFail limit (.literal name bounds pool) ↔ bounds.Unfit limit (pool = []) := by
  constructor
  · intro fails
    cases fails with
    | bad bad => exact bad
  · intro unfit
    exact .bad unfit

/-- A group must fail by itself, or has to repeat what must fail. -/
theorem mustFail_group_iff : MustFail limit (.group name bounds alternating children) ↔
    bounds.Unfit limit (children = []) ∨ 1 ≤ bounds.least ∧
      if alternating then ∀ child ∈ children, MustFail limit child
      else ∃ child ∈ children, MustFail limit child := by
  constructor
  · intro fails
    cases fails with
    | bad bad => exact .inl bad
    | sequence repeats member fails => exact .inr ⟨repeats, _, member, fails⟩
    | turns repeats fail => exact .inr ⟨repeats, fail⟩
  · rintro (bad | ⟨repeats, fail⟩)
    · exact .bad bad
    · cases alternating with
      | false =>
        obtain ⟨child, member, fails⟩ := fail
        exact .sequence repeats member fails
      | true => exact .turns repeats fail

/-- A tree must fail if it describes nothing. -/
theorem language_eq_zero_iff_mustFail (limit : Option Int) (tree : Tree) :
    tree.language limit = 0 ↔ tree.MustFail limit := by
  induction tree using Tree.induct with
  | literal name bounds pool =>
    rw [language, Bounds.language_eq_zero_iff, choice_eq_zero_iff, mustFail_literal_iff, ne_eq,
      not_not, or_iff_left_of_imp]
    rintro ⟨repeats, empty⟩
    exact Bounds.unfit_of_vacant limit repeats empty
  | group name bounds alternating children each =>
    rw [language, Bounds.language_eq_zero_iff, mustFail_group_iff, ne_eq, not_not,
      languages_eq_map]
    refine or_congr_right (and_congr_right fun _ => ?_)
    cases alternating with
    | false =>
      simp only [Bool.false_eq_true, ↓reduceIte, List.prod_eq_zero_iff, List.mem_map]
      exact exists_congr fun child => and_congr_right fun member => each child member
    | true =>
      simp only [↓reduceIte, List.sum_eq_zero_iff, List.forall_mem_map]
      exact forall₂_congr fun child member => each child member

end Tree

/-! ## Ways to a scope that generates nothing -/

namespace Dialogue

variable {σ α β : Type}

variable {wanted : ScopeFault → Prop}

/-- Some answers in their ranges lead to a scope whose objection is wanted. -/
def LeadsTo (wanted : ScopeFault → Prop) : Dialogue α → Prop
  | finish _ => False
  | fail fault => wanted fault
  | emit _ rest => rest.LeadsTo wanted
  | tell _ rest => rest.LeadsTo wanted
  | ask _ low high next =>
    ∃ answer, low ≤ answer ∧ answer ≤ high ∧ (next answer).LeadsTo wanted

/-- What leads to a fault does so by itself, or comes to its end and what follows leads there. -/
theorem leadsTo_bind {first : Dialogue α} {following : α → Dialogue β} :
    (first >>= following).LeadsTo wanted ↔ first.LeadsTo wanted ∨
      ∃ answers fragments result, Course first answers fragments result ∧
        (following result).LeadsTo wanted := by
  change (first.bind following).LeadsTo wanted ↔ _
  induction first with
  | finish result =>
    constructor
    · intro leads
      exact .inr ⟨[], [], result, .finish result, leads⟩
    · rintro (⟨⟨⟩⟩ | ⟨answers, fragments, ended, course, leads⟩)
      cases course
      exact leads
  | fail fault =>
    refine (or_iff_left ?_).symm
    rintro ⟨answers, fragments, result, course, -⟩
    cases course
  | emit literal rest ih =>
    refine Iff.trans ih (or_congr_right ?_)
    constructor
    · rintro ⟨answers, fragments, result, course, leads⟩
      exact ⟨answers, literal :: fragments, result, .emit course, leads⟩
    · rintro ⟨answers, fragments, result, course, leads⟩
      cases course with
      | emit course => exact ⟨answers, _, result, course, leads⟩
  | tell notice rest ih =>
    refine Iff.trans ih (or_congr_right ?_)
    constructor
    · rintro ⟨answers, fragments, result, course, leads⟩
      exact ⟨answers, fragments, result, .tell course, leads⟩
    · rintro ⟨answers, fragments, result, course, leads⟩
      cases course with
      | tell course => exact ⟨answers, fragments, result, course, leads⟩
  | ask announcement low high next ih =>
    constructor
    · rintro ⟨answer, lower, upper, leads⟩
      rcases (ih answer).mp leads with here | ⟨answers, fragments, result, course, later⟩
      · exact .inl ⟨answer, lower, upper, here⟩
      · exact .inr ⟨answer :: answers, fragments, result, .ask lower upper course, later⟩
    · rintro (⟨answer, lower, upper, here⟩ | ⟨answers, fragments, result, course, later⟩)
      · exact ⟨answer, lower, upper, (ih answer).mpr (.inl here)⟩
      · cases course with
        | @ask _ _ _ answer _ answers _ _ lower upper course =>
          have leads := (ih answer).mpr (.inr ⟨answers, fragments, result, course, later⟩)
          exact ⟨answer, lower, upper, leads⟩

theorem leadsTo_then {first second : Dialogue Unit} :
    (first >>= fun _ => second).LeadsTo wanted ↔
      first.LeadsTo wanted ∨ first.outputs ≠ 0 ∧ second.LeadsTo wanted := by
  rw [leadsTo_bind]
  refine or_congr_right ?_
  constructor
  · rintro ⟨answers, fragments, result, course, leads⟩
    exact ⟨ne_zero_of_mem ⟨answers, course⟩, leads⟩
  · rintro ⟨some, leads⟩
    obtain ⟨fragments, answers, course⟩ := exists_mem_of_ne_zero some
    exact ⟨answers, fragments, (), course, leads⟩

/-- What leads to a fault when it is done often leads to one when it is done first. -/
theorem leadsTo_times {count : ℕ} {body : Dialogue Unit} :
    (times count body).LeadsTo wanted ↔ 0 < count ∧ body.LeadsTo wanted := by
  induction count with
  | zero => exact iff_of_false id fun both => absurd both.1 (Nat.lt_irrefl 0)
  | succ count ih =>
    rw [times, leadsTo_then, ih]
    constructor
    · rintro (here | ⟨-, -, later⟩)
      · exact ⟨Nat.succ_pos count, here⟩
      · exact ⟨Nat.succ_pos count, later⟩
    · rintro ⟨-, here⟩
      exact .inl here

/-- Between its bounds a scope settles on what leads on to a fault. -/
theorem leadsTo_settle {scope : Text} {bounds : Bounds} (ordered : bounds.Ordered)
    {following : Int → Dialogue Unit} :
    (bounds.settle scope >>= following).LeadsTo wanted ↔
      ∃ count, bounds.least ≤ count ∧ count ≤ bounds.greatest ∧
        (following count).LeadsTo wanted := by
  obtain ⟨sign, order⟩ := ordered
  by_cases fixed : bounds.least = bounds.greatest
  · have settled : bounds.settle scope >>= following = following bounds.least := by
      simp only [Bounds.settle, fixed, ↓reduceIte]
      rfl
    rw [settled]
    constructor
    · intro leads
      exact ⟨bounds.least, le_rfl, order, leads⟩
    · rintro ⟨count, lower, upper, leads⟩
      obtain rfl : count = bounds.least := by omega
      exact leads
  · have asked : bounds.settle scope >>= following =
        ask ⟨scope, Purpose.count.name⟩ bounds.least bounds.greatest following := by
      simp only [Bounds.settle, fixed, ↓reduceIte]
      rfl
    rw [asked]
    exact Iff.rfl

theorem not_leadsTo_pick (name : Text) (pool : List Text) :
    ¬(pick name pool).LeadsTo wanted := by
  rintro ⟨answer, lower, upper, leads⟩
  exact leads

/-- A turn leads to a fault if one of the children does. -/
theorem leadsTo_turn {name : Text} {count : ℕ} {one : ℕ → Dialogue Unit} :
    (turn name count one).LeadsTo wanted ↔ ∃ index < count, (one index).LeadsTo wanted := by
  constructor
  · rintro ⟨answer, lower, upper, leads⟩
    exact ⟨answer.toNat, by omega, leads⟩
  · rintro ⟨index, inside, leads⟩
    exact ⟨index, by omega, by omega, leads⟩

/-- A scope leads to its own objection, or has none and may repeat what leads to another. -/
theorem leadsTo_repeated (limit : Option Int) (name : Text) (bounds : Bounds) (vacant : Prop)
    [Decidable vacant] (fault : ScopeFault) (notice : Int → Notice) (body : Dialogue Unit) :
    (repeated limit name bounds vacant fault notice body).LeadsTo wanted ↔
      (∃ own, bounds.ownFault? name limit vacant fault = some own ∧ wanted own) ∨
        bounds.ownFault? name limit vacant fault = none ∧ 1 ≤ bounds.greatest ∧
          body.LeadsTo wanted := by
  have objects (own : ScopeFault) (rest : Prop) :
      wanted own ↔ (∃ other, some own = some other ∧ wanted other) ∨ some own = none ∧ rest := by
    simp only [Option.some.injEq, exists_eq_left', reduceCtorEq, false_and, or_false]
  have passes (rest : Prop) :
      (∃ other, none = some other ∧ wanted other) ∨ none = (none : Option ScopeFault) ∧ rest ↔
        rest := by
    simp only [reduceCtorEq, false_and, exists_false, true_and, false_or]
  cases checked : bounds.fault? name limit with
  | some own =>
    simp only [repeated, Bounds.ownFault?, checked]
    exact objects own _
  | none =>
    obtain ⟨ordered, -⟩ := Bounds.fault?_eq_none_iff.mp checked
    by_cases silent : bounds.greatest = 0
    · have idle : ¬1 ≤ bounds.greatest := by omega
      have ends : ¬(repeated limit name bounds vacant fault notice body).LeadsTo wanted := by
        rw [repeated, checked, if_pos silent]
        exact id
      have own : bounds.ownFault? name limit vacant fault = none := by
        rw [Bounds.ownFault?, checked, if_neg fun both => both.1 silent]
        rfl
      rw [own, passes]
      exact iff_of_false ends fun both => idle both.1
    · by_cases empty : vacant
      · have own : bounds.ownFault? name limit vacant fault = some fault := by
          rw [Bounds.ownFault?, checked, if_pos ⟨silent, empty⟩]
          rfl
        rw [own, repeated, checked, if_neg silent, if_pos empty]
        exact objects fault _
      · have own : bounds.ownFault? name limit vacant fault = none := by
          rw [Bounds.ownFault?, checked, if_neg fun both => empty both.2]
          rfl
        rw [own, passes, repeated, checked, if_neg silent, if_neg empty]
        refine (leadsTo_settle ordered).trans ?_
        constructor
        · rintro ⟨count, -, upper, leads⟩
          obtain ⟨repeats, here⟩ := leadsTo_times.mp leads
          exact ⟨by omega, here⟩
        · rintro ⟨repeats, here⟩
          exact ⟨bounds.greatest, ordered.2, le_rfl, leadsTo_times.mpr ⟨by omega, here⟩⟩

/-- A run that ends at a scope was led there, whatever the source does. -/
theorem leadsTo_of_run {source : Source σ} {dialogue : Dialogue α} {state : σ}
    {fault : ScopeFault} (suits : wanted fault)
    (failed : (dialogue.run source state).outcome = .error (.scope fault)) :
    dialogue.LeadsTo wanted := by
  induction dialogue generalizing state with
  | finish result => cases failed
  | fail own =>
    obtain rfl : own = fault := GenerationFault.scope.inj (Except.error.inj failed)
    exact suits
  | emit literal rest ih => exact ih failed
  | tell notice rest ih => exact ih failed
  | ask announcement low high next ih =>
    rcases run_ask_cases source announcement low high next state with
      ⟨fault, after, drawn, run⟩ | ⟨value, after, drawn, outside, run⟩ |
      ⟨value, after, drawn, inside, run⟩
    · rw [run] at failed
      cases failed
    · rw [run] at failed
      cases failed
    · rw [run] at failed
      obtain ⟨lower, upper⟩ := Value.number_of_inRange inside
      exact ⟨value.number, lower, upper, ih value.number failed⟩

/-- A source that has the right answers ready leads a run where it can be led. -/
theorem exists_run_of_leadsTo {dialogue : Dialogue α} (leads : dialogue.LeadsTo wanted) :
    ∃ answers fault,
      (dialogue.run Source.prepared answers).outcome = .error (.scope fault) ∧ wanted fault := by
  induction dialogue with
  | finish result => cases leads
  | fail fault => exact ⟨[], fault, rfl, leads⟩
  | emit literal rest ih => exact ih leads
  | tell notice rest ih => exact ih leads
  | ask announcement low high next ih =>
    obtain ⟨answer, lower, upper, leads⟩ := leads
    obtain ⟨answers, fault, failed, suits⟩ := ih answer leads
    refine ⟨answer :: answers, fault, ?_, suits⟩
    have kept : (if low ≤ answer ∧ answer ≤ high then answer else low) = answer :=
      if_pos ⟨lower, upper⟩
    have drawn : Source.prepared.draw low high (answer :: answers) = (.ok (.int answer), answers) :=
      congrArg (fun number => (Except.ok (Value.int number), answers)) kept
    rw [run_ask_accepted drawn (Value.inRange_int_iff.mpr ⟨lower, upper⟩)]
    exact failed

end Dialogue

/-! ## Trees -/

namespace Tree

variable {limit : Option Int} {name : Text} {bounds : Bounds} {pool : List Text}
  {alternating : Bool} {children : List Tree}

theorem canFail_literal_iff :
    CanFail limit (.literal name bounds pool) ↔ bounds.Unfit limit (pool = []) := by
  constructor
  · intro fails
    cases fails with
    | bad bad => exact bad
  · intro unfit
    exact .bad unfit

/-- A group can fail by itself, or may repeat what can fail. -/
theorem canFail_group_iff : CanFail limit (.group name bounds alternating children) ↔
    bounds.Unfit limit (children = []) ∨
      1 ≤ bounds.greatest ∧ ∃ child ∈ children, CanFail limit child := by
  constructor
  · intro fails
    cases fails with
    | bad bad => exact .inl bad
    | child repeats member fails => exact .inr ⟨repeats, _, member, fails⟩
  · rintro (bad | ⟨repeats, child, member, fails⟩)
    · exact .bad bad
    · exact .child repeats member fails

/-- A group that has to repeat may repeat, or is unfit. -/
private theorem canFail_of_repeats {child : Tree} (repeats : 1 ≤ bounds.least)
    (member : child ∈ children) (fails : CanFail limit child) :
    CanFail limit (.group name bounds alternating children) := by
  by_cases order : bounds.least ≤ bounds.greatest
  · exact .child (by omega) member fails
  · exact .bad (.inl fun ordered => order ordered.2)

/-- What must fail can fail. -/
theorem MustFail.canFail {tree : Tree} (fails : tree.MustFail limit) : tree.CanFail limit := by
  induction fails with
  | bad bad => exact .bad bad
  | sequence repeats member _ ih => exact canFail_of_repeats repeats member ih
  | @turns name bounds children repeats _ ih =>
    cases children with
    | nil => exact .bad (Bounds.unfit_of_vacant limit repeats rfl)
    | cons child rest =>
      exact canFail_of_repeats repeats List.mem_cons_self (ih child List.mem_cons_self)

theorem ownFault?_eq_none_iff {tree : Tree} : tree.ownFault? limit = none ↔ ¬tree.Bad limit := by
  cases tree with
  | literal name bounds pool =>
    rw [ownFault?, Bounds.ownFault?_eq_none_iff, List.isEmpty_iff]
    rfl
  | group name bounds alternating children =>
    rw [ownFault?, Bounds.ownFault?_eq_none_iff, List.length_eq_zero_iff]
    rfl

section Wanted

variable {wanted : ScopeFault → Prop}

theorem canFailBy_literal_iff : CanFailBy limit wanted (.literal name bounds pool) ↔
    ∃ own, (literal name bounds pool).ownFault? limit = some own ∧ wanted own := by
  constructor
  · intro fails
    cases fails with
    | own found suits => exact ⟨_, found, suits⟩
  · rintro ⟨own, found, suits⟩
    exact .own found suits

/-- A group objects by itself, or is fit and may repeat what fails. In a row of children one that
must fail hides those behind it. -/
theorem canFailBy_group_iff : CanFailBy limit wanted (.group name bounds alternating children) ↔
    (∃ own, (group name bounds alternating children).ownFault? limit = some own ∧ wanted own) ∨
      (group name bounds alternating children).ownFault? limit = none ∧ 1 ≤ bounds.greatest ∧
        if alternating then ∃ child ∈ children, CanFailBy limit wanted child
        else ∃ before child after, children = before ++ child :: after ∧
          (∀ earlier ∈ before, ¬MustFail limit earlier) ∧ CanFailBy limit wanted child := by
  constructor
  · intro fails
    cases fails with
    | own found suits => exact .inl ⟨_, found, suits⟩
    | sequence sound repeats place passable fails =>
      exact .inr ⟨sound, repeats, _, _, _, place, passable, fails⟩
    | turns sound repeats member fails => exact .inr ⟨sound, repeats, _, member, fails⟩
  · rintro (⟨own, found, suits⟩ | ⟨sound, repeats, fails⟩)
    · exact .own found suits
    · cases alternating with
      | false =>
        obtain ⟨before, child, after, place, passable, fails⟩ := fails
        exact .sequence sound repeats place passable fails
      | true =>
        obtain ⟨child, member, fails⟩ := fails
        exact .turns sound repeats member fails

/-- Where all numbers can be written, every objection can be worded. -/
theorem Writable.isSome_wording? {tree scope : Tree} {fault : ScopeFault}
    (writable : tree.Writable limit) (member : scope ∈ tree.scopes)
    (found : scope.ownFault? limit = some fault) : fault.wording?.isSome = true := by
  have bounds := writable.1 scope member
  cases scope with
  | literal => exact Bounds.isSome_wording?_of_ownFault? bounds writable.2 rfl found
  | group => exact Bounds.isSome_wording?_of_ownFault? bounds writable.2 rfl found

/-- Where an objection of the root is wanted, the root has one if it is bad. -/
theorem exists_wanted {tree : Tree}
    (all : ∀ fault, tree.ownFault? limit = some fault → wanted fault) :
    (∃ own, tree.ownFault? limit = some own ∧ wanted own) ↔ tree.Bad limit := by
  rw [← not_iff_not, ← ownFault?_eq_none_iff]
  constructor
  · intro none
    by_contra some
    obtain ⟨own, found⟩ := Option.ne_none_iff_exists'.mp some
    exact none ⟨own, found, all own found⟩
  · rintro none ⟨own, found, -⟩
    rw [none] at found
    cases found

/-- Of the trees with a property one is the first. -/
theorem exists_first {property : Tree → Prop} {child : Tree} (member : child ∈ children)
    (holds : property child) : ∃ before first after, children = before ++ first :: after ∧
      (∀ earlier ∈ before, ¬property earlier) ∧ property first := by
  classical
  have some : (children.find? fun tree => property tree).isSome :=
    List.find?_isSome.mpr ⟨child, member, decide_eq_true holds⟩
  obtain ⟨first, found⟩ := Option.isSome_iff_exists.mp some
  obtain ⟨holds, before, after, place, others⟩ := List.find?_eq_some_iff_append.mp found
  refine ⟨before, first, after, place, fun earlier met => ?_, of_decide_eq_true holds⟩
  simpa only [Bool.not_eq_true', decide_eq_false_iff_not] using others earlier met

/-- Where every objection in a tree is wanted, the tree can fail so if it can fail at all. -/
theorem canFailBy_iff_canFail {tree : Tree}
    (all : ∀ scope ∈ tree.scopes, ∀ fault, scope.ownFault? limit = some fault → wanted fault) :
    tree.CanFailBy limit wanted ↔ tree.CanFail limit := by
  induction tree using Tree.induct with
  | literal name bounds pool =>
    rw [canFailBy_literal_iff, exists_wanted (all _ (mem_scopes_self _)), canFail_literal_iff]
    rfl
  | group name bounds alternating children each =>
    have below : ∀ child ∈ children, (child.CanFailBy limit wanted ↔ child.CanFail limit) :=
      fun child member => each child member fun scope found =>
        all scope (mem_scopes_of_child member found)
    rw [canFailBy_group_iff, exists_wanted (all _ (mem_scopes_self _)), canFail_group_iff,
      ownFault?_eq_none_iff]
    by_cases bad : (group name bounds alternating children).Bad limit
    · exact iff_of_true (.inl bad) (.inl bad)
    · have fit : ¬bounds.Unfit limit (children = []) := bad
      rw [or_iff_right bad, or_iff_right fit, and_iff_right bad]
      refine and_congr_right fun repeats => ?_
      cases alternating with
      | true => exact exists_congr fun child => and_congr_right (below child)
      | false =>
        constructor
        · rintro ⟨before, child, after, rfl, -, fails⟩
          have member : child ∈ before ++ child :: after :=
            List.mem_append_right _ List.mem_cons_self
          exact ⟨child, member, (below child member).mp fails⟩
        · rintro ⟨child, member, fails⟩
          obtain ⟨before, first, after, place, others, fails⟩ := exists_first member fails
          have member : first ∈ children := place ▸ List.mem_append_right _ List.mem_cons_self
          have passable : ∀ earlier ∈ before, ¬MustFail limit earlier := fun earlier met must =>
            others earlier met must.canFail
          exact ⟨before, first, after, place, passable, (below first member).mpr fails⟩

section Children

variable (each : ∀ child ∈ children,
  (child.dialogue limit).LeadsTo wanted ↔ child.CanFailBy limit wanted)
include each

/-- A child that need not fail can end well, and lets the next one come. -/
private theorem leadsTo_dialogueAll :
    (dialogueAll limit children).LeadsTo wanted ↔
      ∃ before child after, children = before ++ child :: after ∧
        (∀ earlier ∈ before, ¬MustFail limit earlier) ∧ child.CanFailBy limit wanted := by
  induction children with
  | nil => simp [dialogueAll, pure, Dialogue.LeadsTo]
  | cons child rest ih =>
    have others := ih fun other member => each other (List.mem_cons_of_mem _ member)
    rw [dialogueAll, Dialogue.leadsTo_then, each child List.mem_cons_self, others,
      outputs_dialogue, ne_eq, language_eq_zero_iff_mustFail]
    constructor
    · rintro (here | ⟨passable, before, later, after, rfl, others, fails⟩)
      · exact ⟨[], child, rest, rfl, List.forall_mem_nil _, here⟩
      · exact ⟨child :: before, later, after, rfl, List.forall_mem_cons.mpr ⟨passable, others⟩,
          fails⟩
    · rintro ⟨before, later, after, place, passable, fails⟩
      cases before with
      | nil =>
        cases place
        exact .inl fails
      | cons first before =>
        cases place
        obtain ⟨here, others⟩ := List.forall_mem_cons.mp passable
        exact .inr ⟨here, before, later, after, rfl, others, fails⟩

private theorem leadsTo_dialogueOne {index : ℕ} (inside : index < children.length) :
    (dialogueOne limit children index).LeadsTo wanted ↔
      (children[index]).CanFailBy limit wanted := by
  induction children generalizing index with
  | nil => exact absurd inside (Nat.not_lt_zero index)
  | cons child rest ih =>
    cases index with
    | zero => exact each child List.mem_cons_self
    | succ index =>
      exact ih (fun other member => each other (List.mem_cons_of_mem _ member))
        (Nat.lt_of_succ_lt_succ inside)

private theorem leadsTo_turns :
    (Dialogue.turn name children.length (dialogueOne limit children)).LeadsTo wanted ↔
      ∃ child ∈ children, child.CanFailBy limit wanted := by
  rw [Dialogue.leadsTo_turn]
  constructor
  · rintro ⟨index, inside, leads⟩
    exact ⟨_, List.getElem_mem inside, (leadsTo_dialogueOne each inside).mp leads⟩
  · rintro ⟨child, member, fails⟩
    obtain ⟨index, inside, rfl⟩ := List.mem_iff_getElem.mp member
    exact ⟨index, inside, (leadsTo_dialogueOne each inside).mpr fails⟩

end Children

/-- The dialogue of a tree leads to an objection that is wanted if the tree can fail by one. -/
theorem leadsTo_iff_canFailBy (limit : Option Int) (wanted : ScopeFault → Prop) (tree : Tree) :
    (tree.dialogue limit).LeadsTo wanted ↔ tree.CanFailBy limit wanted := by
  induction tree using Tree.induct with
  | literal name bounds pool =>
    rw [dialogue, Dialogue.literal, Dialogue.leadsTo_repeated, canFailBy_literal_iff]
    exact or_iff_left fun repeats => Dialogue.not_leadsTo_pick name pool repeats.2.2
  | group name bounds alternating children each =>
    rw [dialogue, Dialogue.group, Dialogue.leadsTo_repeated, canFailBy_group_iff]
    refine or_congr_right (and_congr_right fun _ => and_congr_right fun _ => ?_)
    cases alternating with
    | false => exact leadsTo_dialogueAll each
    | true => exact leadsTo_turns each

/-- Some obliging source leads a run to an objection that is wanted if the tree can fail by one. -/
theorem exists_source_iff_canFailBy (limit : Option Int) (wanted : ScopeFault → Prop)
    (tree : Tree) :
    (∃ (σ : Type) (source : Source σ) (state : σ), source.Obliging ∧
        ∃ fault, (tree.generate limit source state).outcome = .error (.scope fault) ∧
          wanted fault) ↔ tree.CanFailBy limit wanted := by
  rw [← leadsTo_iff_canFailBy]
  constructor
  · rintro ⟨σ, source, state, -, fault, failed, suits⟩
    rw [generate_eq_run] at failed
    exact Dialogue.leadsTo_of_run suits failed
  · intro leads
    obtain ⟨answers, fault, failed, suits⟩ := Dialogue.exists_run_of_leadsTo leads
    refine ⟨List Int, Source.prepared, answers, Source.obliging_prepared, fault, ?_, suits⟩
    rw [generate_eq_run]
    exact failed

end Wanted

/-- The objection that ends a run is that of a scope of the tree. -/
theorem exists_scope_of_canFailBy {tree : Tree} {wanted : ScopeFault → Prop}
    (fails : tree.CanFailBy limit wanted) :
    ∃ scope ∈ tree.scopes, ∃ fault, scope.ownFault? limit = some fault ∧ wanted fault := by
  induction fails with
  | own found suits => exact ⟨_, mem_scopes_self _, _, found, suits⟩
  | sequence _ _ place _ _ ih =>
    obtain ⟨scope, below, objects⟩ := ih
    subst place
    exact ⟨scope, mem_scopes_of_child (List.mem_append_right _ List.mem_cons_self) below, objects⟩
  | turns _ _ member _ ih =>
    obtain ⟨scope, below, objects⟩ := ih
    exact ⟨scope, mem_scopes_of_child member below, objects⟩

/-- Where all numbers can be written, a run that ends at a scope ends by a configuration error. -/
theorem Writable.isSome_wording?_of_outcome {σ : Type} {source : Source σ} {state : σ} {tree : Tree}
    {fault : ScopeFault} (writable : tree.Writable limit)
    (failed : (tree.generate limit source state).outcome = .error (.scope fault)) :
    fault.wording?.isSome = true := by
  rw [generate_eq_run] at failed
  have leads : (tree.dialogue limit).LeadsTo (· = fault) := Dialogue.leadsTo_of_run rfl failed
  obtain ⟨scope, member, _, found, rfl⟩ :=
    exists_scope_of_canFailBy ((leadsTo_iff_canFailBy _ _ _).mp leads)
  exact writable.isSome_wording? member found

/-- A run that ends at a scope is one of a tree that can fail. -/
theorem canFail_of_outcome {σ : Type} {source : Source σ} {state : σ} {tree : Tree}
    {fault : ScopeFault}
    (failed : (tree.generate limit source state).outcome = .error (.scope fault)) :
    tree.CanFail limit := by
  rw [generate_eq_run] at failed
  have leads : (tree.dialogue limit).LeadsTo fun _ => True :=
    Dialogue.leadsTo_of_run trivial failed
  exact (canFailBy_iff_canFail fun _ _ _ _ => trivial).mp ((leadsTo_iff_canFailBy _ _ _).mp leads)

/-- Some run ends well if the tree describes something. -/
theorem exists_run_iff_language_ne_zero (limit : Option Int) (tree : Tree) :
    (∃ (σ : Type) (source : Source σ) (state : σ),
      (tree.generate limit source state).outcome = .ok ()) ↔ tree.language limit ≠ 0 := by
  rw [← outputs_dialogue]
  constructor
  · rintro ⟨σ, source, state, returned⟩
    rw [generate_eq_run] at returned
    exact ne_zero_of_mem (Dialogue.exists_course_of_run returned)
  · intro some
    obtain ⟨fragments, answers, course⟩ := exists_mem_of_ne_zero some
    refine ⟨Scripted, Scripted.source, { values := answers.map Value.int }, ?_⟩
    rw [generate_eq_run]
    exact (course.run_script rfl rfl rfl).1

/-- Some source that gives only numbers of the ranges makes a run end at a scope that can generate
nothing, if and only if the tree can fail. What is raised there is a configuration error if the
objection can be worded, so it always is one if all numbers in question can be written. Some source
makes a run end well, if and only if the tree need not fail. So a scope that is silent, may be, or
takes turns with a child that need not fail hides whatever stands below it. -/
theorem exists_source_iff_canFail_mustFail (limit : Option Int) (tree : Tree) :
    let complains : Prop := ∃ (σ : Type) (source : Source σ) (state : σ), source.Obliging ∧
      ∃ fault, (tree.generate limit source state).outcome = .error fault ∧
        fault.report.kind = .configurationError
    ((∃ (σ : Type) (source : Source σ) (state : σ), source.Obliging ∧
        ∃ fault, (tree.generate limit source state).outcome = .error (.scope fault)) ↔
      tree.CanFail limit) ∧
    (complains ↔ tree.CanFailBy limit fun fault => fault.wording?.isSome = true) ∧
    (tree.Writable limit → (complains ↔ tree.CanFail limit)) ∧
    ((∃ (σ : Type) (source : Source σ) (state : σ),
        (tree.generate limit source state).outcome = .ok ()) ↔ ¬tree.MustFail limit) ∧
    ∀ name bounds alternating children, tree = .group name bounds alternating children →
      ¬tree.Bad limit →
        (bounds.greatest = 0 → ∀ (σ : Type) (source : Source σ) (state : σ),
          (tree.generate limit source state).outcome = .ok ()) ∧
        (bounds.least = 0 ∨ alternating = true ∧ (∃ child ∈ children, ¬child.MustFail limit) →
          ∃ (σ : Type) (source : Source σ) (state : σ),
            (tree.generate limit source state).outcome = .ok ()) := by
  intro complains
  have returns : (∃ (σ : Type) (source : Source σ) (state : σ),
      (tree.generate limit source state).outcome = .ok ()) ↔ ¬tree.MustFail limit := by
    rw [exists_run_iff_language_ne_zero, ne_eq, language_eq_zero_iff_mustFail]
  have ends : (∃ (σ : Type) (source : Source σ) (state : σ), source.Obliging ∧
      ∃ fault, (tree.generate limit source state).outcome = .error (.scope fault)) ↔
        tree.CanFail limit := by
    have any : tree.CanFailBy limit (fun _ => True) ↔ tree.CanFail limit :=
      canFailBy_iff_canFail fun _ _ _ _ => trivial
    rw [← any, ← exists_source_iff_canFailBy]
    simp only [and_true]
  have worded : complains ↔ tree.CanFailBy limit fun fault => fault.wording?.isSome = true := by
    rw [← exists_source_iff_canFailBy]
    refine exists_congr fun σ => exists_congr fun source => exists_congr fun state =>
      and_congr_right fun _ => ?_
    simp only [GenerationFault.kind_report_eq_iff]
    constructor
    · rintro ⟨_, failed, fault, rfl, suits⟩
      exact ⟨fault, failed, suits⟩
    · rintro ⟨fault, failed, suits⟩
      exact ⟨_, failed, fault, rfl, suits⟩
  refine ⟨ends, worded, ?_, returns, ?_⟩
  · intro writable
    rw [worded]
    exact canFailBy_iff_canFail fun scope member fault found =>
      writable.isSome_wording? member found
  · rintro name bounds alternating children rfl sound
    refine ⟨?_, ?_⟩
    · intro silent σ source state
      obtain ⟨ordered, within, -⟩ := Bounds.not_unfit_iff.mp sound
      have fine : bounds.fault? name limit = none := Bounds.fault?_eq_none_iff.mpr ⟨ordered, within⟩
      rw [generate, visitGroup, fine, if_pos silent]
      rfl
    · intro loose
      rw [returns, mustFail_group_iff]
      rintro (bad | ⟨repeats, fail⟩)
      · exact sound bad
      · rcases loose with idle | ⟨rfl, child, member, fine⟩
        · omega
        · exact fine (fail child member)

/-- A choice between soup and a special of which there is none. -/
def menu : Tree :=
  .group "menu" ⟨1, 1⟩ true [.literal "soup" ⟨1, 1⟩ ["pea", "leek"], .literal "special" ⟨1, 1⟩ []]

/-- The menu can fail and need not: its turns hide the special from a source that takes soup. Its
numbers are short, so a source that takes the special meets with a configuration error. -/
theorem exists_source_iff_canFail_mustFail_menu :
    menu.CanFail none ∧ ¬menu.MustFail none ∧ ¬menu.Bad none ∧ menu.Writable none ∧
      (∃ (σ : Type) (source : Source σ) (state : σ), source.Obliging ∧
        ∃ fault, (menu.generate none source state).outcome = .error (.scope fault)) ∧
      (∃ (σ : Type) (source : Source σ) (state : σ), source.Obliging ∧
        ∃ fault, (menu.generate none source state).outcome = .error fault ∧
          fault.report.kind = .configurationError) ∧
      ∃ (σ : Type) (source : Source σ) (state : σ),
        (menu.generate none source state).outcome = .ok () := by
  obtain ⟨failing, -, complaining, ending, hidden⟩ := exists_source_iff_canFail_mustFail none menu
  have sound : ¬menu.Bad none :=
    Bounds.not_unfit_iff.mpr ⟨by decide, by simp, .inr (List.cons_ne_nil _ _)⟩
  have soup : ¬(literal "soup" ⟨1, 1⟩ ["pea", "leek"]).MustFail none := by
    rw [mustFail_literal_iff]
    exact Bounds.not_unfit_iff.mpr ⟨by decide, by simp, .inr (List.cons_ne_nil _ _)⟩
  have special : (literal "special" ⟨1, 1⟩ []).Bad none := .inr (.inr ⟨by decide, rfl⟩)
  have fails : menu.CanFail none := .child (by decide) (.tail _ (.head _)) (.bad special)
  have writable : menu.Writable none := ⟨by decide +kernel, nofun⟩
  have returns := (hidden _ _ _ _ rfl sound).2 (.inr ⟨rfl, _, .head _, soup⟩)
  exact ⟨fails, ending.mp returns, sound, writable, failing.mpr fails,
    (complaining writable).mpr fails, returns⟩

/-- A group with a leaf whose greatest number of repetitions takes 4301 digits. -/
def flood : Tree :=
  .group "flood" ⟨1, 1⟩ false [.literal "drop" ⟨1, Int.pow 10 Numeral.longestDecimal⟩ ["x"]]

/-- Under a limit of five the flood can fail, and does so under every source. But the objection of
the leaf is not a configuration error, as the number in it cannot be written. -/
theorem flood_fails_otherwise :
    flood.CanFail (some 5) ∧
      (∀ (σ : Type) (source : Source σ) (state : σ),
        ∃ fault, (flood.generate (some 5) source state).outcome = .error fault ∧
          fault.report = .tooLong) ∧
      ¬∃ (σ : Type) (source : Source σ) (state : σ), source.Obliging ∧
        ∃ fault, (flood.generate (some 5) source state).outcome = .error fault ∧
          fault.report.kind = .configurationError := by
  have above : (5 : Int) < Int.pow 10 Numeral.longestDecimal :=
    Numeral.lt_ten_pow (by decide) (by decide)
  let drop : Bounds := ⟨1, Int.pow 10 Numeral.longestDecimal⟩
  have ordered : drop.Ordered := ⟨by decide, by change (1 : Int) ≤ Int.pow 10 _; omega⟩
  have objects : drop.fault? "drop" (some 5) = some (.aboveLimit "drop" drop 5) :=
    Bounds.fault?_of_above ordered above
  have unwritten : (ScopeFault.aboveLimit "drop" drop 5).report = .tooLong :=
    ScopeFault.report_aboveLimit_of_long Numeral.isWritable_ten_pow
  have ends (σ : Type) (source : Source σ) (state : σ) :
      (flood.generate (some 5) source state).outcome =
        .error (.scope (.aboveLimit "drop" drop 5)) := by
    have leaf : (literal "drop" drop ["x"]).generate (some 5) source =
        Visiting.fail (.scope (.aboveLimit "drop" drop 5)) := by
      rw [generate, visitLiteral, objects]
      rfl
    rw [flood, generate, visitGroup, generateAll, leaf]
    rfl
  refine ⟨.child (by decide) (.head _) (.bad (.inr (.inl ⟨5, rfl, above⟩))), ?_, ?_⟩
  · intro σ source state
    exact ⟨_, ends σ source state, unwritten⟩
  · rintro ⟨σ, source, state, -, fault, failed, kind⟩
    rw [ends σ source state] at failed
    obtain rfl := Except.error.inj failed
    change (ScopeFault.aboveLimit "drop" drop 5).report.kind = _ at kind
    rw [unwritten] at kind
    cases kind

end Tree

end PatternForge
