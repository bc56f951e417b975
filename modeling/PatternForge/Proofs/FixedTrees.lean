import PatternForge.Proofs.Containment
import PatternForge.Proofs.Progress

/-! # Fixed trees

A tree whose scopes have fixed bounds and take all of their children leaves its source one decision:
which literals to emit. What it asks can be written down beforehand (`Tree.plan`), and a run whose
requests are answered goes through the plan and emits a literal for each entry of it, whatever the
answers are (`Dialogue.Straight.run`). So runs with different sources cannot be told apart by what
they ask, nor by how much they emit (`Tree.questions_of_fixed`).
-/

namespace PatternForge

structure Question where
  announcement : Announcement
  low : Int
  high : Int
deriving DecidableEq

def Exchange.question (exchange : Exchange) : Question :=
  ⟨exchange.announcement, exchange.low, exchange.high⟩

namespace Visit

variable {σ α : Type}

def questions (visit : Visit σ α) : List Question :=
  visit.exchanges.map Exchange.question

/-- Every request was answered by a number of its range. -/
def Answered (visit : Visit σ α) : Prop :=
  ∀ exchange ∈ visit.exchanges, exchange.accepted = true

end Visit

namespace Dialogue

variable {σ α β : Type}

/-- Whatever the answers are, the dialogue asks these questions in order, emits a literal after
each, and ends with the result. -/
inductive Straight : Dialogue α → List Question → α → Prop where
  | finish (result : α) : Straight (.finish result) [] result
  | tell {notice : Notice} {rest : Dialogue α} {questions : List Question} {result : α}
      (straight : Straight rest questions result) : Straight (.tell notice rest) questions result
  /-- A question is asked first, and a literal emitted. -/
  | draw {announcement : Announcement} {low high : Int} {literal : Int → Text}
      {rest : Int → Dialogue α} {questions : List Question} {result : α}
      (straight : ∀ answer, Straight (rest answer) questions result) :
      Straight (.ask announcement low high fun answer => .emit (literal answer) (rest answer))
        (⟨announcement, low, high⟩ :: questions) result

namespace Straight

variable {before after : List Question}

theorem bind {first : Dialogue α} {following : α → Dialogue β} {middle : α} {result : β}
    (straight : Straight first before middle) (further : Straight (following middle) after result) :
    Straight (first >>= following) (before ++ after) result := by
  change Straight (first.bind following) _ _
  induction straight with
  | finish middle => exact further
  | tell _ ih => exact .tell (ih further)
  | draw _ ih => exact .draw fun answer => ih answer further

theorem times {body : Dialogue Unit} (straight : Straight body before ()) (count : ℕ) :
    Straight (times count body) (List.replicate count before).flatten () := by
  induction count with
  | zero => exact .finish ()
  | succ count ih =>
    rw [List.replicate_succ, List.flatten_cons]
    exact straight.bind ih

/-- A scope of fixed bounds asks what its repetitions ask. -/
theorem repeated {limit : Option Int} {name : Text} {bounds : Bounds} {vacant : Prop}
    [Decidable vacant] {fault : ScopeFault} {notice : Int → Notice} {body : Dialogue Unit}
    (fit : bounds.fault? name limit = none) (fixed : bounds.least = bounds.greatest)
    (stocked : 0 < bounds.greatest → ¬vacant) (straight : Straight body before ()) :
    Straight (repeated limit name bounds vacant fault notice body)
      (List.replicate bounds.least.toNat before).flatten () := by
  obtain ⟨sign, -⟩ := (Bounds.fault?_eq_none_iff.mp fit).1
  rw [Dialogue.repeated, fit]
  refine (Straight.finish ()).bind ?_
  by_cases silent : bounds.greatest = 0
  · rw [if_pos silent, fixed, silent]
    exact .finish ()
  · rw [if_neg silent, if_neg (stocked (by omega)), Bounds.settle, if_pos fixed]
    exact .tell (straight.times _)

/-- A run whose requests are answered goes through the questions to the end, and emits a literal for
each. -/
theorem run {dialogue : Dialogue α} {questions : List Question} {result : α}
    (straight : Straight dialogue questions result) {source : Source σ} {state : σ}
    (answered : (dialogue.run source state).Answered) :
    (dialogue.run source state).outcome = .ok result ∧
      (dialogue.run source state).questions = questions ∧
      (dialogue.run source state).emitted.length = questions.length := by
  induction straight generalizing state with
  | finish result => exact ⟨rfl, rfl, rfl⟩
  | tell _ ih => exact ih answered
  | @draw announcement low high literal rest questions result _ ih =>
    rcases run_ask_cases source announcement low high (fun answer => .emit (literal answer)
        (rest answer)) state with
      ⟨fault, after, -, run⟩ | ⟨value, after, -, outside, run⟩ | ⟨value, after, -, inside, run⟩
    · rw [run] at answered
      exact absurd (answered _ List.mem_cons_self) Bool.false_ne_true
    · rw [run] at answered
      exact absurd (answered _ List.mem_cons_self) (Bool.eq_false_iff.mp outside)
    · rw [run] at answered ⊢
      obtain ⟨returned, asked, emitted⟩ := ih value.number fun exchange member =>
        answered exchange (List.mem_cons_of_mem _ member)
      exact ⟨returned, congrArg (List.cons _) asked, congrArg (· + 1) emitted⟩

end Straight

end Dialogue

namespace Tree

/-- The root is a group that takes one of its children at a time. -/
def alternates : Tree → Bool
  | literal .. => false
  | group _ _ alternating _ => alternating

/-- The root is fixed: its bounds leave no choice, and a repetition takes all children. -/
structure Fixed (tree : Tree) : Prop where
  bounds : tree.bounds.least = tree.bounds.greatest
  /-- A group does not alternate. -/
  sequential : tree.alternates = false

instance (tree : Tree) : Decidable tree.Fixed :=
  decidable_of_iff (tree.bounds.least = tree.bounds.greatest ∧ tree.alternates = false)
    ⟨fun ⟨bounds, sequential⟩ => ⟨bounds, sequential⟩,
      fun ⟨bounds, sequential⟩ => ⟨bounds, sequential⟩⟩

mutual

/-- What a fixed tree asks, in order. -/
def plan : Tree → List Question
  | literal name bounds pool =>
    List.replicate bounds.least.toNat
      ⟨⟨name, Purpose.literal.name⟩, 0, (pool.length : Int) - 1⟩
  | group _ bounds _ children => (List.replicate bounds.least.toNat (planAll children)).flatten

def planAll : List Tree → List Question
  | [] => []
  | tree :: rest => plan tree ++ planAll rest

end

mutual

/-- How many literals a fixed tree emits. -/
def yield : Tree → Int
  | literal _ bounds _ => bounds.least
  | group _ bounds _ children => bounds.least * yieldAll children

def yieldAll : List Tree → Int
  | [] => 0
  | tree :: rest => yield tree + yieldAll rest

end

theorem mem_planAll_iff {question : Question} {children : List Tree} :
    question ∈ planAll children ↔ ∃ child ∈ children, question ∈ child.plan := by
  induction children with
  | nil => exact iff_of_false List.not_mem_nil nofun
  | cons child rest ih => rw [planAll, List.mem_append, ih, List.exists_mem_cons_iff]

/-- A plan asks for literals only. -/
theorem purpose_of_mem_plan {tree : Tree} {question : Question} (planned : question ∈ tree.plan) :
    question.announcement.purpose = Purpose.literal.name := by
  induction tree using Tree.induct with
  | literal name bounds pool =>
    rw [plan] at planned
    rw [List.eq_of_mem_replicate planned]
  | group name bounds alternating children each =>
    rw [plan] at planned
    obtain ⟨round, repetition, member⟩ := List.mem_flatten.mp planned
    rw [List.eq_of_mem_replicate repetition] at member
    obtain ⟨child, below, asked⟩ := mem_planAll_iff.mp member
    exact each child below asked

/-- A plan asks as often as the tree emits. -/
theorem length_plan {tree : Tree} (signs : ∀ node ∈ tree.scopes, 0 ≤ node.bounds.least) :
    (tree.plan.length : Int) = tree.yield := by
  induction tree using Tree.induct with
  | literal name bounds pool =>
    have sign : 0 ≤ bounds.least := signs _ (mem_scopes_self _)
    rw [plan, yield, List.length_replicate, Int.toNat_of_nonneg sign]
  | group name bounds alternating children each =>
    have sign : 0 ≤ bounds.least := signs _ (mem_scopes_self _)
    have below : ((planAll children).length : Int) = yieldAll children := by
      have parts : ∀ child ∈ children, (child.plan.length : Int) = child.yield :=
        fun child member => each child member fun node scope =>
          signs node (mem_scopes_of_child member scope)
      clear each signs
      induction children with
      | nil => rfl
      | cons child rest ih =>
        rw [planAll, yieldAll, List.length_append, Int.natCast_add,
          parts child List.mem_cons_self,
          ih fun other member => parts other (List.mem_cons_of_mem _ member)]
    rw [plan, yield, List.length_flatten, List.map_replicate, List.sum_replicate_nat,
      Int.natCast_mul, Int.toNat_of_nonneg sign, below]

private theorem straight_dialogueAll {limit : Option Int} {children : List Tree}
    (each : ∀ child ∈ children, Dialogue.Straight (child.dialogue limit) child.plan ()) :
    Dialogue.Straight (dialogueAll limit children) (planAll children) () := by
  induction children with
  | nil => exact .finish ()
  | cons child rest ih =>
    have others := ih fun other member => each other (List.mem_cons_of_mem _ member)
    exact (each child List.mem_cons_self).bind others

/-- The dialogue of a fixed tree of sound scopes goes through its plan. -/
theorem straight_dialogue {limit : Option Int} {tree : Tree}
    (sound : ∀ node ∈ tree.scopes, node.Sound limit) (fixed : ∀ node ∈ tree.scopes, node.Fixed) :
    Dialogue.Straight (tree.dialogue limit) tree.plan () := by
  induction tree using Tree.induct with
  | literal name bounds pool =>
    obtain ⟨ordered, within, stocked⟩ := sound _ (mem_scopes_self _)
    have fit : bounds.fault? name limit = none := Bounds.fault?_eq_none_iff.mpr ⟨ordered, within⟩
    have picks : Dialogue.Straight (.pick name pool)
        [⟨⟨name, Purpose.literal.name⟩, 0, (pool.length : Int) - 1⟩] () :=
      .draw fun _ => .finish ()
    rw [plan, ← List.flatten_replicate_singleton]
    refine picks.repeated fit (fixed _ (mem_scopes_self _)).bounds fun repeats empty => ?_
    exact stocked repeats (List.length_eq_zero_iff.mpr (List.isEmpty_iff.mp empty))
  | group name bounds alternating children each =>
    obtain ⟨ordered, within, stocked⟩ := sound _ (mem_scopes_self _)
    have fit : bounds.fault? name limit = none := Bounds.fault?_eq_none_iff.mpr ⟨ordered, within⟩
    obtain ⟨even, sequential⟩ := fixed _ (mem_scopes_self _)
    obtain rfl : alternating = false := sequential
    have round : Dialogue.Straight (dialogueAll limit children) (planAll children) () :=
      straight_dialogueAll fun child member => each child member
        (fun node scope => sound node (mem_scopes_of_child member scope))
        fun node scope => fixed node (mem_scopes_of_child member scope)
    rw [plan]
    exact round.repeated fit even stocked

/-- What a source answers makes no difference to what a fixed tree of sound scopes asks. With any
two sources whose answers are in range the runs end well and ask the same: the literals of the plan,
never a count or a child. As many requests are made as literals are emitted, and the bounds alone
tell how many. -/
theorem questions_of_fixed {limit : Option Int} {tree : Tree}
    (sound : ∀ node ∈ tree.scopes, node.Sound limit) (fixed : ∀ node ∈ tree.scopes, node.Fixed)
    {σ τ : Type} (source : Source σ) (other : Source τ) (state : σ) (twin : τ) :
    let visit := tree.generate limit source state
    let same := tree.generate limit other twin
    visit.Answered → same.Answered →
      visit.outcome = .ok () ∧ same.outcome = .ok () ∧
        visit.questions = same.questions ∧ visit.questions = tree.plan ∧
        (∀ question ∈ visit.questions, question.announcement.purpose ≠ Purpose.count.name ∧
          question.announcement.purpose ≠ Purpose.child.name) ∧
        (visit.questions.length : Int) = tree.yield ∧
        (visit.emitted.length : Int) = tree.yield ∧ (same.emitted.length : Int) = tree.yield := by
  intro visit same answered replied
  have straight : Dialogue.Straight (tree.dialogue limit) tree.plan () :=
    straight_dialogue sound fixed
  have size : (tree.plan.length : Int) = tree.yield :=
    length_plan fun node scope => (sound node scope).ordered.1
  simp only [visit, same, generate_eq_run] at answered replied ⊢
  obtain ⟨returned, asked, emitted⟩ := straight.run answered
  obtain ⟨alike, repeated, matched⟩ := straight.run replied
  rw [returned, alike, asked, repeated, emitted, matched]
  refine ⟨rfl, rfl, rfl, rfl, fun question planned => ?_, size, size, size⟩
  rw [purpose_of_mem_plan planned]
  decide

/-- A run that ends well was answered. -/
theorem answered_of_ok {limit : Option Int} {σ : Type} {source : Source σ} {tree : Tree} {state : σ}
    (returned : (tree.generate limit source state).outcome = .ok ()) :
    (tree.generate limit source state).Answered := by
  rw [generate_eq_run] at returned ⊢
  exact fun exchange asked =>
    Exchange.accepted_iff.mpr (Dialogue.inRange_of_run returned exchange asked)

/-- A psalm has two parts of two verses, no pause, and an amen each. -/
def psalm : Tree :=
  .group "psalm" ⟨2, 2⟩ false
    [.literal "verse" ⟨2, 2⟩ ["praise", "sing", "fear"], .literal "pause" ⟨0, 0⟩ [],
      .group "close" ⟨1, 1⟩ false [.literal "amen" ⟨1, 1⟩ ["amen", "selah"]]]

def reading : Scripted :=
  { values := [.int 0, .bool true, .int 0, .int 1, .int 2, .bool false] }

/-- A psalm that is read from a script has other words than one of the last words of each pool, but
both ask the same six times. -/
theorem questions_of_fixed_psalm :
    let visit := psalm.generate (some 2) Scripted.source reading
    let same := psalm.generate (some 2) (Source.countingTo 2) ()
    (∀ node ∈ psalm.scopes, node.Sound (some 2)) ∧ (∀ node ∈ psalm.scopes, node.Fixed) ∧
      visit.Answered ∧ same.Answered ∧
      visit.text = "praisesingamensingfearamen" ∧ same.text = "fearfearselahfearfearselah" ∧
      visit.questions = same.questions ∧ (visit.questions.length : Int) = psalm.yield ∧
      psalm.yield = 6 := by
  have sound : ∀ node ∈ psalm.scopes, node.Sound (some 2) := by decide
  have fixed : ∀ node ∈ psalm.scopes, node.Fixed := by decide
  have answered : (psalm.generate (some 2) Scripted.source reading).Answered := answered_of_ok rfl
  have replied : (psalm.generate (some 2) (Source.countingTo 2) ()).Answered := answered_of_ok rfl
  obtain ⟨-, -, asked, -, -, size, -⟩ := questions_of_fixed sound fixed Scripted.source
    (Source.countingTo 2) reading () answered replied
  exact ⟨sound, fixed, answered, replied, by decide, by decide, asked, size, by decide⟩

end Tree

end PatternForge
