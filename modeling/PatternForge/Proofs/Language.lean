import Mathlib.Computability.Language
import PatternForge.Proofs.Course
import PatternForge.Sink

/-! # The language of a tree

A tree describes a language over literals: a leaf repeats a choice from its pool, a group repeats
the concatenation or the union of its children, and a scope that can generate nothing describes the
empty language. Generation keeps to it and misses nothing of it (`outputs_dialogue`): a run that
ends well emits a word of the language under any source, and every word is emitted by a run on some
script.
-/

namespace PatternForge

/-- As many blocks as the bounds allow. A limit that the bounds exceed, or a scope that has to
repeat and is vacant, leaves nothing. -/
def Bounds.language (bounds : Bounds) (limit : Option Int) (occupied : Prop)
    (block : Language Text) : Language Text :=
  {fragments | bounds.Ordered ∧ (∀ bound ∈ limit, bounds.greatest ≤ bound) ∧
    if bounds.greatest = 0 then fragments = []
    else occupied ∧ ∃ count : ℕ, bounds.least ≤ count ∧ count ≤ bounds.greatest ∧
      fragments ∈ block ^ count}

namespace Tree

/-- A union of languages has the words of each. -/
theorem mem_sum {languages : List (Language Text)} {fragments : List Text} :
    fragments ∈ languages.sum ↔ ∃ language ∈ languages, fragments ∈ language := by
  induction languages with
  | nil => simp
  | cons language rest ih =>
    rw [List.sum_cons, Language.mem_add, ih]
    simp only [List.mem_cons, exists_eq_or_imp]

/-- One literal of a pool. -/
def choice (pool : List Text) : Language Text :=
  {fragments | ∃ literal ∈ pool, fragments = [literal]}

mutual

/-- The lists of literals that a tree describes under a limit on repetitions. -/
def language (limit : Option Int) : Tree → Language Text
  | literal _ bounds pool => bounds.language limit (pool ≠ []) (choice pool)
  | group _ bounds alternating children =>
    bounds.language limit (children ≠ [])
      (if alternating then (languages limit children).sum else (languages limit children).prod)

def languages (limit : Option Int) : List Tree → List (Language Text)
  | [] => []
  | tree :: rest => language limit tree :: languages limit rest

end

end Tree

namespace Dialogue

/-- What the courses of a dialogue emit. -/
def outputs (dialogue : Dialogue Unit) : Language Text :=
  {fragments | ∃ answers, Course dialogue answers fragments ()}

theorem mem_outputs {dialogue : Dialogue Unit} {fragments : List Text} :
    fragments ∈ dialogue.outputs ↔ ∃ answers, Course dialogue answers fragments () := Iff.rfl

theorem outputs_pure : (pure () : Dialogue Unit).outputs = 1 := by
  ext fragments
  rw [Language.mem_one, mem_outputs]
  constructor
  · rintro ⟨answers, course⟩
    cases course
    rfl
  · rintro rfl
    exact ⟨[], .finish ()⟩

theorem outputs_fail (fault : ScopeFault) : (fail fault : Dialogue Unit).outputs = 0 := by
  ext fragments
  constructor
  · rintro ⟨answers, course⟩
    cases course
  · intro member
    exact absurd member (Language.notMem_zero fragments)

theorem outputs_tell (notice : Notice) (rest : Dialogue Unit) :
    (tell notice rest).outputs = rest.outputs := by
  ext fragments
  constructor
  · rintro ⟨answers, course⟩
    cases course with
    | tell course => exact ⟨answers, course⟩
  · rintro ⟨answers, course⟩
    exact ⟨answers, .tell course⟩

/-- What two dialogues emit one after the other. -/
theorem outputs_bind (first second : Dialogue Unit) :
    (first >>= fun _ => second).outputs = first.outputs * second.outputs := by
  ext fragments
  rw [Language.mem_mul]
  constructor
  · rintro ⟨answers, course⟩
    obtain ⟨before, opening, _, after, closing, left, right, -, rfl⟩ := course.split
    exact ⟨opening, ⟨before, left⟩, closing, ⟨after, right⟩, rfl⟩
  · rintro ⟨opening, ⟨before, left⟩, closing, ⟨after, right⟩, rfl⟩
    exact ⟨before ++ after, left.bind right⟩

theorem outputs_times (count : ℕ) (body : Dialogue Unit) :
    (times count body).outputs = body.outputs ^ count := by
  induction count with
  | zero => rw [times, outputs_pure, pow_zero]
  | succ count ih => rw [times, outputs_bind, ih, pow_succ']

/-- A request lets the source choose how to go on. -/
theorem mem_outputs_ask {announcement : Announcement} {low high : Int}
    {next : Int → Dialogue Unit} {fragments : List Text} :
    fragments ∈ (ask announcement low high next).outputs ↔
      ∃ answer, low ≤ answer ∧ answer ≤ high ∧ fragments ∈ (next answer).outputs := by
  constructor
  · rintro ⟨answers, course⟩
    cases course with
    | ask lower upper course => exact ⟨_, lower, upper, _, course⟩
  · rintro ⟨answer, lower, upper, answers, course⟩
    exact ⟨answer :: answers, .ask lower upper course⟩

theorem mem_outputs_refuse {fault : Option ScopeFault} {rest : Dialogue Unit}
    {fragments : List Text} :
    fragments ∈ (refuse fault >>= fun _ => rest).outputs ↔
      fault = none ∧ fragments ∈ rest.outputs := by
  cases fault with
  | none =>
    simp only [true_and]
    rfl
  | some fault =>
    change fragments ∈ (fail fault : Dialogue Unit).outputs ↔ _
    simp only [outputs_fail, Language.notMem_zero, reduceCtorEq, false_and]

/-- A scope settles on any number of repetitions between its bounds. -/
theorem mem_outputs_settle {scope : Text} {bounds : Bounds} (ordered : bounds.Ordered)
    {following : Int → Dialogue Unit} {fragments : List Text} :
    fragments ∈ (bounds.settle scope >>= following).outputs ↔
      ∃ count : ℕ, bounds.least ≤ count ∧ count ≤ bounds.greatest ∧
        fragments ∈ (following count).outputs := by
  obtain ⟨sign, order⟩ := ordered
  by_cases fixed : bounds.least = bounds.greatest
  · have settled : bounds.settle scope >>= following = following bounds.least := by
      simp only [Bounds.settle, fixed, ↓reduceIte]
      rfl
    rw [settled]
    constructor
    · intro member
      refine ⟨bounds.least.toNat, ?_, ?_, ?_⟩
      · omega
      · omega
      · rwa [Int.toNat_of_nonneg sign]
    · rintro ⟨count, lower, upper, member⟩
      have same : (count : ℤ) = bounds.least := by omega
      rwa [← same]
  · have asked : bounds.settle scope >>= following =
        ask ⟨scope, Purpose.count.name⟩ bounds.least bounds.greatest following := by
      simp only [Bounds.settle, fixed, ↓reduceIte]
      rfl
    rw [asked, mem_outputs_ask]
    constructor
    · rintro ⟨answer, lower, upper, member⟩
      refine ⟨answer.toNat, ?_, ?_, ?_⟩
      · omega
      · omega
      · rwa [Int.toNat_of_nonneg (by omega)]
    · rintro ⟨count, lower, upper, member⟩
      exact ⟨count, lower, upper, member⟩

/-- A request for a literal has each one of the pool as an answer. -/
theorem outputs_pick (name : Text) (pool : List Text) :
    (pick name pool).outputs = Tree.choice pool := by
  ext fragments
  rw [pick, mem_outputs_ask]
  constructor
  · rintro ⟨answer, lower, upper, answers, course⟩
    have inside : answer.toNat < pool.length := by omega
    cases course with
    | emit course =>
      cases course
      rw [← List.getElem_eq_getD (h := inside) []]
      exact ⟨pool[answer.toNat], List.getElem_mem inside, rfl⟩
  · rintro ⟨literal, member, rfl⟩
    obtain ⟨index, inside, rfl⟩ := List.mem_iff_getElem.mp member
    refine ⟨index, by omega, by omega, [], ?_⟩
    rw [Int.toNat_natCast, ← List.getElem_eq_getD (h := inside) []]
    exact .emit (.finish ())

/-- A scope emits as many blocks as its bounds allow. -/
theorem outputs_repeated (limit : Option Int) (name : Text) (bounds : Bounds) (vacant : Prop)
    [Decidable vacant] (fault : ScopeFault) (notice : Int → Notice) (body : Dialogue Unit) :
    (repeated limit name bounds vacant fault notice body).outputs =
      bounds.language limit (¬vacant) body.outputs := by
  ext fragments
  change _ ↔ bounds.Ordered ∧ (∀ bound ∈ limit, bounds.greatest ≤ bound) ∧ _
  rw [repeated, mem_outputs_refuse, Bounds.fault?_eq_none_iff, and_assoc]
  refine and_congr_right fun ordered => and_congr_right fun _ => ?_
  by_cases silent : bounds.greatest = 0
  · simp only [silent, ↓reduceIte, outputs_pure, Language.mem_one]
  · by_cases empty : vacant
    · simp only [silent, empty, ↓reduceIte, outputs_fail, Language.notMem_zero, not_true_eq_false,
        false_and]
    · simp only [silent, empty, ↓reduceIte, not_false_eq_true, true_and, mem_outputs_settle ordered,
        outputs_tell, outputs_times, Int.toNat_natCast]

end Dialogue

namespace Tree

theorem languages_eq_map (limit : Option Int) (children : List Tree) :
    languages limit children = children.map (language limit) := by
  induction children with
  | nil => rfl
  | cons child rest ih => rw [languages, ih, List.map_cons]

section Children

variable {limit : Option Int} {children : List Tree}
  (each : ∀ child ∈ children, (child.dialogue limit).outputs = child.language limit)
include each

/-- All children in order emit the concatenation of their languages. -/
private theorem outputs_dialogueAll :
    (dialogueAll limit children).outputs = (languages limit children).prod := by
  induction children with
  | nil => exact Dialogue.outputs_pure
  | cons child rest ih =>
    rw [dialogueAll, Dialogue.outputs_bind, languages, List.prod_cons,
      each child List.mem_cons_self, ih fun other member => each other (List.mem_cons_of_mem _ member)]

/-- The child of a number emits what its place in the list describes. -/
private theorem outputs_dialogueOne {index : ℕ} (inside : index < children.length) :
    (dialogueOne limit children index).outputs = (children[index]).language limit := by
  induction children generalizing index with
  | nil => exact absurd inside (Nat.not_lt_zero index)
  | cons child rest ih =>
    cases index with
    | zero => exact each child List.mem_cons_self
    | succ index =>
      exact ih (fun other member => each other (List.mem_cons_of_mem _ member))
        (Nat.lt_of_succ_lt_succ inside)

/-- A turn among the children emits the union of their languages. -/
private theorem outputs_turn (name : Text) :
    (Dialogue.turn name children.length (dialogueOne limit children)).outputs =
      (languages limit children).sum := by
  ext fragments
  rw [Dialogue.turn, Dialogue.mem_outputs_ask, mem_sum, languages_eq_map]
  constructor
  · rintro ⟨answer, lower, upper, member⟩
    have inside : answer.toNat < children.length := by omega
    rw [outputs_dialogueOne each inside] at member
    exact ⟨_, List.mem_map_of_mem (List.getElem_mem inside), member⟩
  · rintro ⟨_, listed, member⟩
    obtain ⟨child, present, rfl⟩ := List.mem_map.mp listed
    obtain ⟨index, inside, rfl⟩ := List.mem_iff_getElem.mp present
    refine ⟨index, by omega, by omega, ?_⟩
    rwa [Int.toNat_natCast, outputs_dialogueOne each inside]

end Children

/-- The courses of a tree's dialogue emit what the tree describes. -/
theorem outputs_dialogue (limit : Option Int) (tree : Tree) :
    (tree.dialogue limit).outputs = tree.language limit := by
  induction tree using Tree.induct with
  | literal name bounds pool =>
    rw [dialogue, Dialogue.literal, Dialogue.outputs_repeated, Dialogue.outputs_pick, language]
    simp only [List.isEmpty_iff, ne_eq]
  | group name bounds alternating children each =>
    rw [dialogue, Dialogue.group, Dialogue.outputs_repeated, language]
    simp only [List.length_eq_zero_iff, ne_eq]
    cases alternating with
    | false => simp only [Bool.false_eq_true, ↓reduceIte, outputs_dialogueAll each]
    | true => simp only [↓reduceIte, outputs_turn each]

/-- Beats of a bar: each is one mark or up to two rests. -/
def beats : Tree :=
  .group "beats" ⟨1, 2⟩ true [.literal "mark" ⟨1, 1⟩ ["dit", "dah"], .literal "rest" ⟨0, 2⟩ ["-"]]

/-- A run that ends well emits a word of the language, after what the sink held. -/
theorem emitted_mem_language {σ : Type} (limit : Option Int) (source : Source σ) (tree : Tree)
    (state : σ) (returned : (tree.generate limit source state).outcome = .ok ()) :
    ∃ fragments ∈ tree.language limit,
      (∀ held, (Sink.fragments held).append (tree.generate limit source state).emitted =
        .fragments (held ++ fragments)) ∧
      ∀ buffer : Buffer, ((Sink.buffer buffer).append
        (tree.generate limit source state).emitted).text = buffer.value ++ fragments.flatten := by
  refine ⟨(tree.generate limit source state).emitted, ?_, fun held => rfl, ?_⟩
  · rw [generate_eq_run] at returned ⊢
    rw [← outputs_dialogue]
    exact Dialogue.exists_course_of_run returned
  · intro buffer
    exact buffer.value_append _

/-- Two beats, of which the first is a rest twice as long as the shortest. -/
theorem emitted_mem_language_beats :
    let script : Scripted := { values := [2, 1, 2, 0, 0, 0, 1].map Value.int }
    let visit := beats.generate (some 3) Scripted.source script
    visit.outcome = .ok () ∧ visit.emitted = ["-", "-", "dah"] ∧
      ∃ fragments ∈ beats.language (some 3),
        (∀ held, (Sink.fragments held).append visit.emitted = .fragments (held ++ fragments)) ∧
        ∀ buffer : Buffer, ((Sink.buffer buffer).append visit.emitted).text =
          buffer.value ++ fragments.flatten :=
  ⟨rfl, rfl, emitted_mem_language _ _ _ _ rfl⟩

/-- Every word of the language is what a run on some script of whole numbers emits. The run uses
the script up. -/
theorem exists_script_of_mem_language (limit : Option Int) (tree : Tree) (fragments : List Text)
    (described : fragments ∈ tree.language limit) :
    ∃ values : List Int,
      let visit := tree.generate limit Scripted.source { values := values.map Value.int }
      visit.outcome = .ok () ∧ (Sink.fragments []).append visit.emitted = .fragments fragments ∧
        visit.source.calls.length = values.length ∧ visit.source.position = values.length := by
  rw [← outputs_dialogue] at described
  obtain ⟨values, course⟩ := described
  refine ⟨values, ?_⟩
  rw [generate_eq_run]
  have fresh : ({ values := values.map Value.int } : Scripted).remaining = values.map Value.int := rfl
  obtain ⟨returned, emitted, ranges, length, used⟩ := course.run_script rfl rfl fresh
  refine ⟨returned, ?_, ?_, ?_⟩
  · exact congrArg Sink.fragments emitted
  · rw [used]
    exact length
  · rw [used]
    exact Nat.zero_add _

private theorem rest_mem_language :
    (["-", "-"] : List Text) ∈ (literal "rest" ⟨0, 2⟩ ["-"]).language (some 3) := by
  refine ⟨by decide, by decide, ?_, 2, by decide, by decide, ?_⟩
  · exact List.cons_ne_nil _ _
  · rw [pow_two, Language.mem_mul]
    exact ⟨["-"], ⟨_, List.mem_cons_self, rfl⟩, ["-"], ⟨_, List.mem_cons_self, rfl⟩, rfl⟩

private theorem mark_mem_language :
    (["dah"] : List Text) ∈ (literal "mark" ⟨1, 1⟩ ["dit", "dah"]).language (some 3) := by
  refine ⟨by decide, by decide, ?_, 1, by decide, by decide, ?_⟩
  · exact List.cons_ne_nil _ _
  · rw [pow_one]
    exact ⟨_, List.mem_cons_of_mem _ List.mem_cons_self, rfl⟩

/-- Beats in the language by its definition: a rest of two and a mark. -/
theorem exists_script_of_mem_language_beats :
    (["-", "-", "dah"] : List Text) ∈ beats.language (some 3) ∧
      ∃ values : List Int,
        let visit := beats.generate (some 3) Scripted.source { values := values.map Value.int }
        visit.outcome = .ok () ∧
          (Sink.fragments []).append visit.emitted = .fragments ["-", "-", "dah"] ∧
          visit.source.calls.length = values.length ∧ visit.source.position = values.length := by
  have described : (["-", "-", "dah"] : List Text) ∈ beats.language (some 3) := by
    refine ⟨by decide, by decide, ?_, 2, by decide, by decide, ?_⟩
    · exact List.cons_ne_nil _ _
    · rw [pow_two, Language.mem_mul]
      refine ⟨["-", "-"], ?_, ["dah"], ?_, rfl⟩
      · exact mem_sum.mpr ⟨_, List.mem_cons_of_mem _ List.mem_cons_self, rest_mem_language⟩
      · exact mem_sum.mpr ⟨_, List.mem_cons_self, mark_mem_language⟩
  exact ⟨described, exists_script_of_mem_language _ _ _ described⟩

end Tree

end PatternForge
