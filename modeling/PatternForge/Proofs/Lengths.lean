import Mathlib.Algebra.GroupWithZero.Nat
import PatternForge.Proofs.Language
import PatternForge.Proofs.Progress

/-! # How long a text is

The least and the greatest length of the texts of a tree follow from its bounds and its literals. A
tree of sound scopes never leaves these bounds, whatever its source, and it reaches both of them on
some scripts, since the lengths of the language of a tree span them (`Tree.spans_language`).
-/

namespace PatternForge

/-! ## The lengths of a tree -/

def leastOf (lengths : List ℕ) : ℕ :=
  lengths.min?.getD 0

def greatestOf (lengths : List ℕ) : ℕ :=
  lengths.max?.getD 0

theorem leastOf_mem {lengths : List ℕ} (some : lengths ≠ []) : leastOf lengths ∈ lengths := by
  obtain ⟨least, found⟩ := Option.ne_none_iff_exists'.mp (mt List.min?_eq_none_iff.mp some)
  rw [leastOf, found]
  exact List.min?_mem found

theorem leastOf_le {lengths : List ℕ} {length : ℕ} (member : length ∈ lengths) :
    leastOf lengths ≤ length :=
  List.min?_getD_le_of_mem member

theorem greatestOf_mem {lengths : List ℕ} (some : lengths ≠ []) : greatestOf lengths ∈ lengths := by
  obtain ⟨greatest, found⟩ := Option.ne_none_iff_exists'.mp (mt List.max?_eq_none_iff.mp some)
  rw [greatestOf, found]
  exact List.max?_mem found

theorem le_greatestOf {lengths : List ℕ} {length : ℕ} (member : length ∈ lengths) :
    length ≤ greatestOf lengths :=
  List.le_max?_getD_of_mem member

namespace Tree

mutual

/-- The length of a text of a tree, if each scope repeats so often and chooses so among lengths. -/
def lengthBy (often : Bounds → ℕ) (choose : List ℕ → ℕ) : Tree → ℕ
  | literal _ bounds pool =>
    if bounds.greatest = 0 then 0 else often bounds * choose (pool.map List.length)
  | group _ bounds alternating children =>
    if bounds.greatest = 0 then 0
    else often bounds *
      if alternating then choose (lengthsBy often choose children)
      else (lengthsBy often choose children).sum

def lengthsBy (often : Bounds → ℕ) (choose : List ℕ → ℕ) : List Tree → List ℕ
  | [] => []
  | tree :: rest => lengthBy often choose tree :: lengthsBy often choose rest

end

/-- The length of the shortest text of a tree. -/
def leastLength : Tree → ℕ :=
  lengthBy (fun bounds => bounds.least.toNat) leastOf

/-- The length of the longest text of a tree. -/
def greatestLength : Tree → ℕ :=
  lengthBy (fun bounds => bounds.greatest.toNat) greatestOf

theorem lengthsBy_eq_map (often : Bounds → ℕ) (choose : List ℕ → ℕ) (children : List Tree) :
    lengthsBy often choose children = children.map (lengthBy often choose) := by
  induction children with
  | nil => rfl
  | cons child rest ih => rw [lengthsBy, ih, List.map_cons]

end Tree

/-! ## Languages between two lengths -/

/-- The texts of a language are not shorter than its shortest and not longer than its longest, and
the lengths of these are known. -/
structure Spans (language : Language Text) (low high : ℕ) : Prop where
  /-- No text leaves the bounds. -/
  within : ∀ fragments ∈ language,
    low ≤ fragments.flatten.length ∧ fragments.flatten.length ≤ high
  shortest : ∃ fragments ∈ language, fragments.flatten.length = low
  longest : ∃ fragments ∈ language, fragments.flatten.length = high

namespace Spans

variable {first second language block : Language Text} {low high least greatest : ℕ}

/-- One text spans its own length. -/
theorem singleton (fragments : List Text) :
    Spans {fragments} fragments.flatten.length fragments.flatten.length where
  within := by
    rintro _ rfl
    exact ⟨le_rfl, le_rfl⟩
  shortest := ⟨fragments, rfl, rfl⟩
  longest := ⟨fragments, rfl, rfl⟩

theorem one : Spans 1 0 0 :=
  singleton []

/-- Lengths are added in a sequence. -/
theorem mul (left : Spans first low high) (right : Spans second least greatest) :
    Spans (first * second) (low + least) (high + greatest) where
  within := by
    intro fragments member
    obtain ⟨opening, before, closing, after, rfl⟩ := Language.mem_mul.mp member
    obtain ⟨lower, upper⟩ := left.within opening before
    obtain ⟨above, below⟩ := right.within closing after
    rw [List.flatten_append, List.length_append]
    omega
  shortest := by
    obtain ⟨opening, before, short⟩ := left.shortest
    obtain ⟨closing, after, brief⟩ := right.shortest
    refine ⟨opening ++ closing, Language.append_mem_mul before after, ?_⟩
    rw [List.flatten_append, List.length_append, short, brief]
  longest := by
    obtain ⟨opening, before, long⟩ := left.longest
    obtain ⟨closing, after, lengthy⟩ := right.longest
    refine ⟨opening ++ closing, Language.append_mem_mul before after, ?_⟩
    rw [List.flatten_append, List.length_append, long, lengthy]

theorem pow (block : Spans language low high) (count : ℕ) :
    Spans (language ^ count) (count * low) (count * high) := by
  induction count with
  | zero =>
    rw [pow_zero, Nat.zero_mul, Nat.zero_mul]
    exact one
  | succ count ih =>
    rw [pow_succ, Nat.succ_mul, Nat.succ_mul]
    exact ih.mul block

section Items

variable {α : Type} {items : List α} {words : α → Language Text} {lows highs : α → ℕ}
  (each : ∀ item ∈ items, Spans (words item) (lows item) (highs item))
include each

/-- So are those of many. -/
theorem prod : Spans (items.map words).prod (items.map lows).sum (items.map highs).sum := by
  induction items with
  | nil => exact one
  | cons item rest ih =>
    rw [List.map_cons, List.map_cons, List.map_cons, List.prod_cons, List.sum_cons, List.sum_cons]
    exact (each item List.mem_cons_self).mul
      (ih fun other member => each other (List.mem_cons_of_mem _ member))

/-- Among alternatives the least and the greatest length count. -/
theorem sum (some : items ≠ []) :
    Spans (items.map words).sum (leastOf (items.map lows)) (greatestOf (items.map highs)) where
  within := by
    intro fragments member
    obtain ⟨_, listed, member⟩ := Tree.mem_sum.mp member
    obtain ⟨item, present, rfl⟩ := List.mem_map.mp listed
    obtain ⟨lower, upper⟩ := (each item present).within fragments member
    exact ⟨(leastOf_le (List.mem_map_of_mem present)).trans lower,
      upper.trans (le_greatestOf (List.mem_map_of_mem present))⟩
  shortest := by
    obtain ⟨item, present, short⟩ :=
      List.mem_map.mp (leastOf_mem (mt List.map_eq_nil_iff.mp some : items.map lows ≠ []))
    obtain ⟨fragments, member, length⟩ := (each item present).shortest
    exact ⟨fragments, Tree.mem_sum.mpr ⟨_, List.mem_map_of_mem present, member⟩, length.trans short⟩
  longest := by
    obtain ⟨item, present, long⟩ :=
      List.mem_map.mp (greatestOf_mem (mt List.map_eq_nil_iff.mp some : items.map highs ≠ []))
    obtain ⟨fragments, member, length⟩ := (each item present).longest
    exact ⟨fragments, Tree.mem_sum.mpr ⟨_, List.mem_map_of_mem present, member⟩, length.trans long⟩

end Items

/-- Among the literals of a pool the shortest and the longest count. -/
theorem choice {pool : List Text} (some : pool ≠ []) :
    Spans (Tree.choice pool) (leastOf (pool.map List.length))
      (greatestOf (pool.map List.length)) := by
  have words : Tree.choice pool = (pool.map fun literal => ({[literal]} : Language Text)).sum := by
    ext fragments
    rw [Tree.mem_sum]
    constructor
    · rintro ⟨literal, member, rfl⟩
      exact ⟨_, List.mem_map_of_mem member, rfl⟩
    · rintro ⟨_, listed, member⟩
      obtain ⟨literal, present, rfl⟩ := List.mem_map.mp listed
      exact ⟨literal, present, member⟩
  rw [words]
  refine sum (fun literal _ => ?_) some
  have alone := singleton [literal]
  rwa [List.flatten_singleton] at alone

/-- A scope that repeats spans from its least to its greatest number of blocks. -/
theorem repeated {bounds : Bounds} {limit : Option Int} {occupied : Prop}
    (ordered : bounds.Ordered) (within : ∀ bound ∈ limit, bounds.greatest ≤ bound)
    (fit : 0 < bounds.greatest → occupied ∧ Spans block low high) :
    Spans (bounds.language limit occupied block)
      (if bounds.greatest = 0 then 0 else bounds.least.toNat * low)
      (if bounds.greatest = 0 then 0 else bounds.greatest.toNat * high) := by
  obtain ⟨sign, order⟩ := ordered
  by_cases silent : bounds.greatest = 0
  · have still : bounds.language limit occupied block = 1 := by
      ext fragments
      change (bounds.Ordered ∧ _ ∧ _) ↔ _
      rw [if_pos silent, Language.mem_one]
      exact ⟨fun member => member.2.2, fun empty => ⟨⟨sign, order⟩, within, empty⟩⟩
    rw [still, if_pos silent, if_pos silent]
    exact one
  · obtain ⟨stocked, spans⟩ := fit (by omega)
    have reached {fragments : List Text} (count : ℕ) (lower : bounds.least ≤ count)
        (upper : count ≤ bounds.greatest) (member : fragments ∈ block ^ count) :
        fragments ∈ bounds.language limit occupied block := by
      refine ⟨⟨sign, order⟩, within, ?_⟩
      rw [if_neg silent]
      exact ⟨stocked, count, lower, upper, member⟩
    rw [if_neg silent, if_neg silent]
    refine ⟨?_, ?_, ?_⟩
    · rintro fragments ⟨-, -, member⟩
      rw [if_neg silent] at member
      obtain ⟨-, count, lower, upper, member⟩ := member
      obtain ⟨above, below⟩ := (spans.pow count).within fragments member
      exact ⟨(Nat.mul_le_mul_right low (by omega)).trans above,
        below.trans (Nat.mul_le_mul_right high (by omega))⟩
    · obtain ⟨fragments, member, short⟩ := (spans.pow bounds.least.toNat).shortest
      exact ⟨fragments, reached _ (by omega) (by omega) member, short⟩
    · obtain ⟨fragments, member, long⟩ := (spans.pow bounds.greatest.toNat).longest
      exact ⟨fragments, reached _ (by omega) (by omega) member, long⟩

end Spans

namespace Tree

variable {limit : Option Int} {tree : Tree}

/-- The texts that a tree describes span the lengths that its bounds and literals tell. -/
theorem spans_language (sound : ∀ node ∈ tree.scopes, node.Sound limit) :
    Spans (tree.language limit) tree.leastLength tree.greatestLength := by
  induction tree using Tree.induct with
  | literal name bounds pool =>
    obtain ⟨ordered, within, stocked⟩ := sound _ (mem_scopes_self _)
    rw [language, leastLength, greatestLength, lengthBy, lengthBy]
    refine Spans.repeated ordered within fun repeats => ?_
    have some : pool ≠ [] := mt List.length_eq_zero_iff.mpr (stocked repeats)
    exact ⟨some, .choice some⟩
  | group name bounds alternating children each =>
    obtain ⟨ordered, within, stocked⟩ := sound _ (mem_scopes_self _)
    have spans : ∀ child ∈ children,
        Spans (child.language limit) child.leastLength child.greatestLength :=
      fun child member => each child member fun node scope =>
        sound node (mem_scopes_of_child member scope)
    rw [language, leastLength, greatestLength, lengthBy, lengthBy, languages_eq_map,
      lengthsBy_eq_map, lengthsBy_eq_map]
    refine Spans.repeated ordered within fun repeats => ?_
    have some : children ≠ [] := mt List.length_eq_zero_iff.mpr (stocked repeats)
    refine ⟨some, ?_⟩
    cases alternating with
    | false => exact .prod spans
    | true => exact .sum spans some

/-- What a run renders is a word of the language. -/
theorem exists_word_of_render {σ : Type} {source : Source σ} {state : σ} {text : Text}
    (rendered : tree.render limit source state = .ok text) :
    ∃ fragments ∈ tree.language limit, fragments.flatten = text := by
  let visit := tree.generate limit source state
  change visit.outcome.map (fun _ => visit.text) = .ok text at rendered
  cases ended : visit.outcome with
  | error fault =>
    rw [ended] at rendered
    cases rendered
  | ok result =>
    rw [ended] at rendered
    refine ⟨visit.emitted, ?_, Except.ok.inj rendered⟩
    simp only [visit, generate_eq_run] at ended ⊢
    rw [← outputs_dialogue]
    exact Dialogue.exists_course_of_run ended

/-- A word of the language is rendered from some script of numbers. -/
theorem exists_script_render {fragments : List Text}
    (described : fragments ∈ tree.language limit) :
    ∃ values : List Int,
      tree.render limit Scripted.source { values := values.map Value.int } =
        .ok fragments.flatten := by
  rw [← outputs_dialogue] at described
  obtain ⟨values, course⟩ := described
  have fresh : ({ values := values.map Value.int } : Scripted).remaining =
      values.map Value.int := rfl
  obtain ⟨returned, emitted, -⟩ := course.run_script rfl rfl fresh
  refine ⟨values, ?_⟩
  simp only [render, Visit.text, generate_eq_run]
  rw [returned, emitted]
  rfl

/-- Whatever the source and the state it is in, a text that is rendered from a tree of sound scopes
has a length between the two that bounds and literals tell. Both are the lengths of texts that are
rendered from some scripts of numbers. -/
theorem length_of_render (sound : ∀ node ∈ tree.scopes, node.Sound limit) :
    (∀ {σ : Type} (source : Source σ) (state : σ) (text : Text),
      tree.render limit source state = .ok text →
        tree.leastLength ≤ text.length ∧ text.length ≤ tree.greatestLength) ∧
    ∀ length, length = tree.leastLength ∨ length = tree.greatestLength →
      ∃ (values : List Int) (text : Text),
        tree.render limit Scripted.source { values := values.map Value.int } = .ok text ∧
          text.length = length := by
  have spans := spans_language sound
  constructor
  · intro σ source state text rendered
    obtain ⟨fragments, described, rfl⟩ := exists_word_of_render rendered
    exact spans.within fragments described
  · intro length extreme
    obtain ⟨fragments, described, reached⟩ :
        ∃ fragments ∈ tree.language limit, fragments.flatten.length = length := by
      rcases extreme with rfl | rfl
      · exact spans.shortest
      · exact spans.longest
    obtain ⟨values, rendered⟩ := exists_script_render described
    exact ⟨values, _, rendered, reached⟩

/-- A signal is beats with a gap after them, two or three times. -/
def signal : Tree :=
  .group "signal" ⟨2, 3⟩ false [beats, .literal "gap" ⟨1, 1⟩ ["/", " / "]]

/-- Beats may be no more than no rests, and no less than two marks, so a signal is of two characters
at least and of 27 at most. -/
theorem length_of_render_signal :
    (∀ node ∈ signal.scopes, node.Sound (some 3)) ∧
      signal.leastLength = 2 ∧ signal.greatestLength = 27 ∧
      (∀ {σ : Type} (source : Source σ) (state : σ) (text : Text),
        signal.render (some 3) source state = .ok text → 2 ≤ text.length ∧ text.length ≤ 27) ∧
      ∃ (values : List Int) (text : Text),
        signal.render (some 3) Scripted.source { values := values.map Value.int } = .ok text ∧
          text.length = 27 := by
  have sound : ∀ node ∈ signal.scopes, node.Sound (some 3) := by decide
  have least : signal.leastLength = 2 := by decide
  have greatest : signal.greatestLength = 27 := by decide
  obtain ⟨within, reached⟩ := length_of_render sound
  rw [least, greatest] at within reached
  exact ⟨sound, least, greatest, within, reached 27 (.inr rfl)⟩

end Tree

end PatternForge
