import Mathlib.Logic.Relation
import PatternForge.Proofs.Runs

/-! # Trees that generate the same

A part of a sequence that is itself a sequence, and comes once, may be replaced by its own parts. A
fixed number of fixed repetitions may be replaced by their product. Trees that differ by such steps,
wherever in the tree they are taken, have dialogues that differ in what an observer is told and in
nothing else (`Tree.quietly_of_simplifies`), so no source and no sink can tell them apart.
-/

namespace PatternForge

/-! ## Visits without notices -/

namespace Visit

variable {σ α : Type}

/-- What a visit does, apart from what it tells an observer. -/
def acts (visit : Visit σ α) : List Event :=
  visit.events.filter fun event => event.notice?.isNone

/-- What is read off events, but not off notices, is read off what a visit does. -/
theorem filterMap_acts {β : Type} (visit : Visit σ α) {read : Event → Option β}
    (skips : ∀ notice, read (.told notice) = none) :
    visit.acts.filterMap read = visit.events.filterMap read := by
  rw [acts, List.filterMap_filter]
  refine congrArg (List.filterMap · visit.events) (funext fun event => ?_)
  cases event with
  | emitted literal => rfl
  | told notice => exact (skips notice).symm
  | asked exchange => rfl

theorem emitted_eq_acts (visit : Visit σ α) :
    visit.emitted = visit.acts.filterMap Event.literal? :=
  (visit.filterMap_acts fun _ => rfl).symm

theorem exchanges_eq_acts (visit : Visit σ α) :
    visit.exchanges = visit.acts.filterMap Event.exchange? :=
  (visit.filterMap_acts fun _ => rfl).symm

end Visit

/-! ## Dialogues in sequence -/

namespace Dialogue

variable {σ α β γ : Type}

theorem bind_finish (dialogue : Dialogue α) : dialogue.bind finish = dialogue := by
  induction dialogue with
  | finish result => rfl
  | fail fault => rfl
  | emit literal rest ih => exact congrArg (emit literal) ih
  | tell notice rest ih => exact congrArg (tell notice) ih
  | ask announcement low high next ih => exact congrArg (ask announcement low high) (funext ih)

theorem bind_bind (first : Dialogue α) (second : α → Dialogue β) (third : β → Dialogue γ) :
    (first.bind second).bind third = first.bind fun result => (second result).bind third := by
  induction first with
  | finish result => rfl
  | fail fault => rfl
  | emit literal rest ih => exact congrArg (emit literal) ih
  | tell notice rest ih => exact congrArg (tell notice) ih
  | ask announcement low high next ih => exact congrArg (ask announcement low high) (funext ih)

instance : LawfulMonad Dialogue :=
  .mk' Dialogue (fun dialogue => bind_finish dialogue) (fun _ _ => rfl)
    (fun first second third => bind_bind first second third)

theorem times_one (body : Dialogue Unit) : times 1 body = body :=
  bind_pure body

theorem times_add (first second : Nat) (body : Dialogue Unit) :
    times (first + second) body = (do times first body; times second body) := by
  induction first with
  | zero => rw [Nat.zero_add, times, pure_bind]
  | succ first ih => rw [Nat.succ_add, times, ih, times, bind_assoc]

/-- Repetitions of repetitions are as many repetitions as their product. -/
theorem times_times (outer inner : Nat) (body : Dialogue Unit) :
    times outer (times inner body) = times (outer * inner) body := by
  induction outer with
  | zero => rw [Nat.zero_mul, times, times]
  | succ outer ih => rw [times, ih, Nat.succ_mul, Nat.add_comm, times_add]

/-! ## Dialogues without notices -/

/-- The dialogue without what it tells an observer. -/
def quiet : Dialogue α → Dialogue α
  | finish result => finish result
  | fail fault => fail fault
  | emit literal rest => emit literal rest.quiet
  | tell _ rest => rest.quiet
  | ask announcement low high next => ask announcement low high fun number => (next number).quiet

theorem quiet_bind (first : Dialogue α) (following : α → Dialogue β) :
    (first >>= following).quiet = first.quiet >>= fun result => (following result).quiet := by
  change (first.bind following).quiet = first.quiet.bind _
  induction first with
  | finish result => rfl
  | fail fault => rfl
  | emit literal rest ih => exact congrArg (emit literal) ih
  | tell notice rest ih => exact ih
  | ask announcement low high next ih => exact congrArg (ask announcement low high) (funext ih)

theorem quiet_times (count : Nat) (body : Dialogue Unit) :
    (times count body).quiet = times count body.quiet := by
  induction count with
  | zero => rfl
  | succ count ih => rw [times, times, quiet_bind, ih]

theorem quiet_settle (scope : Text) (bounds : Bounds) :
    (bounds.settle scope).quiet = bounds.settle scope := by
  rw [Bounds.settle]
  split <;> rfl

theorem quiet_refuse (fault : Option ScopeFault) : (refuse fault).quiet = refuse fault := by
  cases fault <;> rfl

/-- Without notices it makes no difference what a scope would tell, but only what it repeats. -/
theorem quiet_repeated (limit : Option Int) (name : Text) (bounds : Bounds) (vacant : Prop)
    [Decidable vacant] (fault : ScopeFault) (notice : Int → Notice) (body : Dialogue Unit) :
    (repeated limit name bounds vacant fault notice body).quiet = (do
      refuse (bounds.fault? name limit)
      if bounds.greatest = 0 then pure ()
      else if vacant then fail fault
      else
        let count ← bounds.settle name
        times count.toNat body.quiet) := by
  rw [repeated, quiet_bind, quiet_refuse]
  congr 1
  funext _
  split
  · rfl
  · split
    · rfl
    · rw [quiet_bind, quiet_settle]
      congr 1
      funext count
      exact quiet_times count.toNat body

/-- A scope that repeats a fixed number of times asks for nothing by itself, and nothing is the
matter with it unless it is vacant. -/
theorem quiet_repeated_fixed (name : Text) (count : Nat) {vacant : Prop} [Decidable vacant]
    (occupied : ¬vacant) (fault : ScopeFault) (notice : Int → Notice) (body : Dialogue Unit) :
    (repeated none name ⟨count, count⟩ vacant fault notice body).quiet =
      times count body.quiet := by
  have sound : (⟨count, count⟩ : Bounds).fault? name none = none := by
    rw [Bounds.fault?_eq_none_iff]
    exact ⟨⟨Int.natCast_nonneg count, Int.le_refl _⟩, fun bound bounded => nomatch bounded⟩
  rw [quiet_repeated, sound, refuse, pure_bind]
  cases count with
  | zero => rfl
  | succ count =>
    rw [if_neg (Int.natCast_ne_zero.mpr count.succ_ne_zero), if_neg occupied, Bounds.settle,
      if_pos rfl]
    rfl

/-- Without its notices a dialogue leads to the same visit without notices. -/
theorem run_quiet (source : Source σ) (dialogue : Dialogue α) (state : σ) :
    let visit := dialogue.run source state
    dialogue.quiet.run source state = { visit with events := visit.acts } := by
  induction dialogue generalizing state with
  | finish result => rfl
  | fail fault => rfl
  | emit literal rest ih => exact congrArg (Visit.precededBy (.emitted literal)) (ih state)
  | tell notice rest ih => exact ih state
  | ask announcement low high next ih =>
    rw [quiet]
    rcases drawn : source.draw low high (source.announce announcement state) with
      ⟨fault | value, after⟩
    · rw [run_ask_refused drawn, run_ask_refused drawn]
      rfl
    · cases inside : value.inRange low high with
      | false =>
        rw [run_ask_rejected drawn inside, run_ask_rejected drawn inside]
        rfl
      | true =>
        rw [run_ask_accepted drawn inside, run_ask_accepted drawn inside, ih value.number]
        rfl

end Dialogue

namespace Tree

variable {σ : Type}

/-! ## Steps -/

/-- A step that makes a tree simpler. -/
inductive Simplifies : Tree → Tree → Prop where
  /-- A sequence within a sequence, which comes once, makes way for its parts. -/
  | flatten (name inner : Text) (bounds : Bounds) (before after : List Tree) {parts : List Tree}
      (some : parts ≠ []) :
      Simplifies (.group name bounds false (before ++ .group inner ⟨1, 1⟩ false parts :: after))
        (.group name bounds false (before ++ parts ++ after))
  /-- Fixed repetitions of a sequence that repeats a fixed number of times are its repetitions. -/
  | fuse (name inner fused : Text) (outer count : Nat) {parts : List Tree} (some : parts ≠ []) :
      Simplifies (.group name ⟨outer, outer⟩ false [.group inner ⟨count, count⟩ false parts])
        (.group fused ⟨outer * count, outer * count⟩ false parts)
  /-- So are those of a leaf. -/
  | fuseLiteral (name leaf : Text) (outer count : Nat) {pool : List Text} (some : pool ≠ []) :
      Simplifies (.group name ⟨outer, outer⟩ false [.literal leaf ⟨count, count⟩ pool])
        (.literal leaf ⟨outer * count, outer * count⟩ pool)
  /-- A step is taken anywhere in a tree. -/
  | child (name : Text) (bounds : Bounds) (alternating : Bool) (before after : List Tree)
      {part simpler : Tree} (step : Simplifies part simpler) :
      Simplifies (.group name bounds alternating (before ++ part :: after))
        (.group name bounds alternating (before ++ simpler :: after))

/-! ## Groups without notices -/

/-- The dialogue of a tree under no limit, without notices. -/
def quietly (tree : Tree) : Dialogue Unit :=
  (tree.dialogue none).quiet

theorem quiet_dialogueAll (children : List Tree) :
    (dialogueAll none children).quiet =
      (children.map quietly).foldr (fun first rest => first >>= fun _ => rest) (pure ()) := by
  induction children with
  | nil => rfl
  | cons child rest ih =>
    rw [dialogueAll, Dialogue.quiet_bind, ih]
    rfl

theorem quiet_dialogueOne (children : List Tree) (index : Nat) :
    (dialogueOne none children index).quiet = (children.map quietly).getD index (pure ()) := by
  induction children generalizing index with
  | nil => rfl
  | cons child rest ih =>
    cases index with
    | zero => rfl
    | succ index => exact ih index

theorem dialogueAll_append (limit : Option Int) (first second : List Tree) :
    dialogueAll limit (first ++ second) =
      (do dialogueAll limit first; dialogueAll limit second) := by
  induction first with
  | nil => rfl
  | cons child rest ih => rw [List.cons_append, dialogueAll, dialogueAll, ih, bind_assoc]

/-- A group is known by its bounds, by whether it has children at all, and by what it repeats. -/
theorem quietly_congr (name : Text) (bounds : Bounds) (alternating : Bool)
    {children others : List Tree} (vacant : children.length = 0 ↔ others.length = 0)
    (round : (if alternating then Dialogue.turn name children.length (dialogueOne none children)
        else dialogueAll none children).quiet =
      (if alternating then Dialogue.turn name others.length (dialogueOne none others)
        else dialogueAll none others).quiet) :
    (group name bounds alternating children).quietly =
      (group name bounds alternating others).quietly := by
  rw [quietly, quietly, dialogue, dialogue, Dialogue.group, Dialogue.group,
    Dialogue.quiet_repeated, Dialogue.quiet_repeated, round]
  simp only [vacant]

/-- A group does with its children what they do. -/
theorem quietly_group (name : Text) (bounds : Bounds) (alternating : Bool)
    {children others : List Tree} (same : children.map quietly = others.map quietly) :
    (group name bounds alternating children).quietly =
      (group name bounds alternating others).quietly := by
  have length : children.length = others.length := by
    rw [← List.length_map quietly, same, List.length_map]
  refine quietly_congr name bounds alternating (by rw [length]) ?_
  cases alternating with
  | false =>
    change (dialogueAll none children).quiet = (dialogueAll none others).quiet
    rw [quiet_dialogueAll, quiet_dialogueAll, same]
  | true =>
    change Dialogue.ask _ _ _ (fun index => (dialogueOne none children index.toNat).quiet) =
      Dialogue.ask _ _ _ (fun index => (dialogueOne none others index.toNat).quiet)
    simp only [quiet_dialogueOne, same, length]

/-- A sequence repeats its children one after the other. -/
theorem quietly_sequence (name : Text) (bounds : Bounds) {children others : List Tree}
    (some : children ≠ []) (more : others ≠ [])
    (same : (dialogueAll none children).quiet = (dialogueAll none others).quiet) :
    (group name bounds false children).quietly = (group name bounds false others).quietly :=
  quietly_congr name bounds false
    (iff_of_false (mt List.length_eq_zero_iff.mp some) (mt List.length_eq_zero_iff.mp more)) same

/-- A fixed number of times, if that is their number. -/
theorem quietly_fixed (name : Text) (count : Nat) {children : List Tree} (some : children ≠ []) :
    (group name ⟨count, count⟩ false children).quietly =
      .times count (dialogueAll none children).quiet :=
  Dialogue.quiet_repeated_fixed name count (mt List.length_eq_zero_iff.mp some) _ _ _

theorem quietly_fixed_literal (name : Text) (count : Nat) {pool : List Text} (some : pool ≠ []) :
    (literal name ⟨count, count⟩ pool).quietly = .times count (.pick name pool) :=
  Dialogue.quiet_repeated_fixed name count (mt List.isEmpty_iff.mp some) _ _ _

/-- An only child is all children. -/
theorem quietly_fixed_singleton (name : Text) (count : Nat) (child : Tree) :
    (group name ⟨count, count⟩ false [child]).quietly = .times count child.quietly := by
  rw [quietly_fixed name count (List.cons_ne_nil child []), quiet_dialogueAll]
  exact congrArg _ (bind_pure child.quietly)

/-- A step leaves the dialogue of a tree as it is, but for the notices. -/
theorem quietly_of_simplifies {tree simpler : Tree} (step : Simplifies tree simpler) :
    tree.quietly = simpler.quietly := by
  induction step with
  | @flatten name inner bounds before after parts some =>
    refine quietly_sequence name bounds (by simp) (by simp [some]) ?_
    have once : (group inner ⟨1, 1⟩ false parts).quietly = (dialogueAll none parts).quiet :=
      (quietly_fixed inner 1 some).trans (Dialogue.times_one _)
    rw [List.append_assoc, dialogueAll_append, dialogueAll_append, dialogueAll_append, dialogueAll]
    simp only [Dialogue.quiet_bind, ← once]
    rfl
  | fuse name inner fused outer count some =>
    rw [quietly_fixed_singleton, quietly_fixed inner count some, Dialogue.times_times]
    exact (quietly_fixed fused (outer * count) some).symm
  | fuseLiteral name leaf outer count some =>
    rw [quietly_fixed_singleton, quietly_fixed_literal leaf count some, Dialogue.times_times]
    exact (quietly_fixed_literal leaf (outer * count) some).symm
  | child name bounds alternating before after step ih =>
    refine quietly_group name bounds alternating ?_
    rw [List.map_append, List.map_cons, ih, ← List.map_cons, ← List.map_append]

/-- So do any number of steps. -/
theorem quietly_of_steps {tree simpler : Tree}
    (steps : Relation.ReflTransGen Simplifies tree simpler) : tree.quietly = simpler.quietly := by
  induction steps with
  | refl => rfl
  | tail _ step ih => exact ih.trans (quietly_of_simplifies step)

/-- However often a tree is simplified, wherever in it, under no limit every source is asked the
same for the same scopes and left in the same state. The same literals are emitted between the same
requests, and the runs end alike, so that a text that is rendered is the same, and a sink holds the
same after a run that fails. A workshop is left the same but for the journal. -/
theorem generate_of_simplified {tree simpler : Tree}
    (steps : Relation.ReflTransGen Simplifies tree simpler) :
    (∀ {σ : Type} (source : Source σ) (state : σ),
      let visit := tree.generate none source state
      let same := simpler.generate none source state
      same.outcome = visit.outcome ∧ same.exchanges = visit.exchanges ∧
        same.emitted = visit.emitted ∧ same.acts = visit.acts ∧ same.source = visit.source ∧
        simpler.render none source state = tree.render none source state) ∧
    ∀ (shop : Workshop) (current : Settings), shop.desk.kept = some current →
      current.maxOccurrencesLimit = none → ∀ (source : SourceId) (sink : SinkId),
        let ran (tree : Tree) := (Work.generateInto tree source sink).run.run shop
        (ran simpler).1 = (ran tree).1 ∧
          { (ran simpler).2 with journal := shop.journal } =
            { (ran tree).2 with journal := shop.journal } := by
  have quiet := quietly_of_steps steps
  have alike {σ : Type} (source : Source σ) (state : σ) :
      let visit := tree.generate none source state
      let same := simpler.generate none source state
      same.outcome = visit.outcome ∧ same.acts = visit.acts ∧ same.source = visit.source := by
    intro visit same
    have unheard : { same with events := same.acts } = { visit with events := visit.acts } := by
      simp only [same, visit, generate_eq_run, ← Dialogue.run_quiet]
      exact congrArg (Dialogue.run source · state) quiet.symm
    injection unheard with outcome acts left
    exact ⟨outcome, acts, left⟩
  constructor
  · intro σ source state visit same
    obtain ⟨outcome, acts, left⟩ := alike source state
    have emitted : same.emitted = visit.emitted := by
      rw [Visit.emitted_eq_acts, acts, ← Visit.emitted_eq_acts]
    have exchanges : same.exchanges = visit.exchanges := by
      rw [Visit.exchanges_eq_acts, acts, ← Visit.exchanges_eq_acts]
    have text : same.text = visit.text := congrArg List.flatten emitted
    refine ⟨outcome, exchanges, emitted, acts, left, ?_⟩
    change same.outcome.map _ = visit.outcome.map _
    rw [outcome, text]
  · intro shop current kept unlimited source sink ran
    obtain ⟨outcome, acts, left⟩ := alike (Bench.source source) shop.bench
    obtain ⟨journal, here⟩ := Work.generateInto_of_kept kept tree source sink
    obtain ⟨other, there⟩ := Work.generateInto_of_kept kept simpler source sink
    simp only [ran, here, there, unlimited, outcome, left, Visit.emitted_eq_acts, acts, and_self]

/-- A ballad is a refrain, once or twice, or it rests. -/
def ballad (refrain : Tree) : Tree :=
  .group "ballad" ⟨1, 2⟩ true [refrain, .literal "rest" ⟨0, 1⟩ [""]]

/-- A refrain of two calls, each of which is three syllables, is six syllables. A script that runs
out in the second call leaves the same of it. -/
theorem generate_of_simplified_ballad :
    let syllables : List Text := ["la", "di"]
    let calls : Tree := .group "refrain" ⟨2, 2⟩ false
      [.group "call" ⟨1, 1⟩ false [.literal "syllable" ⟨3, 3⟩ syllables]]
    let song := ballad calls
    let simpler := ballad (.literal "syllable" ⟨6, 6⟩ syllables)
    let script : Scripted := { values := [.int 1, .int 0, .int 0, .int 1, .int 0, .int 1] }
    let same := simpler.generate none Scripted.source script
    Relation.ReflTransGen Simplifies song simpler ∧
      same.exchanges = (song.generate none Scripted.source script).exchanges ∧
      same.text = "ladiladi" ∧
      same.outcome = (song.generate none Scripted.source script).outcome ∧
      same.outcome.isOk = false := by
  intro syllables calls song simpler script same
  have some : syllables ≠ [] := List.cons_ne_nil _ _
  have flat : Simplifies song
      (ballad (.group "refrain" ⟨2, 2⟩ false [.literal "syllable" ⟨3, 3⟩ syllables])) :=
    .child "ballad" ⟨1, 2⟩ true [] _
      (.flatten "refrain" "call" ⟨2, 2⟩ [] [] (List.cons_ne_nil _ _))
  have fused : Simplifies
      (ballad (.group "refrain" ⟨2, 2⟩ false [.literal "syllable" ⟨3, 3⟩ syllables])) simpler :=
    .child "ballad" ⟨1, 2⟩ true [] _ (.fuseLiteral "refrain" "syllable" 2 3 some)
  have steps : Relation.ReflTransGen Simplifies song simpler :=
    (Relation.ReflTransGen.single flat).tail fused
  obtain ⟨outcome, exchanges, -⟩ := (generate_of_simplified steps).1 Scripted.source script
  exact ⟨steps, exchanges, by decide, outcome, by decide⟩

end Tree

end PatternForge
