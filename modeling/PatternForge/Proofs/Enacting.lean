import PatternForge.Proofs.Consulting

/-! # Generation that is enacted

A dialogue may be enacted in a workshop step by step: each literal goes into the sink and each
notice into the journal when it is their turn. Generation under one limit enacts the dialogue of the
tree (`Tree.generateUnder_eq_enact`). With a source of the bench it leaves behind what a run of the
workshop leaves, which asks for the settings once and writes when all is done
(`Work.generateInto_eq`).
-/

namespace PatternForge

/-- What a dialogue does in a workshop, step by step. -/
def Dialogue.enact {α : Type} (around : Surroundings) : Dialogue α → Work α
  | finish result => pure result
  | fail fault => throw (.generation (.scope fault))
  | emit literal rest => do
    around.receive literal
    rest.enact around
  | tell notice rest => do
    Work.tell notice
    rest.enact around
  | ask announcement low high next => do
    let number ← Work.ask around announcement low high
    (next number).enact around

namespace Dialogue

variable {α β : Type} (around : Surroundings)

theorem enact_bind (first : Dialogue α) (following : α → Dialogue β) :
    (first >>= following).enact around =
      first.enact around >>= fun result => (following result).enact around := by
  change (first.bind following).enact around = _
  induction first with
  | finish result => exact (pure_bind _ _).symm
  | fail fault => rfl
  | emit literal rest ih => simp only [Dialogue.bind, enact, ih, bind_assoc]
  | tell notice rest ih => simp only [Dialogue.bind, enact, ih, bind_assoc]
  | ask announcement low high next ih => simp only [Dialogue.bind, enact, ih, bind_assoc]

theorem enact_times (count : Nat) (body : Dialogue Unit) :
    (times count body).enact around = Work.times count (body.enact around) := by
  induction count with
  | zero => rfl
  | succ count ih =>
    rw [times, enact_bind, ih]
    rfl

theorem enact_repeated (limit : Option Int) (name : Text) (bounds : Bounds) (vacant : Prop)
    [Decidable vacant] (fault : ScopeFault) (notice : Int → Notice) (body : Dialogue Unit) :
    (repeated limit name bounds vacant fault notice body).enact around =
      Work.repeated (Work.checkUnder limit) around name bounds vacant fault notice
        (body.enact around) := by
  have checked : (refuse (bounds.fault? name limit)).enact around =
      Work.checkUnder limit name bounds := by
    rw [Work.checkUnder]
    cases bounds.fault? name limit <;> rfl
  have settled : (bounds.settle name).enact around = Work.settle around name bounds := by
    rw [Bounds.settle, Work.settle]
    split
    · rfl
    · exact bind_pure _
  rw [repeated, Work.repeated, enact_bind, checked]
  congr 1
  funext _
  split
  · rfl
  · split
    · rfl
    · rw [enact_bind, settled]
      congr 1
      funext count
      rw [enact, enact_times]

end Dialogue

namespace Tree

section Children

variable {limit : Option Int} {around : Surroundings} {children : List Tree}
  (each : ∀ child ∈ children,
    child.generateUnder limit around = (child.dialogue limit).enact around)
include each

private theorem generateAllWith_eq_enact :
    generateAllWith (Work.checkUnder limit) around children =
      (dialogueAll limit children).enact around := by
  induction children with
  | nil => rfl
  | cons child rest ih =>
    rw [generateAllWith, dialogueAll, Dialogue.enact_bind, ← each child List.mem_cons_self,
      ih fun other member => each other (List.mem_cons_of_mem _ member)]
    rfl

private theorem generateOneWith_eq_enact (index : Nat) :
    generateOneWith (Work.checkUnder limit) around children index =
      (dialogueOne limit children index).enact around := by
  induction children generalizing index with
  | nil => rfl
  | cons child rest ih =>
    cases index with
    | zero => exact each child List.mem_cons_self
    | succ index => exact ih (fun other member => each other (List.mem_cons_of_mem _ member)) index

end Children

/-- Under one limit generation enacts the dialogue of the tree. -/
theorem generateUnder_eq_enact (limit : Option Int) (around : Surroundings) (tree : Tree) :
    tree.generateUnder limit around = (tree.dialogue limit).enact around := by
  induction tree using Tree.induct with
  | literal name bounds pool =>
    rw [generateUnder, generateWith, dialogue, Dialogue.literal, Dialogue.enact_repeated,
      Dialogue.pick, Dialogue.enact]
    congr 2
    funext index
    exact (bind_pure (around.receive (pool.getD index.toNat []))).symm
  | group name bounds alternating children each =>
    rw [generateUnder, generateWith, dialogue, Dialogue.group, Dialogue.enact_repeated]
    congr 1
    cases alternating with
    | false => exact generateAllWith_eq_enact each
    | true =>
      change (Work.ask _ _ _ _ >>= _) = (Work.ask _ _ _ _ >>= _)
      congr 1
      funext index
      exact generateOneWith_eq_enact each index.toNat

end Tree

/-! ## Generation with a source of the bench -/

section Sinks

variable (sinks : Array Sink) (sink : SinkId)

theorem modify_append_nil : sinks.modify sink (Sink.append []) = sinks := by
  refine Array.ext_getElem? fun index => ?_
  rw [Array.getElem?_modify]
  split
  · rw [show Sink.append [] = id from funext Sink.append_nil]
    exact Option.map_id_apply
  · rfl

theorem modify_append_append (first second : List Text) :
    (sinks.modify sink (Sink.append first)).modify sink (Sink.append second) =
      sinks.modify sink (Sink.append (first ++ second)) := by
  refine Array.ext_getElem? fun index => ?_
  simp only [Array.getElem?_modify]
  split
  · rw [Option.map_map]
    exact congrArg (Option.map · _) (funext fun held => (held.append_append first second).symm)
  · rfl

end Sinks

namespace Work

/-- A source of the bench hears what a request is for and answers it. -/
def answerOnBench (source : SourceId) (announcement : Announcement) (low high : Int) :
    Work Value := do
  modifyBench (Bench.announce source announcement)
  draw source low high

theorem run_answerOnBench (source : SourceId) (announcement : Announcement) (low high : Int)
    (shop : Workshop) :
    let drawn := (Bench.source source).draw low high
      ((Bench.source source).announce announcement shop.bench)
    (answerOnBench source announcement low high).run.run shop =
      (drawn.1.mapError .draw, { shop with bench := drawn.2 }) := by
  intro drawn
  change (ofExcept WorkFault.draw drawn.1).run.run { shop with bench := drawn.2 } = _
  cases drawn.1 <;> rfl

end Work

/-- A source of the bench and a sink of the workshop. -/
def Surroundings.onBench (source : SourceId) (sink : SinkId) : Surroundings where
  answer := Work.answerOnBench source
  receive literal := Work.modifySink sink (Sink.append [literal])
  keeps_answer announcement low high shop current kept := by
    rw [Work.run_answerOnBench]
    exact kept
  keeps_receive literal shop current kept := kept

namespace Work

variable (source : SourceId) (sink : SinkId)

theorem run_ask_onBench (announcement : Announcement) (low high : Int) (shop : Workshop) :
    let drawn := (Bench.source source).draw low high
      ((Bench.source source).announce announcement shop.bench)
    (ask (.onBench source sink) announcement low high).run.run shop =
      (((judge announcement.scope low high drawn.1).map Value.number).mapError .generation,
        { shop with bench := drawn.2 }) := by
  intro drawn
  have answered : (answerOnBench source announcement low high).run.run shop =
      (drawn.1.mapError .draw, { shop with bench := drawn.2 }) :=
    run_answerOnBench source announcement low high shop
  rw [ask]
  change ((answerOnBench source announcement low high) >>= _).run.run shop = _
  rcases given : drawn.1 with fault | value
  · rw [given] at answered
    rw [run_bind_of_error answered]
    rfl
  · rw [given] at answered
    rw [run_bind_of_ok answered, judge]
    split <;> rfl

/-- A dialogue that is enacted step by step leaves behind what its run leaves. -/
theorem run_enact_onBench {α : Type} (dialogue : Dialogue α) (shop : Workshop) :
    let visit := dialogue.run (Bench.source source) shop.bench
    (dialogue.enact (.onBench source sink)).run.run shop =
      (visit.outcome.mapError .generation,
        { shop with
          bench := visit.source
          journal := journalAfter shop.journal visit.notices
          sinks := shop.sinks.modify sink (Sink.append visit.emitted) }) := by
  induction dialogue generalizing shop with
  | finish result =>
    change (Except.ok result, shop) = (Except.ok result,
      { shop with sinks := shop.sinks.modify sink (Sink.append []) })
    rw [modify_append_nil]
  | fail fault =>
    change (Except.error _, shop) = (Except.error _,
      { shop with sinks := shop.sinks.modify sink (Sink.append []) })
    rw [modify_append_nil]
  | emit literal rest ih =>
    let received : Workshop :=
      { shop with sinks := shop.sinks.modify sink (Sink.append [literal]) }
    change (rest.enact (.onBench source sink)).run.run received = _
    rw [ih received, modify_append_append]
    rfl
  | tell notice rest ih =>
    exact ih { shop with journal := shop.journal.write (writerOf notice) notice.message }
  | ask announcement low high next ih =>
    have asked := run_ask_onBench source sink announcement low high shop
    rw [Dialogue.enact]
    rcases Dialogue.run_ask_cases (Bench.source source) announcement low high next shop.bench with
      ⟨fault, after, drawn, run⟩ | ⟨value, after, drawn, outside, run⟩ |
      ⟨value, after, drawn, inside, run⟩
    · simp only [drawn, judge] at asked
      rw [run, run_bind_of_error asked]
      refine Prod.ext rfl ?_
      change _ = { shop with bench := after, sinks := shop.sinks.modify sink (Sink.append []) }
      rw [modify_append_nil]
    · simp only [drawn, judge, outside, Bool.false_eq_true, ↓reduceIte] at asked
      rw [run, run_bind_of_error asked]
      refine Prod.ext rfl ?_
      change _ = { shop with bench := after, sinks := shop.sinks.modify sink (Sink.append []) }
      rw [modify_append_nil]
    · simp only [drawn, judge, inside, ↓reduceIte] at asked
      rw [run, run_bind_of_ok asked]
      exact ih value.number { shop with bench := after }

/-- Under one limit generation with a source of the bench is a visit. -/
theorem run_generateUnder_onBench (limit : Option Int) (tree : Tree) (shop : Workshop) :
    let visit := tree.generate limit (Bench.source source) shop.bench
    (tree.generateUnder limit (.onBench source sink)).run.run shop =
      (visit.outcome.mapError .generation,
        { shop with
          bench := visit.source
          journal := journalAfter shop.journal visit.notices
          sinks := shop.sinks.modify sink (Sink.append visit.emitted) }) := by
  rw [Tree.generateUnder_eq_enact, Tree.generate_eq_run]
  exact run_enact_onBench source sink (tree.dialogue limit) shop

/-- A run of the workshop is generation with the source and the sink in which every scope that is
come to asks for the settings. -/
theorem generateInto_eq (tree : Tree) :
    generateInto tree source sink = tree.generateAsking (.onBench source sink) := by
  refine ExceptT.ext (StateT.ext fun shop => ?_)
  have asked := run_limitFor tree.bounds shop
  by_cases ordered : tree.bounds.Ordered
  · have asks := Tree.asksFirst_generateAsking ordered (.onBench source sink)
    rw [if_pos ordered] at asked
    rcases told : shop.desk.settings.1 with fault | current
    · rw [Desk.settings_of_error told] at asked
      rw [generateInto_of_fault asked, asks.run_of_error told]
      refine Prod.ext rfl ?_
      change { shop with sinks := shop.sinks.modify sink (Sink.append []) } = shop
      rw [modify_append_nil]
    · rw [Desk.settings_of_ok told] at asked
      rw [generateInto_of_limit asked, asks.run_of_ok told,
        (Tree.generateAsking_of_kept rfl _ tree).1, run_generateUnder_onBench]
      rfl
  · rw [if_neg ordered] at asked
    obtain ⟨fault, asking, under⟩ :=
      Tree.generateAsking_of_not_ordered ordered none (.onBench source sink) shop
    rw [generateInto_of_limit asked, asking, ← under, run_generateUnder_onBench]

end Work

end PatternForge
