import PatternForge.Proofs.Replay
import PatternForge.Workshop.Run

/-! # Runs of the workshop

The entry points of the workshop run `Tree.generate` with a source of the bench, under the limit of
the settings in use. With settings in use a run changes the bench as its visit changes it, and the
journal, and nothing else (`generateFrom_of_kept`); what it gives is what the visit gives
(`render_of_kept`, `trace_of_kept`).
-/

namespace PatternForge

/-- Bounds that are out of order end a visit whatever the limit is. -/
theorem Tree.generate_of_orderFault {σ : Type} {tree : Tree} {fault : ScopeFault}
    (found : tree.bounds.orderFault? tree.name = some fault) (limit : Option Int)
    (source : Source σ) : tree.generate limit source = Visiting.fail (.scope fault) := by
  have refused : tree.bounds.fault? tree.name limit = some fault := by
    rw [Bounds.fault?, found]
    rfl
  cases tree with
  | literal name bounds pool =>
    rw [generate, visitLiteral, show bounds.fault? name limit = some fault from refused]
    rfl
  | group name bounds alternating children =>
    rw [generate, visitGroup, show bounds.fault? name limit = some fault from refused]
    rfl

theorem Run.result_ofVisit {σ : Type} (visit : Visit σ Unit) :
    (Run.ofVisit visit).result = (visit.outcome.map fun _ => visit.text).mapError .generation := by
  simp only [result, ofVisit]
  cases visit.outcome <;> rfl

namespace Work

variable {σ α β : Type} {shop after : Workshop} {current : Settings}

/-- A piece of work that ends well is followed by the next one. -/
theorem run_bind_of_ok {first : Work α} {result : α}
    (ended : first.run.run shop = (.ok result, after)) (next : α → Work β) :
    (first >>= next).run.run shop = (next result).run.run after := by
  rw [ExceptT.run_bind, StateT.run_bind, ended]
  rfl

theorem run_ofExcept_id (answer : Except WorkFault α) :
    (ofExcept id answer).run.run shop = (answer, shop) := by
  cases answer <;> rfl

/-- The settings are those that the desk hands out. -/
theorem run_settings (shop : Workshop) :
    settings.run.run shop =
      (shop.desk.settings.1.mapError .settings, { shop with desk := shop.desk.settings.2 }) := by
  change (ofExcept WorkFault.settings shop.desk.settings.1).run.run
    { shop with desk := shop.desk.settings.2 } = _
  cases shop.desk.settings.1 <;> rfl

/-- The limit is that of the settings, which are asked for only if the bounds by themselves are in
order. -/
theorem run_limitFor (bounds : Bounds) (shop : Workshop) :
    (limitFor bounds).run.run shop =
      if bounds.Ordered then
        ((shop.desk.settings.1.mapError .settings).map (·.maxOccurrencesLimit),
          { shop with desk := shop.desk.settings.2 })
      else (.ok none, shop) := by
  by_cases ordered : bounds.Ordered
  · rw [limitFor, if_pos ordered, if_pos ordered, ExceptT.run_bind, StateT.run_bind, run_settings]
    cases shop.desk.settings.1 <;> rfl
  · rw [limitFor, if_neg ordered, if_neg ordered]
    rfl

/-- The limit of the settings in use, unless the bounds by themselves are out of order. -/
theorem limitFor_of_kept (kept : shop.desk.kept = some current) (bounds : Bounds) :
    (limitFor bounds).run.run shop =
      (.ok (if bounds.Ordered then current.maxOccurrencesLimit else none), shop) := by
  rw [run_limitFor, Desk.settings_eq_of_kept kept]
  split <;> rfl

/-- What notices add to a journal. -/
def journalAfter (journal : Journal) (notices : List Notice) : Journal :=
  notices.foldl (fun journal notice => journal.write (writerOf notice) notice.message) journal

/-- Notices are left in the journal and nowhere else. -/
theorem forM_write (notices : List Notice) (shop : Workshop) :
    (notices.forM fun notice => write (writerOf notice) notice.message).run.run shop =
      (.ok (), { shop with journal := journalAfter shop.journal notices }) := by
  induction notices generalizing shop with
  | nil => rfl
  | cons notice rest ih =>
    exact ih { shop with journal := shop.journal.write (writerOf notice) notice.message }

theorem run_attempt (work : Work α) (shop : Workshop) :
    (attempt work).run.run shop = (.ok (work.run.run shop).1, (work.run.run shop).2) := rfl

section Limit

variable {tree : Tree} {limit : Option Int} {fault : WorkFault}

/-- With a limit to go by a run is a visit, and its notices are left in the journal. -/
theorem generateFrom_of_limit (asked : (limitFor tree.bounds).run.run shop = (.ok limit, after))
    (source : Source σ) (state : σ) :
    let visit := tree.generate limit source state
    (generateFrom tree source state).run.run shop =
      (.ok (.ofVisit visit),
        { after with journal := journalAfter after.journal visit.notices }) := by
  have answered : (attempt (limitFor tree.bounds)).run.run shop = (.ok (.ok limit), after) := by
    rw [run_attempt, asked]
  intro visit
  rw [generateFrom, run_bind_of_ok answered]
  exact run_bind_of_ok (forM_write visit.notices after) _

/-- Without one nothing is visited. -/
theorem generateFrom_of_fault (asked : (limitFor tree.bounds).run.run shop = (.error fault, after))
    (source : Source σ) (state : σ) :
    (generateFrom tree source state).run.run shop =
      (.ok { outcome := .error fault, source := state }, after) := by
  have answered : (attempt (limitFor tree.bounds)).run.run shop = (.ok (.error fault), after) := by
    rw [run_attempt, asked]
  rw [generateFrom, run_bind_of_ok answered]
  rfl

/-- What the visit emitted goes into the sink. -/
theorem generateInto_of_limit (asked : (limitFor tree.bounds).run.run shop = (.ok limit, after))
    (source : SourceId) (sink : SinkId) :
    let visit := tree.generate limit (Bench.source source) shop.bench
    (generateInto tree source sink).run.run shop =
      (visit.outcome.mapError .generation,
        { after with
          bench := visit.source
          journal := journalAfter after.journal visit.notices
          sinks := after.sinks.modify sink (Sink.append visit.emitted) }) := by
  intro visit
  have ran := generateFrom_of_limit asked (Bench.source source) shop.bench
  have made : (generate tree source).run.run shop = _ := run_bind_of_ok ran _
  rw [generateInto, run_bind_of_ok made]
  exact run_ofExcept_id _

theorem generateInto_of_fault (asked : (limitFor tree.bounds).run.run shop = (.error fault, after))
    (source : SourceId) (sink : SinkId) :
    (generateInto tree source sink).run.run shop =
      (.error fault,
        { after with
          bench := shop.bench
          sinks := after.sinks.modify sink (Sink.append []) }) := by
  have ran := generateFrom_of_fault asked (Bench.source source) shop.bench
  have made : (generate tree source).run.run shop = _ := run_bind_of_ok ran _
  rw [generateInto, run_bind_of_ok made]
  rfl

end Limit

/-- A run from a tree is a visit to it under the limit of the settings in use. -/
theorem generateFrom_of_kept (kept : shop.desk.kept = some current) (tree : Tree)
    (source : Source σ) (state : σ) :
    ∃ journal, (generateFrom tree source state).run.run shop =
      (.ok (.ofVisit (tree.generate current.maxOccurrencesLimit source state)),
        { shop with journal }) := by
  have asked := limitFor_of_kept kept tree.bounds
  by_cases ordered : tree.bounds.Ordered
  · rw [if_pos ordered] at asked
    exact ⟨_, generateFrom_of_limit asked source state⟩
  · rw [if_neg ordered] at asked
    obtain ⟨fault, found⟩ := Bounds.exists_orderFault ordered tree.name
    have same : tree.generate current.maxOccurrencesLimit source = tree.generate none source := by
      rw [Tree.generate_of_orderFault found, Tree.generate_of_orderFault found]
    rw [same]
    exact ⟨_, generateFrom_of_limit asked source state⟩

section Entry

variable (kept : shop.desk.kept = some current) (tree : Tree) (source : SourceId)
include kept

private theorem generate_of_kept :
    let visit := tree.generate current.maxOccurrencesLimit (Bench.source source) shop.bench
    ∃ journal, (generate tree source).run.run shop =
      (.ok (.ofVisit visit), { shop with journal, bench := visit.source }) := by
  obtain ⟨journal, ran⟩ := generateFrom_of_kept kept tree (Bench.source source) shop.bench
  exact ⟨journal, run_bind_of_ok ran _⟩

/-- Generation into a sink appends what the visit emitted, and ends as the visit ended. -/
theorem generateInto_of_kept (sink : SinkId) :
    let visit := tree.generate current.maxOccurrencesLimit (Bench.source source) shop.bench
    ∃ journal, (generateInto tree source sink).run.run shop =
      (visit.outcome.mapError .generation,
        { shop with
          journal
          bench := visit.source
          sinks := shop.sinks.modify sink (Sink.append visit.emitted) }) := by
  intro visit
  obtain ⟨journal, ran⟩ := generate_of_kept kept tree source
  refine ⟨journal, ?_⟩
  have appended : (modifySink sink (Sink.append visit.emitted)).run.run
      { shop with journal, bench := visit.source } = _ := rfl
  rw [generateInto, run_bind_of_ok ran]
  exact (run_bind_of_ok appended _).trans (run_ofExcept_id _)

/-- What is rendered is the text of the tree under the limit of the settings in use. -/
theorem render_of_kept :
    ((render tree source).run.run shop).1 =
      (tree.render current.maxOccurrencesLimit (Bench.source source) shop.bench).mapError
        .generation := by
  obtain ⟨journal, ran⟩ := generate_of_kept kept tree source
  rw [render, run_bind_of_ok ran, run_ofExcept_id]
  exact Run.result_ofVisit _

/-- So is the trace that goes with it. -/
theorem trace_of_kept :
    ((trace tree source).run.run shop).1 =
      (tree.trace current.maxOccurrencesLimit (Bench.source source) shop.bench).mapError
        .generation := by
  obtain ⟨journal, ran⟩ := generateFrom_of_kept kept tree (Traced.source (Bench.source source))
    (Traced.start tree.name shop.bench)
  have made : (generateTraced tree source).run.run shop = _ := run_bind_of_ok ran _
  rw [trace, run_bind_of_ok made, Run.result_ofVisit, Tree.trace]
  cases (tree.generate current.maxOccurrencesLimit (Traced.source (Bench.source source))
    (Traced.start tree.name shop.bench)).outcome <;> rfl

end Entry

end Work

end PatternForge
