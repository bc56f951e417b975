import PatternForge.Proofs.Causality
import PatternForge.Proofs.Tracing

/-! # Recording a source that gives no numbers

A recording source reads each value as a whole number before the visit sees it. A value that cannot
be read ends the visit at the same request, but with a fault of the trace in place of the scope's
own (`Dialogue.shadows_run`); in all else a recorded visit shadows the visit by itself, whatever
values the source gives.
-/

namespace PatternForge

/-- The fault that ends a recorded visit where this one ends the visit by itself. -/
def GenerationFault.underRecording : GenerationFault → GenerationFault
  | .outOfRange name low high value =>
    match Field.readInteger value with
    | .ok _ => .outOfRange name low high value
    | .error findings => .source (.unrecordable (findings.map (Finding.within (.field "value"))))
  | fault => fault

/-- A recorded visit does what the visit by itself does, and leaves the source alike. It ends alike
but for the fault. -/
structure Visit.Shadows {σ α : Type} (plain : Visit σ α) (recorded : Visit (Traced σ) α) :
    Prop where
  /-- A fault of a value may be another. -/
  outcome : recorded.outcome = plain.outcome.mapError GenerationFault.underRecording
  emitted : recorded.emitted = plain.emitted
  requests : recorded.requests = plain.requests
  inner : recorded.source.inner = plain.source

namespace Visit.Shadows

variable {σ α : Type} {plain : Visit σ α} {recorded : Visit (Traced σ) α}
  (shadows : plain.Shadows recorded)
include shadows

theorem precededBy_emitted (literal : Text) :
    (plain.precededBy (.emitted literal)).Shadows (recorded.precededBy (.emitted literal)) where
  outcome := shadows.outcome
  emitted := congrArg (List.cons literal) shadows.emitted
  requests := congrArg (List.map (Request.after literal)) shadows.requests
  inner := shadows.inner

theorem precededBy_told (notice : Notice) :
    (plain.precededBy (.told notice)).Shadows (recorded.precededBy (.told notice)) :=
  { shadows with }

theorem precededBy_asked (exchange : Exchange) :
    (plain.precededBy (.asked exchange)).Shadows (recorded.precededBy (.asked exchange)) where
  outcome := shadows.outcome
  emitted := shadows.emitted
  requests := congrArg (List.cons _) shadows.requests
  inner := shadows.inner

end Visit.Shadows

namespace Dialogue

variable {σ α : Type}

/-- A run through a recording source shadows the run without it, whatever the source gives. -/
theorem shadows_run (draw : (low high : Int) → σ → Except DrawFault Value × σ)
    (dialogue : Dialogue α) (start : Traced σ) :
    (dialogue.run (.ofDraw draw) start.inner).Shadows
      (dialogue.run (Traced.source (.ofDraw draw)) start) := by
  induction dialogue generalizing start with
  | finish result => exact ⟨rfl, rfl, rfl, rfl⟩
  | fail fault => exact ⟨rfl, rfl, rfl, rfl⟩
  | emit literal rest ih => exact (ih start).precededBy_emitted literal
  | tell notice rest ih => exact (ih start).precededBy_told notice
  | ask announcement low high next ih =>
    -- What the recording source is asked, the source behind it is asked at once.
    rcases run_ask_cases (.ofDraw draw) announcement low high next start.inner with
      ⟨fault, after, drawn, plain⟩ | ⟨value, after, drawn, outside, plain⟩ |
      ⟨value, after, drawn, inside, plain⟩
    · have recorded : (ask announcement low high next).run (Traced.source (.ofDraw draw)) start =
          _ := run_ask_refused (Traced.draw_of_refused drawn)
      rw [plain, recorded]
      exact ⟨rfl, rfl, rfl, rfl⟩
    · cases read : Field.readInteger value with
      | error findings =>
        have recorded : (ask announcement low high next).run (Traced.source (.ofDraw draw)) start =
            _ := run_ask_refused (Traced.draw_of_unread rfl drawn read)
        rw [plain, recorded]
        refine ⟨?_, rfl, rfl, rfl⟩
        change Except.error _ = Except.error (GenerationFault.underRecording _)
        simp only [GenerationFault.underRecording, read]
      | ok number =>
        have recorded : (ask announcement low high next).run (Traced.source (.ofDraw draw)) start =
            _ := run_ask_rejected (Traced.draw_of_read rfl drawn read) outside
        rw [plain, recorded]
        refine ⟨?_, rfl, rfl, rfl⟩
        change Except.error _ = Except.error (GenerationFault.underRecording _)
        simp only [GenerationFault.underRecording, read]
    · obtain ⟨number, is⟩ := Option.isSome_iff_exists.mp (Value.whole_of_inRange inside)
      have recorded : (ask announcement low high next).run (Traced.source (.ofDraw draw)) start =
          _ := run_ask_accepted (Traced.draw_of_whole rfl drawn is) inside
      rw [plain, recorded]
      exact (ih value.number ⟨after, _, none⟩).precededBy_asked _

end Dialogue

namespace GenerationFault

/-- A fault is the same under recording if it is not about a value that cannot be read. -/
theorem underRecording_eq_self_iff {fault : GenerationFault} : fault.underRecording = fault ↔
    ∀ scope low high value, fault = outOfRange scope low high value →
      ∃ number, Field.readInteger value = .ok number := by
  constructor
  · rintro same scope low high value rfl
    cases read : Field.readInteger value with
    | ok number => exact ⟨number, rfl⟩
    | error findings =>
      simp only [underRecording, read] at same
      cases same
  · intro readable
    cases fault with
    | outOfRange scope low high value =>
      obtain ⟨number, read⟩ := readable scope low high value rfl
      simp only [underRecording, read]
    | _ => rfl

end GenerationFault

namespace Tree

variable {σ : Type}

/-- A recorded run fails at the request where the run by itself fails, after the same literals and
the same requests, and leaves the source alike. It fails with the same fault, too, exactly if the
value that the scope turns down stands for some number; the trace objects to any other value before
the scope can. -/
theorem recorded_fails_alike_iff (limit : Option Int) (tree : Tree)
    (draw : (low high : Int) → σ → Except DrawFault Value × σ) (start : Traced σ) :
    let plain := tree.generate limit (.ofDraw draw) start.inner
    let recorded := tree.generate limit (Traced.source (.ofDraw draw)) start
    recorded.emitted = plain.emitted ∧ recorded.requests = plain.requests ∧
      recorded.source.inner = plain.source ∧
      recorded.outcome = plain.outcome.mapError GenerationFault.underRecording ∧
      (recorded.outcome = plain.outcome ↔
        ∀ scope low high value, plain.outcome = .error (.outOfRange scope low high value) →
          ∃ number, Field.readInteger value = .ok number) := by
  intro plain recorded
  have shadows : plain.Shadows recorded := by
    simp only [plain, recorded, generate_eq_run]
    exact Dialogue.shadows_run draw _ start
  refine ⟨shadows.emitted, shadows.requests, shadows.inner, shadows.outcome, ?_⟩
  rw [shadows.outcome]
  cases plain.outcome with
  | ok result => exact iff_of_true rfl nofun
  | error fault =>
    change Except.error fault.underRecording = Except.error fault ↔ _
    rw [Except.error.injEq]
    exact GenerationFault.underRecording_eq_self_iff.trans
      (by simp only [Except.error.injEq])

/-- A script that abstains from a vote between two literals. The scope says what it was given and
for which range; the trace says that the value of a draw should be a whole number. -/
theorem recorded_fails_otherwise :
    let choice : Tree := .literal "s" ⟨1, 1⟩ ["a", "b"]
    let script : Scripted := { values := [.null] }
    (choice.generate none Scripted.source script).outcome =
        .error (.outOfRange "s" 0 1 .null) ∧
      (choice.generate none (Traced.source Scripted.source) (Traced.start "s" script)).outcome =
        .error (.source (.unrecordable [⟨[.field "value"], .notInteger⟩])) :=
  ⟨rfl, rfl⟩

end Tree

end PatternForge
