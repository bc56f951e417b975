import PatternForge.Proofs.Dialogue
import PatternForge.Source.Scripted

/-! # The courses of a dialogue

A course is one way through a dialogue to its end: the answers to the requests, each in its range,
and the literals emitted. Every run that ends well takes a course, whatever the source does
(`exists_course_of_run`), and a script with the answers of a course makes a run take it
(`Course.run_script`). So the courses of a dialogue are what its runs can bring about.
-/

namespace PatternForge.Dialogue

variable {σ α β : Type}

/-- A way through a dialogue to its end. -/
inductive Course : Dialogue α → List Int → List Text → α → Prop where
  | finish (result : α) : Course (.finish result) [] [] result
  | emit {literal : Text} {rest : Dialogue α} {answers : List Int} {fragments : List Text}
      {result : α} (course : Course rest answers fragments result) :
      Course (.emit literal rest) answers (literal :: fragments) result
  | tell {notice : Notice} {rest : Dialogue α} {answers : List Int} {fragments : List Text}
      {result : α} (course : Course rest answers fragments result) :
      Course (.tell notice rest) answers fragments result
  | ask {announcement : Announcement} {low high answer : Int} {next : Int → Dialogue α}
      {answers : List Int} {fragments : List Text} {result : α} (lower : low ≤ answer)
      (upper : answer ≤ high) (course : Course (next answer) answers fragments result) :
      Course (.ask announcement low high next) (answer :: answers) fragments result

theorem Course.bind {first : Dialogue α} {following : α → Dialogue β} {before after : List Int}
    {opening closing : List Text} {middle : α} {result : β}
    (course : Course first before opening middle)
    (rest : Course (following middle) after closing result) :
    Course (first >>= following) (before ++ after) (opening ++ closing) result := by
  change Course (first.bind following) _ _ _
  induction course with
  | finish middle => exact rest
  | emit _ ih => exact .emit (ih rest)
  | tell _ ih => exact .tell (ih rest)
  | ask lower upper _ ih => exact .ask lower upper (ih rest)

/-- A way through two dialogues is a way through each. -/
theorem Course.split {first : Dialogue α} {following : α → Dialogue β} {answers : List Int}
    {fragments : List Text} {result : β}
    (course : Course (first >>= following) answers fragments result) :
    ∃ before opening middle after closing, Course first before opening middle ∧
      Course (following middle) after closing result ∧
      answers = before ++ after ∧ fragments = opening ++ closing := by
  change Course (first.bind following) _ _ _ at course
  induction first generalizing answers fragments with
  | finish middle => exact ⟨[], [], middle, answers, fragments, .finish middle, course, rfl, rfl⟩
  | fail fault => cases course
  | emit literal rest ih =>
    cases course with
    | emit course =>
      obtain ⟨before, opening, middle, after, closing, left, right, rfl, rfl⟩ := ih course
      exact ⟨before, literal :: opening, middle, after, closing, .emit left, right, rfl, rfl⟩
  | tell notice rest ih =>
    cases course with
    | tell course =>
      obtain ⟨before, opening, middle, after, closing, left, right, rfl, rfl⟩ := ih course
      exact ⟨before, opening, middle, after, closing, .tell left, right, rfl, rfl⟩
  | ask announcement low high next ih =>
    cases course with
    | @ask _ _ _ answer _ _ _ _ lower upper course =>
      obtain ⟨before, opening, middle, after, closing, left, right, rfl, rfl⟩ := ih answer course
      exact ⟨answer :: before, opening, middle, after, closing, .ask lower upper left, right, rfl,
        rfl⟩

/-- A run that ends well takes a course, whatever the source does. -/
theorem exists_course_of_run {source : Source σ} {dialogue : Dialogue α} {state : σ} {result : α}
    (returned : (dialogue.run source state).outcome = .ok result) :
    ∃ answers, Course dialogue answers (dialogue.run source state).emitted result := by
  induction dialogue generalizing state with
  | finish ended =>
    obtain rfl : ended = result := Except.ok.inj returned
    exact ⟨[], .finish ended⟩
  | fail fault => cases returned
  | emit literal rest ih =>
    obtain ⟨answers, course⟩ := ih returned
    exact ⟨answers, .emit course⟩
  | tell notice rest ih =>
    obtain ⟨answers, course⟩ := ih returned
    exact ⟨answers, .tell course⟩
  | ask announcement low high next ih =>
    rcases run_ask_cases source announcement low high next state with
      ⟨fault, after, drawn, run⟩ | ⟨value, after, drawn, outside, run⟩ |
      ⟨value, after, drawn, inside, run⟩
    · rw [run] at returned
      cases returned
    · rw [run] at returned
      cases returned
    · rw [run] at returned ⊢
      obtain ⟨answers, course⟩ := ih value.number returned
      obtain ⟨lower, upper⟩ := Value.number_of_inRange inside
      exact ⟨value.number :: answers, .ask lower upper course⟩

/-- A script with the answers of a course makes a run take it, and nothing of the answers is left
over. -/
theorem Course.run_script {dialogue : Dialogue α} {answers : List Int} {fragments : List Text}
    {result : α} (course : Course dialogue answers fragments result) {script : Scripted}
    (free : script.expectation = .anything) (once : script.repeats = false)
    (left : script.remaining = answers.map Value.int) :
    (dialogue.run Scripted.source script).outcome = .ok result ∧
      (dialogue.run Scripted.source script).emitted = fragments ∧
      ∃ ranges : List (Int × Int), ranges.length = answers.length ∧
        (dialogue.run Scripted.source script).source =
          { script with
            calls := script.calls ++ ranges
            position := script.position + answers.length } := by
  induction course generalizing script with
  | finish result =>
    refine ⟨rfl, rfl, [], rfl, ?_⟩
    simp only [List.append_nil]
    rfl
  | @emit literal rest answers fragments result _ ih =>
    obtain ⟨returned, emitted, used⟩ := ih free once left
    refine ⟨returned, ?_, used⟩
    change ((rest.run Scripted.source script).precededBy (.emitted literal)).emitted = _
    rw [Visit.emitted_precededBy, emitted]
    rfl
  | tell _ ih => exact ih free once left
  | @ask announcement low high answer next answers fragments result lower upper _ ih =>
    have admits : Scripted.Admits script.expectation script.calls.length (low, high) := by
      rw [free]
      trivial
    have inside := Value.inRange_int_iff.mpr ⟨lower, upper⟩
    rw [run_ask_accepted (Scripted.draw_of_remaining_cons once admits left) inside]
    obtain ⟨returned, emitted, ranges, length, used⟩ :=
      @ih (script.answered low high) free once (Scripted.remaining_answered low high left)
    refine ⟨returned, emitted, (low, high) :: ranges, ?_, ?_⟩
    · rw [List.length_cons, List.length_cons, length]
    · rw [Visit.source_precededBy, Value.number_int, used]
      simp only [Scripted.answered, Scripted.took, List.append_assoc, List.singleton_append,
        List.length_cons]
      congr 1
      omega

end PatternForge.Dialogue
