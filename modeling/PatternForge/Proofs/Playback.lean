import PatternForge.Source.Scripted

/-! # What a script plays back

What a script does with a request is known from its earlier replies since it was made or seeded, for
two counts are all that it goes by. The requests that it took say which range it expects, and those
among them that it had no objection to say which value is next. A request can move both counts, only
the first or neither (`Scripted.Session.Follows.draw`), and any number of requests and seeds keep
them in step with the replies (`Scripted.draw_of_history`).
-/

namespace PatternForge

/-- The range that is expected of the call of a number, if there is one. -/
def Expectation.at? : Expectation → Nat → Option (Value × Value)
  | anything, _ => none
  | always low high, _ => some (low, high)
  | each ranges, number => ranges[number]?

/-- There are no calls expected from the one of a number on. -/
def Expectation.EndsBy (expectation : Expectation) (number : Nat) : Prop :=
  ∃ ranges, expectation = .each ranges ∧ ranges.length ≤ number

namespace Scripted

/-! ## The three ways a request can stand -/

section Draw

variable {script : Scripted} {low high : Int}

theorem draw_of_endsBy {ranges : List (Value × Value)} (listed : script.expectation = .each ranges)
    (used : ranges.length ≤ script.calls.length) :
    script.draw low high =
      (.error (.unexpectedCall (script.calls.length + 1) ranges.length), script) := by
  simp only [draw, listed, List.getElem?_eq_none used]

theorem draw_of_differs {expected : Value × Value}
    (expects : script.expectation.at? script.calls.length = some expected)
    (differs : agrees low high expected = false) :
    script.draw low high =
      (.error (.unexpectedRange (script.calls.length + 1) low high expected.1 expected.2),
        script.took low high) := by
  have number : (script.took low high).calls.length = script.calls.length + 1 :=
    List.length_append
  have objects : (script.took low high).advanceIf low high expected =
      (.error (.unexpectedRange (script.calls.length + 1) low high expected.1 expected.2),
        script.took low high) := by
    rw [advanceIf, differs, number]
    rfl
  rw [draw]
  cases stated : script.expectation with
  | anything =>
    rw [stated] at expects
    cases expects
  | always least greatest =>
    rw [stated] at expects
    obtain rfl := Option.some.inj expects
    exact objects
  | each ranges =>
    rw [stated] at expects
    change ranges[script.calls.length]? = some expected at expects
    simp only [expects]
    exact objects

theorem not_endsBy_of_at? {expectation : Expectation} {number : Nat} {expected : Value × Value}
    (expects : expectation.at? number = some expected) : ¬expectation.EndsBy number := by
  rintro ⟨ranges, rfl, used⟩
  change ranges[number]? = some expected at expects
  rw [List.getElem?_eq_none used] at expects
  cases expects

theorem not_endsBy_of_admits {expectation : Expectation} {number : Nat} {range : Int × Int}
    (admits : Admits expectation number range) : ¬expectation.EndsBy number := by
  rintro ⟨ranges, rfl, used⟩
  obtain ⟨expected, listed, -⟩ := admits
  rw [List.getElem?_eq_none used] at listed
  cases listed

/-- A request is one too many, or for another range, or the one expected. -/
theorem standing (expectation : Expectation) (number : Nat) (low high : Int) :
    expectation.EndsBy number ∨
      (∃ expected, expectation.at? number = some expected ∧ agrees low high expected = false) ∨
      Admits expectation number (low, high) := by
  cases expectation with
  | anything => exact .inr (.inr trivial)
  | always least greatest =>
    cases same : agrees low high (least, greatest) with
    | false => exact .inr (.inl ⟨_, rfl, same⟩)
    | true => exact .inr (.inr same)
  | each ranges =>
    cases listed : ranges[number]? with
    | none => exact .inl ⟨ranges, rfl, List.getElem?_eq_none_iff.mp listed⟩
    | some expected =>
      cases same : agrees low high expected with
      | false => exact .inr (.inl ⟨expected, listed, same⟩)
      | true => exact .inr (.inr ⟨expected, listed, same⟩)

theorem admits_of_agrees {expectation : Expectation} {number : Nat}
    (goesOn : ¬expectation.EndsBy number)
    (all : ∀ expected, expectation.at? number = some expected → agrees low high expected = true) :
    Admits expectation number (low, high) := by
  rcases standing expectation number low high with ended | ⟨expected, expects, differs⟩ | admits
  · exact absurd ended goesOn
  · exact absurd (all expected expects) (by rw [differs]; exact Bool.false_ne_true)
  · exact admits

end Draw

/-! ## The values in their order -/

/-- The value of a number in a row of values that may start over. -/
def valueAt? (values : List Value) (repeats : Bool) (number : Nat) : Option Value :=
  values[if repeats then number % values.length else number]?

/-- A row that has ended does not go on. -/
theorem valueAt?_eq_none_of_le {values : List Value} {repeats : Bool} {number later : Nat}
    (ended : valueAt? values repeats number = none) (after : number ≤ later) :
    valueAt? values repeats later = none := by
  cases repeats with
  | false =>
    change values[number]? = none at ended
    change values[later]? = none
    rw [List.getElem?_eq_none_iff] at ended ⊢
    exact Nat.le_trans ended after
  | true =>
    change values[number % values.length]? = none at ended
    change values[later % values.length]? = none
    rw [List.getElem?_eq_none_iff] at ended ⊢
    -- A remainder is less than the length, unless there are no values at all.
    rcases Nat.eq_zero_or_pos values.length with none | some
    · omega
    · exact absurd (Nat.mod_lt number some) (by omega)

/-! ## Replies -/

inductive Call where
  | draw (low high : Int)
  | seed (value : Option Int)

structure Reply where
  low : Int
  high : Int
  answer : Except DrawFault Value

namespace Reply

def range (reply : Reply) : Int × Int :=
  (reply.low, reply.high)

/-- Whether the request was taken: it was not refused as one too many. -/
def isTaken (reply : Reply) : Bool :=
  match reply.answer with
  | .error (.unexpectedCall ..) => false
  | _ => true

/-- Whether the request was taken and went on to the values: its range was not refused, either. -/
def isServed (reply : Reply) : Bool :=
  match reply.answer with
  | .error (.unexpectedCall ..) | .error (.unexpectedRange ..) => false
  | _ => true

def value? (reply : Reply) : Option Value :=
  reply.answer.toOption

end Reply

/-- A script and its replies since it was made or seeded. -/
structure Session where
  script : Scripted
  replies : List Reply := []

namespace Session

/-- The session with one more reply, which left the script as it is now. -/
def replied (session : Session) (reply : Reply) (script : Scripted) : Session :=
  { script, replies := session.replies ++ [reply] }

def after (session : Session) : Call → Session
  | .draw low high =>
    session.replied ⟨low, high, (session.script.draw low high).1⟩ (session.script.draw low high).2
  | .seed value => { script := session.script.seed value }

def taken (session : Session) : Nat :=
  session.replies.countP Reply.isTaken

/-- How many requests went on to the values. -/
def served (session : Session) : Nat :=
  session.replies.countP Reply.isServed

def returned (session : Session) : List Value :=
  session.replies.filterMap Reply.value?

section Replied

variable (session : Session) (reply : Reply) (script : Scripted)

theorem taken_replied :
    (session.replied reply script).taken = session.taken + if reply.isTaken then 1 else 0 := by
  simp only [taken, replied, List.countP_append, List.countP_singleton]

theorem served_replied :
    (session.replied reply script).served = session.served + if reply.isServed then 1 else 0 := by
  simp only [served, replied, List.countP_append, List.countP_singleton]

theorem returned_replied :
    (session.replied reply script).returned = session.returned ++ reply.value?.toList := by
  simp only [returned, replied, List.filterMap_append]
  cases known : reply.value? <;> simp only [List.filterMap, known] <;> rfl

theorem calls_replied :
    ((session.replied reply script).replies.filter Reply.isTaken).map Reply.range =
      (session.replies.filter Reply.isTaken).map Reply.range ++
        if reply.isTaken then [reply.range] else [] := by
  rw [replied, List.filter_append, List.map_append]
  cases taken : reply.isTaken <;> simp [taken]

end Replied

/-- The script is the one that was made, and stands where its replies say. -/
structure Follows (made : Scripted) (session : Session) : Prop where
  values : session.script.values = made.values
  expectation : session.script.expectation = made.expectation
  repeats : session.script.repeats = made.repeats
  /-- It keeps the requests that it took. -/
  calls : session.script.calls = (session.replies.filter Reply.isTaken).map Reply.range
  /-- It took no more requests than it expects. -/
  room : ∀ ranges, made.expectation = .each ranges → session.taken ≤ ranges.length
  /-- It handed out the values of the requests that it served. -/
  returned : session.returned =
    (List.range session.served).filterMap (valueAt? made.values made.repeats)
  /-- Each of these requests moved it on, as long as there was a value. -/
  place : session.script.position = session.served ∨
    session.script.position ≤ session.served ∧
      valueAt? made.values made.repeats session.script.position = none

namespace Follows

/-- A script that was just made or seeded has nothing to follow. -/
theorem ofFresh {made script : Scripted} (values : script.values = made.values)
    (expectation : script.expectation = made.expectation) (repeats : script.repeats = made.repeats)
    (calls : script.calls = []) (position : script.position = 0) :
    Session.Follows made { script } where
  values := values
  expectation := expectation
  repeats := repeats
  calls := calls
  room := fun _ _ => Nat.zero_le _
  returned := rfl
  place := .inl position

variable {made : Scripted} {session : Session} (follows : session.Follows made)
include follows

theorem length_calls : session.script.calls.length = session.taken := by
  rw [follows.calls, List.length_map, ← List.countP_eq_length_filter]
  rfl

/-- The value at its place is the one that the number of served requests leads to. -/
theorem valueAt?_position :
    valueAt? made.values made.repeats session.script.position =
      valueAt? made.values made.repeats session.served := by
  rcases follows.place with same | ⟨before, ended⟩
  · rw [same]
  · rw [ended, valueAt?_eq_none_of_le ended before]

theorem upcoming?_eq :
    session.script.upcoming? = valueAt? made.values made.repeats session.served := by
  rw [← follows.valueAt?_position, ← follows.values, ← follows.repeats]
  rfl

theorem endsBy_iff :
    made.expectation.EndsBy session.taken ↔
      ∃ ranges, made.expectation = .each ranges ∧ ranges.length = session.taken := by
  constructor
  · rintro ⟨ranges, listed, used⟩
    exact ⟨ranges, listed, Nat.le_antisymm used (follows.room ranges listed)⟩
  · rintro ⟨ranges, listed, same⟩
    exact ⟨ranges, listed, Nat.le_of_eq same⟩

section Draw

variable {low high : Int}

/-- A request that is one too many is refused, and nothing moves. -/
theorem draw_of_endsBy (ended : made.expectation.EndsBy session.taken) :
    session.script.draw low high =
      (.error (.unexpectedCall (session.taken + 1) session.taken), session.script) := by
  obtain ⟨ranges, listed, same⟩ := follows.endsBy_iff.mp ended
  have used : ranges.length ≤ session.script.calls.length :=
    Nat.le_of_eq (same.trans follows.length_calls.symm)
  rw [Scripted.draw_of_endsBy (follows.expectation.trans listed) used, same, follows.length_calls]

/-- A request for another range is taken and refused. -/
theorem draw_of_differs {expected : Value × Value}
    (expects : made.expectation.at? session.taken = some expected)
    (differs : agrees low high expected = false) :
    session.script.draw low high =
      (.error (.unexpectedRange (session.taken + 1) low high expected.1 expected.2),
        session.script.took low high) := by
  rw [Scripted.draw_of_differs (by rw [follows.expectation, follows.length_calls, expects]) differs,
    follows.length_calls]

/-- Any other request is taken and served, with the next value if there is one. -/
theorem draw_of_admits (admits : Admits made.expectation session.taken (low, high)) :
    session.script.draw low high =
      match valueAt? made.values made.repeats session.served with
      | some value => (.ok value, session.script.answered low high)
      | none => (.error (.exhausted made.values.length), session.script.took low high) := by
  rw [Scripted.draw_of_admits (by rw [follows.expectation, follows.length_calls]; exact admits),
    advance, upcoming?_took, follows.upcoming?_eq]
  cases valueAt? made.values made.repeats session.served with
  | some value => rfl
  | none =>
    rw [← follows.values]
    rfl

/-- Only a request that is one too many is refused as such. -/
theorem endsBy_of_unexpectedCall
    (refused : ∃ number known, (session.script.draw low high).1 =
      .error (.unexpectedCall number known)) : made.expectation.EndsBy session.taken := by
  obtain ⟨number, known, refused⟩ := refused
  rcases standing made.expectation session.taken low high with
    ended | ⟨expected, expects, differs⟩ | admits
  · exact ended
  · rw [follows.draw_of_differs expects differs] at refused
    cases refused
  · rw [follows.draw_of_admits admits] at refused
    split at refused <;> cases refused

/-- Any other request is kept. -/
theorem calls_draw (goesOn : ¬made.expectation.EndsBy session.taken) :
    (session.script.draw low high).2.calls = session.script.calls ++ [(low, high)] := by
  rcases standing made.expectation session.taken low high with
    ended | ⟨expected, expects, differs⟩ | admits
  · exact absurd ended goesOn
  · rw [follows.draw_of_differs expects differs]
    rfl
  · rw [follows.draw_of_admits admits]
    split <;> rfl

end Draw

/-- A reply keeps the script and the replies in step if the script takes what the reply says, and
hands out the value that is next if the reply says that the request was served. -/
theorem replied {reply : Reply} {script : Scripted} (values : script.values = session.script.values)
    (expectation : script.expectation = session.script.expectation)
    (repeats : script.repeats = session.script.repeats)
    (calls : script.calls = session.script.calls ++ if reply.isTaken then [reply.range] else [])
    (room : reply.isTaken = true → ¬made.expectation.EndsBy session.taken)
    (value : reply.value? =
      if reply.isServed then valueAt? made.values made.repeats session.served else none)
    (position : script.position =
      session.script.position + if reply.value?.isSome then 1 else 0) :
    (session.replied reply script).Follows made where
  values := values.trans follows.values
  expectation := expectation.trans follows.expectation
  repeats := repeats.trans follows.repeats
  calls := by
    rw [calls_replied, ← follows.calls]
    exact calls
  room := by
    intro ranges listed
    rw [taken_replied]
    cases taken : reply.isTaken with
    | false => exact follows.room ranges listed
    | true => exact Nat.lt_of_not_le fun full => room taken ⟨ranges, listed, full⟩
  returned := by
    rw [returned_replied, served_replied, follows.returned, value]
    cases reply.isServed with
    | false => exact List.append_nil _
    | true =>
      simp only [↓reduceIte, List.range_succ, List.filterMap_append]
      cases known : valueAt? made.values made.repeats session.served <;>
        simp only [List.filterMap, known] <;> rfl
  place := by
    have next := follows.valueAt?_position
    rw [served_replied, show (session.replied reply script).script = script from rfl, position,
      value]
    cases reply.isServed with
    | false => exact follows.place
    | true =>
      cases known : valueAt? made.values made.repeats session.served with
      | some value =>
        -- There was a value, so every served request before moved the script on.
        rcases follows.place with same | ⟨-, ended⟩
        · exact .inl (congrArg (· + 1) same)
        · rw [next, known] at ended
          cases ended
      | none =>
        have before : session.script.position ≤ session.served := by
          rcases follows.place with same | ⟨before, -⟩ <;> omega
        exact .inr ⟨Nat.le_succ_of_le before, next.trans known⟩

/-- So does any request. -/
theorem draw (low high : Int) : (session.after (.draw low high)).Follows made := by
  rw [after]
  rcases standing made.expectation session.taken low high with
    ended | ⟨expected, expects, differs⟩ | admits
  · rw [follows.draw_of_endsBy ended]
    exact follows.replied rfl rfl rfl (List.append_nil _).symm nofun rfl rfl
  · rw [follows.draw_of_differs expects differs]
    exact follows.replied rfl rfl rfl rfl (fun _ => not_endsBy_of_at? expects) rfl rfl
  · have further : ¬made.expectation.EndsBy session.taken := not_endsBy_of_admits admits
    rw [follows.draw_of_admits admits]
    cases known : valueAt? made.values made.repeats session.served with
    | some value => exact follows.replied rfl rfl rfl rfl (fun _ => further) known.symm rfl
    | none => exact follows.replied rfl rfl rfl rfl (fun _ => further) known.symm rfl

/-- So does a seed. -/
theorem seed (value : Option Int) : (session.after (.seed value)).Follows made :=
  ofFresh follows.values follows.expectation follows.repeats rfl rfl

/-- So does any number of calls. -/
theorem foldl (calls : List Call) : (calls.foldl Session.after session).Follows made := by
  induction calls generalizing session with
  | nil => exact follows
  | cons call rest ih =>
    cases call with
    | draw low high => exact ih (follows.draw low high)
    | seed value => exact ih (follows.seed value)

end Follows

end Session

/-- The next reply of a script is known from its replies since it was made or seeded, whatever these
were. A request that comes after as many calls as a list of ranges expects is refused and leaves
everything as it is. Any other request is kept. If its range is not the one expected of the call of
its number, it is refused and uses up no value. If it is, it gets the value that is next after those
of the requests served before it, or is told that there is none, which then is so for good. The
values that were handed out are thus the ones of the script in order. -/
theorem draw_of_history (values : List Value) (expectation : Expectation) (repeats : Bool)
    (top : Int) (calls : List Call) (low high : Int) :
    let session := calls.foldl Session.after { script := { values, expectation, repeats, top } }
    let script := session.script
    let ended := ∃ ranges, expectation = .each ranges ∧ ranges.length = script.calls.length
    script.calls = (session.replies.filter Reply.isTaken).map Reply.range ∧
      session.returned = (List.range session.served).filterMap (valueAt? values repeats) ∧
      ((∃ number known, (script.draw low high).1 = .error (.unexpectedCall number known)) ↔ ended) ∧
      (ended → script.draw low high =
        (.error (.unexpectedCall (script.calls.length + 1) script.calls.length), script)) ∧
      (¬ended → (script.draw low high).2.calls = script.calls ++ [(low, high)]) ∧
      (∀ expected, expectation.at? script.calls.length = some expected →
        agrees low high expected = false → script.draw low high =
          (.error (.unexpectedRange (script.calls.length + 1) low high expected.1 expected.2),
            script.took low high)) ∧
      (¬ended → (∀ expected, expectation.at? script.calls.length = some expected →
        agrees low high expected = true) → script.draw low high =
          match valueAt? values repeats session.served with
          | some value => (.ok value, script.answered low high)
          | none => (.error (.exhausted values.length), script.took low high)) ∧
      (valueAt? values repeats session.served = none → ∀ later, session.served ≤ later →
        valueAt? values repeats later = none) := by
  intro session script ended
  let made : Scripted := { values, expectation, repeats, top }
  have follows : session.Follows made := (Session.Follows.ofFresh rfl rfl rfl rfl rfl).foldl calls
  rw [follows.length_calls]
  have reached : ended ↔ expectation.EndsBy session.taken := by
    rw [follows.endsBy_iff, ← follows.length_calls]
  refine ⟨follows.calls, follows.returned, ⟨?_, ?_⟩, ?_, ?_, ?_, ?_, ?_⟩
  · intro refused
    exact reached.mpr (follows.endsBy_of_unexpectedCall refused)
  · intro is
    rw [follows.draw_of_endsBy (reached.mp is)]
    exact ⟨_, _, rfl⟩
  · intro is
    exact follows.draw_of_endsBy (reached.mp is)
  · intro goesOn
    exact follows.calls_draw (mt reached.mpr goesOn)
  · intro expected expects differs
    exact follows.draw_of_differs expects differs
  · intro goesOn all
    exact follows.draw_of_admits (admits_of_agrees (mt reached.mpr goesOn) all)
  · intro none later after
    exact valueAt?_eq_none_of_le none after

/-- A request for another range is kept and uses up no value, a seed starts the values and the calls
again, and a request after the last expected one is not even kept. -/
example :
    let expectation := Expectation.each [(.int 0, .int 5), (.int 0, .int 5), (.int 1, .int 6)]
    let session := [.draw 0 5, .seed none, .draw 0 5, .draw 0 9, .draw 1 6, .draw 0 5].foldl
      Session.after { script := { values := [.int 3, .int 1], expectation } }
    session.returned = [.int 3, .int 1] ∧ session.script.calls = [(0, 5), (0, 9), (1, 6)] ∧
      session.replies.map Reply.isServed = [true, false, true, false] :=
  ⟨rfl, rfl, rfl⟩

end Scripted

end PatternForge
