import Mathlib.Data.List.Forall2
import PatternForge.Proofs.Parts

/-! # Answers that are kept within bounds

A source may answer anything. Whatever it answers, a visit keeps to a pattern
(`Visiting.Contained`): each literal that it emits stands in a pool at the place that was drawn,
each number that it goes by lies in the range that was asked for, and the first answer that does not
is the last thing that happens. A visit to a tree keeps to it because each of the parts that it is
put together from does (`Tree.contained_generate`, and `Tree.contained_ownVisit` for a scope by
itself).
-/

namespace PatternForge

variable {σ α β : Type}

/-! ## Draws that are accepted -/

/-- A value that is in a range is a whole number of it. -/
theorem Value.toInt?_of_inRange {value : Value} {low high : Int}
    (inside : value.inRange low high = true) : value.toInt? = some value.number := by
  obtain ⟨given, whole⟩ := Option.isSome_iff_exists.mp (whole_of_inRange inside)
  rw [number, whole, Option.getD_some]

/-- A value that is in the range of the places of a list is one of them. -/
theorem Value.place_of_inRange {value : Value} {items : List α}
    (inside : value.inRange 0 ((items.length : Int) - 1) = true) :
    value.toInt? = some (value.number.toNat : Int) ∧
      ∃ item, items[value.number.toNat]? = some item := by
  obtain ⟨sign, reach⟩ := number_of_inRange inside
  have reached : value.number.toNat < items.length := by omega
  rw [toInt?_of_inRange inside, Int.toNat_of_nonneg sign]
  exact ⟨rfl, _, List.getElem?_eq_getElem reached⟩

namespace Exchange

/-- The source answered with a whole number of the range. -/
def accepted (exchange : Exchange) : Bool :=
  exchange.answer.toOption.any fun value => value.inRange exchange.low exchange.high

/-- A literal was drawn, and the draw accepted. -/
def picks (exchange : Exchange) : Bool :=
  exchange.accepted && decide (exchange.announcement.purpose = Purpose.literal.name)

theorem accepted_iff {exchange : Exchange} : exchange.accepted = true ↔
    ∃ value, exchange.answer = .ok value ∧ value.inRange exchange.low exchange.high = true := by
  obtain ⟨announcement, low, high, answer⟩ := exchange
  cases answer with
  | error fault => exact iff_of_false Bool.false_ne_true nofun
  | ok value => exact ⟨fun inside => ⟨value, rfl, inside⟩, fun ⟨_, rfl, inside⟩ => inside⟩

/-- A place of a list is a number of the range of its places. -/
theorem accepted_of_place {announcement : Announcement} {items : List α} {item : α} {value : Value}
    {place : ℕ} (whole : value.toInt? = some (place : Int)) (stands : items[place]? = some item) :
    accepted ⟨announcement, 0, (items.length : Int) - 1, .ok value⟩ = true := by
  obtain ⟨inside, -⟩ := List.getElem?_eq_some_iff.mp stands
  refine accepted_iff.mpr ⟨value, rfl, ?_⟩
  simp only [Value.inRange, whole, Bool.and_eq_true, decide_eq_true_eq]
  omega

theorem accepted_of_picks {exchange : Exchange} (picks : exchange.picks = true) :
    exchange.accepted = true :=
  (Bool.and_eq_true_iff.mp picks).1

/-- What is not accepted ends the visit with a fault. -/
theorem accepted_eq_false_iff {exchange : Exchange} : exchange.accepted = false ↔
    ∃ fault, judge exchange.announcement.scope exchange.low exchange.high exchange.answer =
      .error fault := by
  obtain ⟨announcement, low, high, answer⟩ := exchange
  cases answer with
  | error fault => exact iff_of_true rfl ⟨_, rfl⟩
  | ok value =>
    change value.inRange low high = false ↔ _
    cases inside : value.inRange low high with
    | false => simp only [judge, inside, Bool.false_eq_true, ↓reduceIte, Except.error.injEq,
        exists_eq']
    | true => simp only [judge, inside, ↓reduceIte, Bool.true_eq_false, reduceCtorEq, exists_false]

end Exchange

theorem Visit.mem_exchanges_iff {visit : Visit σ α} {exchange : Exchange} :
    exchange ∈ visit.exchanges ↔ .asked exchange ∈ visit.events := by
  refine List.mem_filterMap.trans ⟨?_, fun happened => ⟨_, happened, rfl⟩⟩
  rintro ⟨event, happened, asked⟩
  cases event with
  | asked other =>
    cases asked
    exact happened
  | emitted literal => cases asked
  | told notice => cases asked

def Event.picks (events : List Event) : List Exchange :=
  (events.filterMap Event.exchange?).filter Exchange.picks

/-- A draw that fails picks no literal. -/
theorem Event.picks_append_asked {draw : Exchange} (refused : draw.accepted = false)
    (events : List Event) : picks (events ++ [.asked draw]) = picks events := by
  have fails : ¬draw.picks = true := by
    rw [Exchange.picks, refused, Bool.false_and]
    exact Bool.false_ne_true
  have last : [draw].filter Exchange.picks = [] := List.filter_cons_of_neg fails
  rw [picks, List.filterMap_append, List.filter_append]
  change _ ++ [draw].filter Exchange.picks = _
  rw [last, List.append_nil, picks]

namespace Tree

/-- A leaf draws a literal: the answer is its place in the pool, counted from the front. -/
inductive Picks : Tree → Exchange → Text → Prop where
  | literal (name : Text) (bounds : Bounds) {pool : List Text} {value : Value} {place : ℕ}
      {literal : Text} (whole : value.toInt? = some (place : Int))
      (stands : pool[place]? = some literal) :
      Picks (.literal name bounds pool)
        ⟨⟨name, Purpose.literal.name⟩, 0, (pool.length : Int) - 1, .ok value⟩ literal

/-- A scope settles something else by a draw: how often it repeats, or which child it takes. -/
inductive Settles : Tree → Exchange → Prop where
  | count (tree : Tree) {value : Value} {count : Int} (whole : value.toInt? = some count)
      (lower : tree.bounds.least ≤ count) (upper : count ≤ tree.bounds.greatest) :
      Settles tree ⟨⟨tree.name, Purpose.count.name⟩, tree.bounds.least, tree.bounds.greatest,
        .ok value⟩
  | child (name : Text) (bounds : Bounds) {children : List Tree} {value : Value} {place : ℕ}
      {child : Tree} (whole : value.toInt? = some (place : Int))
      (stands : children[place]? = some child) :
      Settles (.group name bounds true children)
        ⟨⟨name, Purpose.child.name⟩, 0, (children.length : Int) - 1, .ok value⟩

theorem Picks.picks_eq_true {leaf : Tree} {exchange : Exchange} {literal : Text}
    (drawn : leaf.Picks exchange literal) : exchange.picks = true := by
  cases drawn with
  | literal name bounds whole stands =>
    exact Bool.and_eq_true_iff.mpr ⟨Exchange.accepted_of_place whole stands, decide_eq_true rfl⟩

theorem Settles.accepted {scope : Tree} {exchange : Exchange} (settles : scope.Settles exchange) :
    exchange.accepted = true := by
  cases settles with
  | count tree whole lower upper =>
    refine Exchange.accepted_iff.mpr ⟨_, rfl, ?_⟩
    simp only [Value.inRange, whole, Bool.and_eq_true, decide_eq_true_eq]
    exact ⟨lower, upper⟩
  | child name bounds whole stands => exact Exchange.accepted_of_place whole stands

theorem Settles.picks_eq_false {scope : Tree} {exchange : Exchange}
    (settles : scope.Settles exchange) : exchange.picks = false := by
  cases settles with
  | count =>
    have other : Purpose.count.name ≠ Purpose.literal.name := by decide
    exact Bool.and_eq_false_imp.mpr fun _ => decide_eq_false other
  | child =>
    have other : Purpose.child.name ≠ Purpose.literal.name := by decide
    exact Bool.and_eq_false_imp.mpr fun _ => decide_eq_false other

end Tree

/-! ## The pattern of a visit -/

/-- What happens among some scopes as long as no draw fails. -/
inductive Tree.Orderly (among : Tree → Prop) : List Event → Prop where
  | nothing : Orderly among []
  | told {notice : Notice} {rest : List Event} (orderly : Orderly among rest) :
      Orderly among (.told notice :: rest)
  | settled {scope : Tree} {exchange : Exchange} {rest : List Event} (member : among scope)
      (settles : scope.Settles exchange) (orderly : Orderly among rest) :
      Orderly among (.asked exchange :: rest)
  | picked {leaf : Tree} {exchange : Exchange} {literal : Text} {rest : List Event}
      (member : among leaf) (picks : leaf.Picks exchange literal) (orderly : Orderly among rest) :
      Orderly among (.asked exchange :: .emitted literal :: rest)

theorem Tree.Orderly.append {among : Tree → Prop} {first second : List Event}
    (orderly : Orderly among first) (further : Orderly among second) :
    Orderly among (first ++ second) := by
  induction orderly with
  | nothing => exact further
  | told _ ih => exact .told ih
  | settled member settles _ ih => exact .settled member settles ih
  | picked member picks _ ih => exact .picked member picks ih

theorem Tree.Orderly.mono {among wider : Tree → Prop} (within : ∀ scope, among scope → wider scope)
    {events : List Event} (orderly : Orderly among events) : Orderly wider events := by
  induction orderly with
  | nothing => exact .nothing
  | told _ ih => exact .told ih
  | settled member settles _ ih => exact .settled (within _ member) settles ih
  | picked member picks _ ih => exact .picked (within _ member) picks ih

/-- How a visit among some scopes ends. A fault is of a kind that needs no draw, or comes with a
draw that fails, and then this draw is the last thing that happens. -/
inductive Tree.Contained (among : Tree → Prop) (silent : GenerationFault → Prop) :
    Except GenerationFault α → List Event → Prop where
  | returned (result : α) {events : List Event} (orderly : Orderly among events) :
      Contained among silent (.ok result) events
  /-- It ends without a draw. -/
  | halted {fault : GenerationFault} {events : List Event} (quiet : silent fault)
      (orderly : Orderly among events) : Contained among silent (.error fault) events
  /-- Its last draw fails. -/
  | failed {exchange : Exchange} {fault : GenerationFault} {events : List Event}
      (judged : judge exchange.announcement.scope exchange.low exchange.high exchange.answer =
        .error fault) (orderly : Orderly among events) :
      Contained among silent (.error fault) (events ++ [.asked exchange])

/-- Every visit ends so. -/
def Visiting.Contained (among : Tree → Prop) (silent : GenerationFault → Prop)
    (visiting : Visiting σ α) : Prop :=
  ∀ state, Tree.Contained among silent (visiting state).outcome (visiting state).events

section Contained

variable {among : Tree → Prop} {silent : GenerationFault → Prop}

/-- What went well before makes no difference to the end. -/
theorem Tree.Contained.append {outcome : Except GenerationFault α} {first second : List Event}
    (orderly : Orderly among first) (contained : Contained among silent outcome second) :
    Contained among silent outcome (first ++ second) := by
  cases contained with
  | returned result further => exact .returned result (orderly.append further)
  | halted quiet further => exact .halted quiet (orderly.append further)
  | failed judged further =>
    rw [← List.append_assoc]
    exact .failed judged (orderly.append further)

theorem Tree.Contained.mono {wider : Tree → Prop} (within : ∀ scope, among scope → wider scope)
    {outcome : Except GenerationFault α} {events : List Event}
    (contained : Contained among silent outcome events) :
    Contained wider silent outcome events := by
  cases contained with
  | returned result orderly => exact .returned result (orderly.mono within)
  | halted quiet orderly => exact .halted quiet (orderly.mono within)
  | failed judged orderly => exact .failed judged (orderly.mono within)

namespace Visiting

theorem contained_pure (result : α) : Contained (σ := σ) among silent (pure result) :=
  fun _ => .returned result .nothing

theorem contained_fail {fault : GenerationFault} (quiet : silent fault) :
    Contained (σ := σ) (α := α) among silent (fail fault) :=
  fun _ => .halted quiet .nothing

theorem contained_tell (notice : Notice) : Contained (σ := σ) among silent (tell notice) :=
  fun _ => .returned () (.told .nothing)

/-- Of what is muted only the fault is left. -/
theorem contained_muted (quiet : ∀ fault, silent fault) (visiting : Visiting σ α) :
    visiting.muted.Contained among silent := by
  intro state
  change Tree.Contained among silent (visiting state).outcome []
  cases (visiting state).outcome with
  | error fault => exact .halted (quiet fault) .nothing
  | ok result => exact .returned result .nothing

theorem Contained.bind {first : Visiting σ α} {next : α → Visiting σ β}
    (contained : first.Contained among silent)
    (following : ∀ result, (next result).Contained among silent) :
    (first >>= next).Contained among silent := by
  intro state
  have begun := contained state
  change Tree.Contained among silent ((first state).andThen next).outcome
    ((first state).andThen next).events
  generalize first state = visit at begun ⊢
  obtain ⟨outcome, events, after⟩ := visit
  cases begun with
  | returned result orderly => exact (following result after).append orderly
  | halted quiet orderly => exact .halted quiet orderly
  | failed judged orderly => exact .failed judged orderly

theorem Contained.times {body : Visiting σ Unit} (contained : body.Contained among silent)
    (count : ℕ) : (times count body).Contained among silent := by
  induction count with
  | zero => exact contained_pure ()
  | succ count ih => exact contained.bind fun _ => ih

section Draws

variable {source : Source σ} {name purpose : Text} {bounds : Bounds} {low high : Int}

/-- A draw is accepted, or it fails. -/
theorem drawValue_cases (source : Source σ) (name purpose : Text) (low high : Int) (state : σ) :
    (∃ value after, value.inRange low high = true ∧ drawValue source name purpose low high state =
      ⟨.ok value, [.asked ⟨⟨name, purpose⟩, low, high, .ok value⟩], after⟩) ∨
    ∃ answer fault after, judge name low high answer = .error fault ∧
      drawValue source name purpose low high state =
        ⟨.error fault, [.asked ⟨⟨name, purpose⟩, low, high, answer⟩], after⟩ := by
  rcases drawn : source.draw low high (source.announce ⟨name, purpose⟩ state) with ⟨answer, after⟩
  have shape : drawValue source name purpose low high state =
      ⟨judge name low high answer, [.asked ⟨⟨name, purpose⟩, low, high, answer⟩], after⟩ := by
    simp only [drawValue, drawn]
  cases judged : judge name low high answer with
  | error fault => exact .inr ⟨answer, fault, after, judged, by rw [shape, judged]⟩
  | ok value =>
    cases answer with
    | error fault => cases judged
    | ok given =>
      cases inside : given.inRange low high with
      | false =>
        simp only [judge, inside, Bool.false_eq_true, ↓reduceIte] at judged
        cases judged
      | true =>
        simp only [judge, inside, ↓reduceIte, Except.ok.injEq] at judged
        obtain rfl := judged
        exact .inl ⟨given, after, inside, by rw [shape, judge, if_pos inside]⟩

/-- A draw by which something is settled. -/
theorem contained_drawValue
    (settles : ∀ value : Value, value.inRange low high = true →
      ∃ scope, among scope ∧ scope.Settles ⟨⟨name, purpose⟩, low, high, .ok value⟩) :
    (drawValue source name purpose low high).Contained among silent := by
  intro state
  rcases drawValue_cases source name purpose low high state with
    ⟨value, after, inside, drawn⟩ | ⟨answer, fault, after, judged, drawn⟩
  · obtain ⟨scope, member, settled⟩ := settles value inside
    rw [drawn]
    exact .returned value (.settled member settled .nothing)
  · rw [drawn]
    exact .failed judged .nothing

/-- A scope is contained if what it repeats is: how often it repeats it settles by a draw, if at
all. -/
theorem Contained.repeated {limit : Option Int} {vacant : Prop} [Decidable vacant]
    {fault : ScopeFault} {notice : Int → Notice} {body : Visiting σ Unit}
    (allowed : ∀ reason, silent (.scope reason))
    (counts : ∀ value : Value, value.inRange bounds.least bounds.greatest = true →
      ∃ scope, among scope ∧ scope.Settles
        ⟨⟨name, Purpose.count.name⟩, bounds.least, bounds.greatest, .ok value⟩)
    (turns : body.Contained among silent) :
    (repeated limit source name bounds vacant fault notice body).Contained among silent := by
  have checked : (refuse (σ := σ) (bounds.fault? name limit)).Contained among silent := by
    cases bounds.fault? name limit with
    | some reason => exact contained_fail (allowed reason)
    | none => exact contained_pure ()
  refine checked.bind fun _ => ?_
  split
  · exact contained_pure ()
  · split
    · exact contained_fail (allowed fault)
    · refine Contained.bind ?_ fun value => (contained_tell _).bind fun _ => turns.times _
      rw [Bounds.resolve]
      split
      · exact contained_pure _
      · exact contained_drawValue counts

theorem contained_visitPool {pool : List Text} (member : among (.literal name bounds pool)) :
    (visitPool source name pool).Contained among silent := by
  intro state
  have shape : visitPool source name pool state =
      (drawValue source name Purpose.literal.name 0 (pool.length - 1) state).andThen
        fun value => emit (pool.getD value.number.toNat []) := rfl
  rw [shape]
  rcases drawValue_cases source name Purpose.literal.name 0 (pool.length - 1) state with
    ⟨value, after, inside, drawn⟩ | ⟨answer, fault, after, judged, drawn⟩
  · obtain ⟨whole, literal, stands⟩ := Value.place_of_inRange inside
    have entry : pool.getD value.number.toNat [] = literal := by
      rw [List.getD_eq_getElem?_getD, stands, Option.getD_some]
    rw [drawn]
    change Tree.Contained among silent (.ok ()) [_, .emitted (pool.getD value.number.toNat [])]
    rw [entry]
    exact .returned () (.picked member (.literal name bounds whole stands) .nothing)
  · rw [drawn]
    exact .failed judged .nothing

theorem contained_visitChildren {alternating : Bool} {children : List Tree}
    {all : Visiting σ Unit} {one : ℕ → Visiting σ Unit}
    (member : among (.group name bounds alternating children))
    (every : all.Contained among silent) (each : ∀ place, (one place).Contained among silent) :
    (visitChildren source name alternating children.length all one).Contained among silent := by
  cases alternating with
  | false => exact every
  | true =>
    refine (contained_drawValue fun value inside => ?_).bind fun value => each _
    obtain ⟨whole, child, stands⟩ := Value.place_of_inRange inside
    exact ⟨_, member, .child name bounds whole stands⟩

end Draws

end Visiting

/-! ## The visits of a tree -/

namespace Tree

variable {limit : Option Int} {source : Source σ}

/-- A value within the bounds of a scope settles how often it repeats. -/
theorem settles_count {scope : Tree} {value : Value}
    (inside : value.inRange scope.bounds.least scope.bounds.greatest = true) :
    scope.Settles ⟨⟨scope.name, Purpose.count.name⟩, scope.bounds.least, scope.bounds.greatest,
      .ok value⟩ := by
  obtain ⟨lower, upper⟩ := Value.number_of_inRange inside
  exact .count scope (Value.toInt?_of_inRange inside) lower upper

/-- Whatever the source answers, what a scope does itself is contained, and among the scopes there
is no other than it. -/
theorem contained_ownVisit (scope : Tree) :
    (scope.ownVisit limit source).Contained (· = scope) fun _ => True := by
  cases scope with
  | literal name bounds pool =>
    rw [ownVisit, visitLiteral_eq]
    exact .repeated (fun _ => trivial) (fun value inside => ⟨_, rfl, settles_count inside⟩)
      (Visiting.contained_visitPool rfl)
  | group name bounds alternating children =>
    rw [ownVisit, visitGroup_eq]
    exact .repeated (fun _ => trivial) (fun value inside => ⟨_, rfl, settles_count inside⟩)
      (Visiting.contained_visitChildren rfl (Visiting.contained_muted (fun _ => trivial) _)
        fun _ => Visiting.contained_muted (fun _ => trivial) _)

theorem contained_generateAll {children : List Tree}
    (each : ∀ child ∈ children, (child.generate limit source).Contained among silent) :
    (generateAll limit source children).Contained among silent := by
  induction children with
  | nil => exact Visiting.contained_pure ()
  | cons child rest ih =>
    have others := ih fun other member => each other (List.mem_cons_of_mem _ member)
    exact (each child List.mem_cons_self).bind fun _ => others

theorem contained_generateOne {children : List Tree}
    (each : ∀ child ∈ children, (child.generate limit source).Contained among silent) (place : ℕ) :
    (generateOne limit source children place).Contained among silent := by
  induction children generalizing place with
  | nil => exact Visiting.contained_pure ()
  | cons child rest ih =>
    cases place with
    | zero => exact each child List.mem_cons_self
    | succ place => exact ih (fun other member => each other (List.mem_cons_of_mem _ member)) place

/-- Whatever the source answers, a visit to a tree is contained among its scopes. Only a scope that
can generate nothing ends it without a draw. -/
theorem contained_generate (limit : Option Int) (source : Source σ) (tree : Tree) :
    (tree.generate limit source).Contained (· ∈ tree.scopes)
      fun fault => ∃ reason, fault = .scope reason := by
  induction tree using Tree.induct with
  | literal name bounds pool =>
    rw [generate, visitLiteral_eq]
    exact .repeated (fun reason => ⟨reason, rfl⟩)
      (fun value inside => ⟨_, mem_scopes_self _, settles_count inside⟩)
      (Visiting.contained_visitPool (mem_scopes_self _))
  | group name bounds alternating children each =>
    have below : ∀ child ∈ children, (child.generate limit source).Contained
        (· ∈ (group name bounds alternating children).scopes)
        fun fault => ∃ reason, fault = .scope reason := fun child member state =>
      (each child member state).mono fun scope found => mem_scopes_of_child member found
    rw [generate, visitGroup_eq]
    exact .repeated (fun reason => ⟨reason, rfl⟩)
      (fun value inside => ⟨_, mem_scopes_self _, settles_count inside⟩)
      (Visiting.contained_visitChildren (mem_scopes_self _) (contained_generateAll below)
        (contained_generateOne below))

/-! ## What containment says of a visit -/

/-- As long as no draw fails, every draw is one by which a scope settles something, or picks a
literal. -/
theorem Orderly.settles_or_picks {events : List Event} (orderly : Orderly among events)
    {draw : Exchange} (member : .asked draw ∈ events) :
    ∃ scope, among scope ∧ (scope.Settles draw ∨ ∃ literal, scope.Picks draw literal) := by
  induction orderly with
  | nothing => exact absurd member List.not_mem_nil
  | told _ ih =>
    rcases List.mem_cons.mp member with told | later
    · cases told
    · exact ih later
  | settled found settles _ ih =>
    rcases List.mem_cons.mp member with asked | later
    · cases asked
      exact ⟨_, found, .inl settles⟩
    · exact ih later
  | picked found picks _ ih =>
    rcases List.mem_cons.mp member with asked | later
    · cases asked
      exact ⟨_, found, .inr ⟨_, picks⟩⟩
    · rcases List.mem_cons.mp later with emitted | later
      · cases emitted
      · exact ih later

theorem Orderly.accepted {events : List Event} (orderly : Orderly among events) {draw : Exchange}
    (member : .asked draw ∈ events) : draw.accepted = true := by
  obtain ⟨scope, -, settles | ⟨literal, picks⟩⟩ := orderly.settles_or_picks member
  · exact settles.accepted
  · exact Exchange.accepted_of_picks picks.picks_eq_true

/-- As long as no draw fails, the literals are emitted as they are picked. -/
theorem Orderly.forall₂_picks {events : List Event} (orderly : Orderly among events) :
    List.Forall₂ (fun draw literal => ∃ leaf, among leaf ∧ leaf.Picks draw literal)
      (Event.picks events) (events.filterMap Event.literal?) := by
  induction orderly with
  | nothing => exact .nil
  | told _ ih => exact ih
  | @settled scope exchange rest _ settles _ ih =>
    change List.Forall₂ _ ((exchange :: rest.filterMap Event.exchange?).filter Exchange.picks) _
    rw [List.filter_cons_of_neg (Bool.eq_false_iff.mp settles.picks_eq_false)]
    exact ih
  | @picked leaf exchange literal rest member picks _ ih =>
    change List.Forall₂ _ ((exchange :: rest.filterMap Event.exchange?).filter Exchange.picks)
      (literal :: rest.filterMap Event.literal?)
    rw [List.filter_cons_of_pos picks.picks_eq_true]
    exact .cons ⟨leaf, member, picks⟩ ih

namespace Contained

variable {outcome : Except GenerationFault α} {events : List Event}

/-- The literals of a visit are those that were picked in it, in order. -/
theorem forall₂_picks (contained : Contained among silent outcome events) :
    List.Forall₂ (fun draw literal => ∃ leaf, among leaf ∧ leaf.Picks draw literal)
      (Event.picks events) (events.filterMap Event.literal?) := by
  cases contained with
  | returned result orderly => exact orderly.forall₂_picks
  | halted quiet orderly => exact orderly.forall₂_picks
  | @failed exchange fault events judged orderly =>
    have refused : exchange.accepted = false := Exchange.accepted_eq_false_iff.mpr ⟨fault, judged⟩
    rw [Event.picks_append_asked refused, List.filterMap_append]
    change List.Forall₂ _ _ (_ ++ [])
    rw [List.append_nil]
    exact orderly.forall₂_picks

theorem settles_or_picks (contained : Contained among silent outcome events) {draw : Exchange}
    (member : .asked draw ∈ events) (accepted : draw.accepted = true) :
    ∃ scope, among scope ∧ (scope.Settles draw ∨ ∃ literal, scope.Picks draw literal) := by
  cases contained with
  | returned result orderly => exact orderly.settles_or_picks member
  | halted quiet orderly => exact orderly.settles_or_picks member
  | failed judged orderly =>
    rcases List.mem_append.mp member with earlier | last
    · exact orderly.settles_or_picks earlier
    · cases List.mem_singleton.mp last
      rw [Exchange.accepted_eq_false_iff.mpr ⟨_, judged⟩] at accepted
      cases accepted

/-- A draw that fails is the last thing that happens, and the visit fails as the scope judges it. -/
theorem last_of_failed {before after : List Event} {draw : Exchange}
    (contained : Contained among silent outcome (before ++ .asked draw :: after))
    (refused : draw.accepted = false) :
    after = [] ∧ ∃ fault, outcome = .error fault ∧
      judge draw.announcement.scope draw.low draw.high draw.answer = .error fault := by
  have midway {others : List Event} : ¬Orderly among (before ++ .asked draw :: others) := by
    intro orderly
    have accepted := orderly.accepted (List.mem_append_right before List.mem_cons_self)
    rw [refused] at accepted
    cases accepted
  generalize happened : before ++ Event.asked draw :: after = events at contained
  cases contained with
  | returned result orderly => exact absurd (happened ▸ orderly) midway
  | halted quiet orderly => exact absurd (happened ▸ orderly) midway
  | @failed exchange fault earlier judged orderly =>
    rcases after.eq_nil_or_concat with rfl | ⟨others, last, rfl⟩
    · obtain ⟨-, same⟩ := List.append_inj' happened rfl
      cases same
      exact ⟨rfl, fault, rfl, judged⟩
    · -- The draw would have failed before the last one.
      rw [List.concat_eq_append, ← List.cons_append, ← List.append_assoc] at happened
      obtain ⟨rfl, -⟩ := List.append_inj' happened rfl
      exact absurd orderly midway

/-- A fault that needs a draw comes with one. -/
theorem exists_judged {fault : GenerationFault}
    (contained : Contained (α := α) among silent (.error fault) events) :
    silent fault ∨ ∃ draw, .asked draw ∈ events ∧
      judge draw.announcement.scope draw.low draw.high draw.answer = .error fault := by
  cases contained with
  | halted quiet => exact .inl quiet
  | failed judged => exact .inr ⟨_, List.mem_append_right _ List.mem_cons_self, judged⟩

end Contained

end Tree

end Contained

end PatternForge
