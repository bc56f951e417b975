import PatternForge.Proofs.Parts

/-! # The limit on repetitions

The limit is asked once in every visit to a scope, after the bounds were found in order and before
anything is emitted or asked. So a run under a limit does what a run under a wider one does, up to
the first scope that is in order and exceeds the limit, and there it ends (`Tree.curbed_survey`).
The objection of a limit is a configuration error if it can be worded. A bound too long to be
written ends the run as well, but with another error.

To say which scope is the first, a run is made with a list beside its source on which every scope is
noted when it is visited (`Tree.survey`); apart from the list it is the run that it was
(`Tree.unlists_survey`).
-/

namespace PatternForge

variable {σ τ α β : Type}

/-! ## Relations between visits -/

/-- A relation that holds between the things of which visits are made, with one source and with
another, and is kept when they are done one after the other. -/
structure Visiting.Compatible (source : Source σ) (other : Source τ)
    (related : ∀ {α : Type}, Visiting σ α → Visiting τ α → Prop) : Prop where
  pure : ∀ {α : Type} (result : α), related (pure result) (pure result)
  emit : ∀ literal, related (Visiting.emit literal) (Visiting.emit literal)
  tell : ∀ notice, related (Visiting.tell notice) (Visiting.tell notice)
  /-- A request to one source is related to the same request to the other. -/
  draw : ∀ scope purpose low high,
    related (drawValue source scope purpose low high) (drawValue other scope purpose low high)
  /-- What is related may be followed by what is related. -/
  bind : ∀ {α β : Type} {first : Visiting σ α} {second : Visiting τ α}
    {next : α → Visiting σ β} {following : α → Visiting τ β}, related first second →
    (∀ result, related (next result) (following result)) →
      related (first >>= next) (second >>= following)

namespace Visiting

/-- What a scope with bounds in order does. -/
def repetition (source : Source σ) (name : Text) (bounds : Bounds) (vacant : Prop)
    [Decidable vacant] (fault : ScopeFault) (notice : Int → Notice) (body : Visiting σ Unit) :
    Visiting σ Unit :=
  if bounds.greatest = 0 then pure ()
  else if vacant then fail (.scope fault)
  else do
    let count := (← bounds.resolve source name).number
    tell (notice count)
    times count.toNat body

theorem repeated_eq (limit : Option Int) (source : Source σ) (name : Text) (bounds : Bounds)
    (vacant : Prop) [Decidable vacant] (fault : ScopeFault) (notice : Int → Notice)
    (body : Visiting σ Unit) :
    repeated limit source name bounds vacant fault notice body =
      refuse (bounds.fault? name limit) >>= fun _ =>
        repetition source name bounds vacant fault notice body := rfl

namespace Compatible

variable {source : Source σ} {other : Source τ}
  {related : ∀ {α : Type}, Visiting σ α → Visiting τ α → Prop}
  (compatible : Compatible source other related)
include compatible

theorem times {body : Visiting σ Unit} {same : Visiting τ Unit} (alike : related body same)
    (count : Nat) : related (times count body) (Visiting.times count same) := by
  induction count with
  | zero => exact compatible.pure ()
  | succ count ih => exact compatible.bind alike fun _ => ih

theorem repetition {name : Text} {bounds : Bounds} {vacant : Prop} [Decidable vacant]
    {fault : ScopeFault} {notice : Int → Notice} {body : Visiting σ Unit}
    {same : Visiting τ Unit} (alike : related body same)
    (failing : related (fail (.scope fault) : Visiting σ Unit) (fail (.scope fault))) :
    related (repetition source name bounds vacant fault notice body)
      (Visiting.repetition other name bounds vacant fault notice same) := by
  rw [Visiting.repetition, Visiting.repetition]
  split
  · exact compatible.pure ()
  · split
    · exact failing
    · refine compatible.bind ?_ fun value => compatible.bind (compatible.tell _) fun _ =>
        compatible.times alike _
      rw [Bounds.resolve, Bounds.resolve]
      split
      · exact compatible.pure _
      · exact compatible.draw _ _ _ _

theorem visitPool (name : Text) (pool : List Text) :
    related (PatternForge.visitPool source name pool) (PatternForge.visitPool other name pool) :=
  compatible.bind (compatible.draw _ _ _ _) fun _ => compatible.emit _

theorem visitChildren {name : Text} {alternating : Bool} {count : Nat} {all : Visiting σ Unit}
    {one : Nat → Visiting σ Unit} {sameAll : Visiting τ Unit} {sameOne : Nat → Visiting τ Unit}
    (alike : related all sameAll) (each : ∀ index, related (one index) (sameOne index)) :
    related (PatternForge.visitChildren source name alternating count all one)
      (PatternForge.visitChildren other name alternating count sameAll sameOne) := by
  cases alternating with
  | true => exact compatible.bind (compatible.draw _ _ _ _) fun index => each _
  | false => exact alike

end Compatible

end Visiting

/-! ## What a limit objects to -/

/-- A limit is as tight as another or tighter. Where there is none, nothing is too much. -/
def Tighter (limit wider : Option Int) : Prop :=
  ∀ wide ∈ wider, ∃ bound ∈ limit, bound ≤ wide

/-- The fault is the objection of a limit. -/
def ScopeFault.ofLimit : ScopeFault → Bool
  | aboveLimit .. => true
  | _ => false

/-- The run was ended by the objection of a limit. -/
def GenerationFault.ofLimit : GenerationFault → Bool
  | scope fault => fault.ofLimit
  | _ => false

/-- The objection of a limit is raised as the configuration error that it is. -/
def GenerationFault.IsLimitError (fault : GenerationFault) : Prop :=
  fault.ofLimit = true ∧ fault.report.kind = .configurationError

/-- The root is in order and repeats more often than a limit allows. -/
def Tree.Exceeds (limit : Option Int) (scope : Tree) : Prop :=
  scope.bounds.Ordered ∧ ∃ bound ∈ limit, bound < scope.bounds.greatest

namespace Bounds

variable {bounds : Bounds} {scope : Text}

/-- Bounds out of order are found so under all limits alike. -/
theorem fault?_of_not_ordered (wrong : ¬bounds.Ordered) :
    ∃ fault : ScopeFault, fault.ofLimit = false ∧
      ∀ limit, bounds.fault? scope limit = some fault := by
  obtain ⟨fault, order⟩ := exists_orderFault wrong scope
  refine ⟨fault, ?_, fun limit => by rw [fault?, order]; rfl⟩
  rw [orderFault?] at order
  split at order
  · cases order
    rfl
  · split at order
    · cases order
      rfl
    · cases order

end Bounds

/-! ## Visited scopes -/

/-- A source beside which there is a list of scopes. -/
def Source.listing (source : Source σ) : Source (σ × List Tree) where
  announce announcement state := (source.announce announcement state.1, state.2)
  draw low high state :=
    let (answer, after) := source.draw low high state.1
    (answer, after, state.2)

def Visiting.note (scope : Tree) : Visiting (σ × List Tree) Unit :=
  fun state => { outcome := .ok (), source := (state.1, state.2 ++ [scope]) }

namespace Tree

mutual

/-- Generates from a tree, and puts every scope on the list when it is visited. -/
def survey (limit : Option Int) (source : Source σ) : Tree → Visiting (σ × List Tree) Unit
  | literal name bounds pool => do
    Visiting.note (literal name bounds pool)
    visitLiteral limit source.listing name bounds pool
  | group name bounds alternating children => do
    Visiting.note (group name bounds alternating children)
    visitGroup limit source.listing name bounds alternating children.length
      (surveyAll limit source children) (surveyOne limit source children)

def surveyAll (limit : Option Int) (source : Source σ) :
    List Tree → Visiting (σ × List Tree) Unit
  | [] => pure ()
  | tree :: rest => do
    survey limit source tree
    surveyAll limit source rest

def surveyOne (limit : Option Int) (source : Source σ) :
    List Tree → Nat → Visiting (σ × List Tree) Unit
  | [], _ => pure ()
  | tree :: _, 0 => survey limit source tree
  | _ :: rest, index + 1 => surveyOne limit source rest index

end

/-- The scopes that a run visits, in order. -/
def visited (limit : Option Int) (source : Source σ) (tree : Tree) (state : σ) : List Tree :=
  (tree.survey limit source (state, [])).source.2

end Tree

def Visit.unlisted (visit : Visit (σ × List Tree) α) : Visit σ α :=
  ⟨visit.outcome, visit.events, visit.source.1⟩

theorem Visit.unlisted_andThen {visit : Visit (σ × List Tree) α}
    {next : α → σ × List Tree → Visit (σ × List Tree) β} {plain : α → σ → Visit σ β}
    (further : ∀ result state list, (next result (state, list)).unlisted = plain result state) :
    (visit.andThen next).unlisted = visit.unlisted.andThen plain := by
  cases ended : visit.outcome with
  | error fault =>
    have same : visit.unlisted.outcome = .error fault := ended
    rw [andThen_of_error ended, andThen_of_error same]
    rfl
  | ok result =>
    have same : visit.unlisted.outcome = .ok result := ended
    rw [andThen_of_ok ended, andThen_of_ok same]
    exact congrArg (fun rest : Visit σ β => { rest with events := visit.events ++ rest.events })
      (further result visit.source.1 visit.source.2)

/-- One visit is the other, but for the list. -/
def Visiting.Unlists (listed : Visiting (σ × List Tree) α) (plain : Visiting σ α) : Prop :=
  ∀ state list, (listed (state, list)).unlisted = plain state

namespace Visiting

theorem Unlists.bind {first : Visiting (σ × List Tree) α} {second : Visiting σ α}
    {next : α → Visiting (σ × List Tree) β} {following : α → Visiting σ β}
    (unlists : Unlists first second)
    (further : ∀ result, Unlists (next result) (following result)) :
    Unlists (first >>= next) (second >>= following) := by
  intro state list
  exact (Visit.unlisted_andThen further).trans (congrArg (Visit.andThen · following)
    (unlists state list))

theorem compatible_unlists (source : Source σ) :
    Compatible source.listing source fun listed plain => Unlists listed plain where
  pure _ _ _ := rfl
  emit _ _ _ := rfl
  tell _ _ _ := rfl
  draw _ _ _ _ _ _ := rfl
  bind := Unlists.bind

/-- To put a scope on the list is nothing else. -/
theorem Unlists.note {listed : Visiting (σ × List Tree) Unit} {plain : Visiting σ Unit}
    (unlists : Unlists listed plain) (scope : Tree) :
    Unlists (Visiting.note scope >>= fun _ => listed) plain :=
  fun state list => unlists state (list ++ [scope])

end Visiting

namespace Tree

variable {limit : Option Int} {source : Source σ}

theorem survey_literal (limit : Option Int) (source : Source σ) (name : Text) (bounds : Bounds)
    (pool : List Text) :
    (literal name bounds pool).survey limit source =
      Visiting.note (literal name bounds pool) >>= fun _ =>
        Visiting.refuse (bounds.fault? name limit) >>= fun _ =>
          Visiting.repetition source.listing name bounds pool.isEmpty (.emptyPool name)
            (fun count => .emitting name count pool.length)
            (visitPool source.listing name pool) := by
  rw [survey]
  rfl

theorem survey_group (limit : Option Int) (source : Source σ) (name : Text) (bounds : Bounds)
    (alternating : Bool) (children : List Tree) :
    (group name bounds alternating children).survey limit source =
      Visiting.note (group name bounds alternating children) >>= fun _ =>
        Visiting.refuse (bounds.fault? name limit) >>= fun _ =>
          Visiting.repetition source.listing name bounds (children.length = 0) (.emptyGroup name)
            (fun count => .repeating name count children.length alternating)
            (visitChildren source.listing name alternating children.length
              (surveyAll limit source children) (surveyOne limit source children)) := by
  rw [survey]
  rfl

theorem unlists_surveyAll {children : List Tree}
    (each : ∀ child ∈ children,
      (child.survey limit source).Unlists (child.generate limit source)) :
    (surveyAll limit source children).Unlists (generateAll limit source children) := by
  induction children with
  | nil => exact (Visiting.compatible_unlists source).pure ()
  | cons child rest ih =>
    rw [surveyAll, generateAll]
    exact (each child List.mem_cons_self).bind fun _ =>
      ih fun other member => each other (List.mem_cons_of_mem _ member)

theorem unlists_surveyOne {children : List Tree}
    (each : ∀ child ∈ children,
      (child.survey limit source).Unlists (child.generate limit source)) (index : Nat) :
    (surveyOne limit source children index).Unlists (generateOne limit source children index) := by
  induction children generalizing index with
  | nil => exact (Visiting.compatible_unlists source).pure ()
  | cons child rest ih =>
    cases index with
    | zero => exact each child List.mem_cons_self
    | succ index => exact ih (fun other member => each other (List.mem_cons_of_mem _ member)) index

/-- A run that lists the scopes is the run that does not, but for the list. -/
theorem unlists_survey (limit : Option Int) (source : Source σ) (tree : Tree) :
    (tree.survey limit source).Unlists (tree.generate limit source) := by
  have compatible := Visiting.compatible_unlists source
  have checks (fault : Option ScopeFault) :
      (Visiting.refuse fault).Unlists (Visiting.refuse fault : Visiting σ Unit) := by
    intro state list
    cases fault <;> rfl
  induction tree using Tree.induct with
  | literal name bounds pool =>
    rw [survey_literal, generate, visitLiteral_eq, Visiting.repeated_eq]
    refine Visiting.Unlists.note (compatible.bind (checks _) fun _ => ?_) _
    exact compatible.repetition (compatible.visitPool name pool) fun _ _ => rfl
  | group name bounds alternating children each =>
    rw [survey_group, generate, visitGroup_eq, Visiting.repeated_eq]
    refine Visiting.Unlists.note (compatible.bind (checks _) fun _ => ?_) _
    refine compatible.repetition ?_ fun _ _ => rfl
    exact compatible.visitChildren (unlists_surveyAll each) (unlists_surveyOne each)

end Tree

/-! ## Runs under two limits -/

/-- Of two visits that found the same list the first one, under a tighter limit, is the other, or it
was ended at the first scope that exceeds the limit. -/
inductive Visit.Curbed (limit : Option Int) (list : List Tree)
    (visit wide : Visit (σ × List Tree) α) : Prop where
  /-- No scope exceeds the limit. -/
  | same (more : List Tree) (alike : visit = wide) (visited : wide.source.2 = list ++ more)
      (fine : ∀ fault, wide.outcome = .error fault → fault.ofLimit = false)
      (clear : ∀ scope ∈ more, ¬scope.Exceeds limit)
  /-- A scope exceeds the limit, and none before it does. -/
  | ended (before : List Tree) (scope : Tree) (after : List Tree) (bound : Int)
      (given : limit = some bound) (exceeds : scope.Exceeds limit)
      (clear : ∀ earlier ∈ before, ¬earlier.Exceeds limit)
      (outcome : visit.outcome = .error (.scope (.aboveLimit scope.name scope.bounds bound)))
      (visited : visit.source.2 = list ++ (before ++ [scope]))
      (further : wide.source.2 = list ++ (before ++ scope :: after))
      (events : visit.events <+: wide.events)

/-- Every visit of the first kind is so curbed. -/
def Visiting.Curbed (limit : Option Int) (first second : Visiting (σ × List Tree) α) : Prop :=
  ∀ state, (first state).Curbed limit state.2 (second state)

namespace Visit.Curbed

variable {limit : Option Int} {list : List Tree} {visit wide : Visit (σ × List Tree) α}

/-- The list only grows. -/
theorem prefix_visited (curbed : visit.Curbed limit list wide) : list <+: wide.source.2 := by
  cases curbed with
  | same more alike visited => exact ⟨more, visited.symm⟩
  | ended before scope after bound given exceeds clear outcome visited further =>
    exact ⟨before ++ scope :: after, further.symm⟩

theorem andThen {next following : α → σ × List Tree → Visit (σ × List Tree) β}
    (curbed : visit.Curbed limit list wide)
    (further : ∀ result state, (next result state).Curbed limit state.2 (following result state)) :
    (visit.andThen next).Curbed limit list (wide.andThen following) := by
  cases curbed with
  | same more alike visited fine clear =>
    subst alike
    cases outcome : visit.outcome with
    | error fault =>
      rw [andThen_of_error outcome, andThen_of_error outcome]
      refine .same more rfl visited ?_ clear
      intro other same
      cases same
      exact fine fault outcome
    | ok result =>
      rw [andThen_of_ok outcome, andThen_of_ok outcome]
      cases further result visit.source with
      | same others alike later finer clearer =>
        rw [alike]
        refine .same (more ++ others) rfl ?_ finer ?_
        · rw [later, visited, List.append_assoc]
        · intro scope member
          rcases List.mem_append.mp member with member | member
          · exact clear scope member
          · exact clearer scope member
      | ended before scope after bound given exceeds clearer outcome seen rest events =>
        refine .ended (more ++ before) scope after bound given exceeds ?_ outcome ?_ ?_ ?_
        · intro earlier member
          rcases List.mem_append.mp member with member | member
          · exact clear earlier member
          · exact clearer earlier member
        · change (next result visit.source).source.2 = _
          simp only [seen, visited, List.append_assoc]
        · change (following result visit.source).source.2 = _
          simp only [rest, visited, List.append_assoc]
        · exact (List.prefix_append_right_inj visit.events).mpr events
  | ended before scope after bound given exceeds clear outcome visited later events =>
    rw [andThen_of_error outcome]
    cases ended : wide.outcome with
    | error fault =>
      rw [andThen_of_error ended]
      exact .ended before scope after bound given exceeds clear rfl visited later events
    | ok result =>
      rw [andThen_of_ok ended]
      obtain ⟨more, grown⟩ := (further result wide.source).prefix_visited
      refine .ended before scope (after ++ more) bound given exceeds clear rfl visited ?_ ?_
      · change (following result wide.source).source.2 = _
        rw [← grown, later]
        simp only [List.append_assoc, List.cons_append]
      · exact events.trans (List.prefix_append _ _)

end Visit.Curbed

namespace Visiting

variable {limit wider : Option Int}

theorem Curbed.bind {first second : Visiting (σ × List Tree) α}
    {next following : α → Visiting (σ × List Tree) β} (curbed : Curbed limit first second)
    (further : ∀ result, Curbed limit (next result) (following result)) :
    Curbed limit (first >>= next) (second >>= following) :=
  fun state => (curbed state).andThen further

/-- What visits no scope is the same under all limits. -/
theorem curbed_refl {visiting : Visiting (σ × List Tree) α}
    (silent : ∀ state, (visiting state).source.2 = state.2)
    (fine : ∀ state fault, (visiting state).outcome = .error fault → fault.ofLimit = false) :
    Visiting.Curbed limit visiting visiting := by
  intro state
  refine .same [] rfl ?_ (fine state) fun _ member => absurd member List.not_mem_nil
  rw [silent, List.append_nil]

theorem compatible_curbed (limit : Option Int) (source : Source σ) :
    Compatible source.listing source.listing fun first second => Curbed limit first second where
  pure _ := curbed_refl (fun _ => rfl) fun _ _ => nofun
  emit _ := curbed_refl (fun _ => rfl) fun _ _ => nofun
  tell _ := curbed_refl (fun _ => rfl) fun _ _ => nofun
  draw scope purpose low high := by
    refine curbed_refl (fun _ => rfl) fun state fault failed => ?_
    change judge scope low high _ = _ at failed
    rw [judge.eq_def] at failed
    split at failed
    · cases failed
      rfl
    · split at failed
      · cases failed
      · cases failed
        rfl
  bind := Curbed.bind

theorem curbed_note {scope : Tree} (clear : ¬scope.Exceeds limit) :
    Curbed limit (note scope : Visiting (σ × List Tree) Unit) (note scope) := by
  intro state
  refine .same [scope] rfl rfl nofun ?_
  intro other member
  obtain rfl := List.mem_singleton.mp member
  exact clear

/-- A visit that goes on after the check of the bounds is curbed if what follows is: no limit has a
say in whether the bounds are in order, and the tighter one objects to whatever the wider one
objects to. -/
theorem Curbed.checked (tighter : Tighter limit wider)
    {first second : Visiting (σ × List Tree) Unit} (curbed : Curbed limit first second)
    (scope : Tree) :
    Curbed limit
      (note scope >>= fun _ =>
        refuse (scope.bounds.fault? scope.name limit) >>= fun _ => first)
      (note scope >>= fun _ =>
        refuse (scope.bounds.fault? scope.name wider) >>= fun _ => second) := by
  by_cases ordered : scope.bounds.Ordered
  · by_cases above : ∃ bound ∈ limit, bound < scope.bounds.greatest
    · obtain ⟨bound, rfl, above⟩ := above
      intro state
      rw [Bounds.fault?_of_above ordered above]
      -- The wider limit objects as well, or the run with it goes on and visits more.
      have grown : state.2 ++ [scope] <+: ((note scope >>= fun _ =>
          refuse (scope.bounds.fault? scope.name wider) >>= fun _ => second) state).source.2 := by
        cases scope.bounds.fault? scope.name wider with
        | some fault => exact List.prefix_rfl
        | none => exact (curbed (state.1, state.2 ++ [scope])).prefix_visited
      obtain ⟨after, grown⟩ := grown
      refine .ended [] scope after bound rfl ⟨ordered, bound, rfl, above⟩ nofun rfl rfl ?_
        List.nil_prefix
      rw [← grown, List.append_assoc]
      rfl
    · have clear : ¬scope.Exceeds limit := fun exceeds => above exceeds.2
      have within : ∀ bound ∈ limit, scope.bounds.greatest ≤ bound := by
        intro bound given
        exact Int.not_lt.mp fun less => above ⟨bound, given, less⟩
      have further : ∀ bound ∈ wider, scope.bounds.greatest ≤ bound := by
        intro bound given
        obtain ⟨narrow, here, less⟩ := tighter bound given
        exact Int.le_trans (within narrow here) less
      rw [Bounds.fault?_eq_none_iff.mpr ⟨ordered, within⟩,
        Bounds.fault?_eq_none_iff.mpr ⟨ordered, further⟩]
      exact (curbed_note clear).bind fun _ => curbed
  · have clear : ¬scope.Exceeds limit := fun exceeds => ordered exceeds.1
    obtain ⟨fault, fine, found⟩ := @Bounds.fault?_of_not_ordered _ scope.name ordered
    rw [found, found]
    refine (curbed_note clear).bind fun _ => ?_
    refine curbed_refl (fun _ => rfl) fun state other failed => ?_
    cases failed
    exact fine

end Visiting

namespace Tree

variable {limit wider : Option Int} {source : Source σ}

theorem curbed_surveyAll {children : List Tree}
    (each : ∀ child ∈ children,
      Visiting.Curbed limit (child.survey limit source) (child.survey wider source)) :
    Visiting.Curbed limit (surveyAll limit source children) (surveyAll wider source children) := by
  induction children with
  | nil => exact (Visiting.compatible_curbed limit source).pure ()
  | cons child rest ih =>
    rw [surveyAll, surveyAll]
    exact (each child List.mem_cons_self).bind fun _ =>
      ih fun other member => each other (List.mem_cons_of_mem _ member)

theorem curbed_surveyOne {children : List Tree}
    (each : ∀ child ∈ children,
      Visiting.Curbed limit (child.survey limit source) (child.survey wider source))
    (index : Nat) :
    Visiting.Curbed limit (surveyOne limit source children index)
      (surveyOne wider source children index) := by
  induction children generalizing index with
  | nil => exact (Visiting.compatible_curbed limit source).pure ()
  | cons child rest ih =>
    cases index with
    | zero => exact each child List.mem_cons_self
    | succ index => exact ih (fun other member => each other (List.mem_cons_of_mem _ member)) index

/-- Under a tighter limit a run is the same, or is ended at the first scope that exceeds it. -/
theorem curbed_survey (tighter : Tighter limit wider) (source : Source σ) (tree : Tree) :
    Visiting.Curbed limit (tree.survey limit source) (tree.survey wider source) := by
  have compatible := Visiting.compatible_curbed limit source
  have failing (fault : ScopeFault) (fine : fault.ofLimit = false) :
      Visiting.Curbed limit (Visiting.fail (.scope fault) : Visiting (σ × List Tree) Unit)
        (Visiting.fail (.scope fault)) := by
    refine Visiting.curbed_refl (fun _ => rfl) fun _ other failed => ?_
    cases failed
    exact fine
  induction tree using Tree.induct with
  | literal name bounds pool =>
    rw [survey_literal, survey_literal]
    refine Visiting.Curbed.checked tighter ?_ (literal name bounds pool)
    exact compatible.repetition (compatible.visitPool name pool) (failing _ rfl)
  | group name bounds alternating children each =>
    rw [survey_group, survey_group]
    refine Visiting.Curbed.checked tighter ?_ (group name bounds alternating children)
    refine compatible.repetition ?_ (failing _ rfl)
    exact compatible.visitChildren (curbed_surveyAll each) (curbed_surveyOne each)

/-- Under a tighter limit, with the same source and whatever the tree, a run that the limit does not
end is the run under the wider one. A run that the limit ends has done what that run does at first:
what it asked, and what it left in a sink, are beginnings of what the other one asks and leaves. The
scope where it ends is the first scope visited, in either run, that is in order and repeats more
often than the limit allows. There the limit error names it, unless the bound or the limit is too
long to be written; then this is what is reported. So a text that was rendered under the tighter
limit is the text under the wider one, and where all numbers can be written, only the limit error
tells the two runs apart. -/
theorem generate_under_limit (tighter : Tighter limit wider) (source : Source σ) (tree : Tree)
    (state : σ) :
    let run := tree.generate limit source state
    let wide := tree.generate wider source state
    ((∀ fault, run.outcome = .error fault → fault.ofLimit = false) →
      run = wide ∧ tree.visited limit source state = tree.visited wider source state ∧
        ∀ scope ∈ tree.visited limit source state, ¬scope.Exceeds limit) ∧
    (∀ fault, run.outcome = .error fault → fault.ofLimit = true →
      (run.events <+: wide.events ∧ run.exchanges <+: wide.exchanges ∧
        ∀ sink : Sink, ∃ more,
          sink.append wide.emitted = (sink.append run.emitted).append more) ∧
      ∃ before scope after bound, limit = some bound ∧
        fault = .scope (.aboveLimit scope.name scope.bounds bound) ∧
        (if Numeral.isWritable scope.bounds.greatest && Numeral.isWritable bound then
          fault.IsLimitError
        else fault.report = .tooLong) ∧
        scope.Exceeds limit ∧ (∀ earlier ∈ before, ¬earlier.Exceeds limit) ∧
        tree.visited limit source state = before ++ [scope] ∧
        tree.visited wider source state = before ++ scope :: after) ∧
    (∀ text, tree.render limit source state = .ok text →
      tree.render wider source state = .ok text) ∧
    ((∀ scope ∈ tree.visited limit source state, scope.bounds.areWritable = true) →
      (∀ bound ∈ limit, Numeral.isWritable bound = true) →
        (∀ fault, run.outcome = .error fault → ¬fault.IsLimitError) → run = wide) := by
  intro run wide
  have narrow : (tree.survey limit source (state, [])).unlisted = run :=
    unlists_survey limit source tree state []
  have broad : (tree.survey wider source (state, [])).unlisted = wide :=
    unlists_survey wider source tree state []
  cases curbed_survey tighter source tree (state, []) with
  | same more alike visited fine clear =>
    have same : run = wide := by rw [← narrow, ← broad, alike]
    have unlimited : ∀ fault, wide.outcome = .error fault → fault.ofLimit = false := by
      rw [← broad]
      exact fine
    refine ⟨fun _ => ⟨same, ?_, ?_⟩, ?_, ?_, fun _ _ _ => same⟩
    · rw [Tree.visited, Tree.visited, alike]
    · rw [Tree.visited, alike, visited]
      exact clear
    · intro fault failed stopped
      rw [same] at failed
      rw [unlimited fault failed] at stopped
      cases stopped
    · intro text rendered
      rw [← rendered]
      exact congrArg (fun visit : Visit σ Unit => visit.outcome.map fun _ => visit.text) same.symm
  | ended before scope after bound given exceeds clear outcome visited further events =>
    have failed : run.outcome = .error (.scope (.aboveLimit scope.name scope.bounds bound)) := by
      rw [← narrow]
      exact outcome
    have begun : run.events <+: wide.events := by
      rw [← narrow, ← broad]
      exact events
    have reported : if Numeral.isWritable scope.bounds.greatest && Numeral.isWritable bound then
        GenerationFault.IsLimitError (.scope (.aboveLimit scope.name scope.bounds bound))
        else (ScopeFault.aboveLimit scope.name scope.bounds bound).report = .tooLong := by
      split
      · next written => exact ⟨rfl, ScopeFault.kind_report_aboveLimit_iff.mpr written⟩
      · next unwritten => exact ScopeFault.report_of_unwritten (by
          rwa [ScopeFault.isSome_wording?_aboveLimit])
    refine ⟨?_, ?_, ?_, ?_⟩
    · intro unlimited
      cases unlimited _ failed
    · intro fault same _
      rw [failed] at same
      cases same
      obtain ⟨more, emitted⟩ : run.emitted <+: wide.emitted := begun.filterMap _
      refine ⟨⟨begun, begun.filterMap _, ?_⟩, before, scope, after, bound, given, rfl, reported,
        exceeds, clear, visited, further⟩
      intro sink
      refine ⟨more, ?_⟩
      rw [← emitted, Sink.append_append]
    · intro text rendered
      change run.outcome.map _ = _ at rendered
      rw [failed] at rendered
      cases rendered
    · intro writable limits unlimited
      have met : scope ∈ tree.visited limit source state := by
        rw [Tree.visited, visited]
        exact List.mem_append_right _ (List.mem_append_right before List.mem_cons_self)
      have greatest := (Bool.and_eq_true_iff.mp (writable scope met)).2
      rw [if_pos (Bool.and_eq_true_iff.mpr ⟨greatest, limits bound given⟩)] at reported
      exact absurd reported (unlimited _ failed)

def clock : Tree :=
  .group "clock" ⟨1, 1⟩ false [.literal "hours" ⟨2, 2⟩ ["h"], .literal "minutes" ⟨3, 3⟩ ["m"]]

/-- A limit of two is too tight for the minutes, and a limit of three can be given up. -/
theorem generate_under_limit_clock :
    let source : Source Unit := .ofDraw fun low _ state => (.ok (.int low), state)
    let run := clock.generate (some 2) source ()
    let wide := clock.generate none source ()
    Tighter (some 2) none ∧ run.outcome = .error (.scope (.aboveLimit "minutes" ⟨3, 3⟩ 2)) ∧
      run.emitted = (["h", "h"] : List Text) ∧ run.events <+: wide.events ∧
      Tighter (some 3) none ∧ clock.render (some 3) source () = .ok "hhmmm" ∧
      clock.render none source () = .ok "hhmmm" := by
  intro source run wide
  have tight : Tighter (some 2) none := nofun
  have loose : Tighter (some 3) none := nofun
  obtain ⟨-, ended, -⟩ := generate_under_limit tight source clock ()
  obtain ⟨-, -, same, -⟩ := generate_under_limit loose source clock ()
  have failed : run.outcome = .error (.scope (.aboveLimit "minutes" ⟨3, 3⟩ 2)) := rfl
  have rendered : clock.render (some 3) source () = .ok "hhmmm" := rfl
  exact ⟨tight, failed, rfl, (ended _ failed rfl).1.1, loose, rendered, same _ rendered⟩

/-- A leaf that may be silent, and whose greatest number of repetitions takes 4301 digits. -/
def abyss : Tree :=
  .literal "abyss" ⟨0, Int.pow 10 Numeral.longestDecimal⟩ ["drop"]

/-- Without a limit a zero leads the abyss to the empty text. Under a limit of five the run is
another, though no limit error ends it: the number that exceeds the limit cannot be written. -/
theorem abyss_under_limit :
    let script : Scripted := { values := [.int 0] }
    let run := abyss.generate (some 5) Scripted.source script
    let wide := abyss.generate none Scripted.source script
    Tighter (some 5) none ∧
      (∃ fault, run.outcome = .error fault ∧ fault.report = .tooLong ∧ ¬fault.IsLimitError) ∧
      wide.outcome = .ok () ∧ wide.text = [] ∧ run ≠ wide := by
  intro script run wide
  let deep : Bounds := ⟨0, Int.pow 10 Numeral.longestDecimal⟩
  have above : 5 < deep.greatest := Numeral.lt_ten_pow (by decide) (by decide)
  have positive : 0 < deep.greatest := Numeral.lt_ten_pow (by decide) (by decide)
  have ordered : deep.Ordered := ⟨Int.le_refl 0, Int.le_of_lt positive⟩
  have objects : deep.fault? "abyss" (some 5) = some (.aboveLimit "abyss" deep 5) :=
    Bounds.fault?_of_above ordered above
  have unwritten : (ScopeFault.aboveLimit "abyss" deep 5).report = .tooLong :=
    ScopeFault.report_aboveLimit_of_long Numeral.isWritable_ten_pow
  have ended : run.outcome = .error (.scope (.aboveLimit "abyss" deep 5)) := by
    change (visitLiteral (some 5) Scripted.source "abyss" deep ["drop"] script).outcome = _
    rw [visitLiteral, objects]
    rfl
  have passes : deep.fault? "abyss" none = none := Bounds.fault?_eq_none_iff.mpr ⟨ordered, nofun⟩
  have asks : abyss.dialogue none = .ask ⟨"abyss", "count"⟩ 0 deep.greatest fun count =>
      .tell (.emitting "abyss" count 1) (.times count.toNat (.pick "abyss" ["drop"])) := by
    change Dialogue.repeated none "abyss" deep _ _ _ _ = _
    rw [Dialogue.repeated, passes, if_neg (Int.ne_of_gt positive), if_neg (by decide),
      Bounds.settle, if_neg (Int.ne_of_lt positive)]
    rfl
  have drawn : Scripted.source.draw 0 deep.greatest script =
      (.ok (.int 0), script.answered 0 deep.greatest) := rfl
  have inside : (Value.int 0).inRange 0 deep.greatest = true :=
    Value.inRange_int_iff.mpr ordered
  have ran : wide = (abyss.dialogue none).run Scripted.source script :=
    congrFun (generate_eq_run none Scripted.source abyss) script
  rw [asks, Dialogue.run_ask_accepted drawn inside] at ran
  have returned : wide.outcome = .ok () := by
    rw [ran]
    rfl
  have silent : wide.text = [] := by
    rw [ran]
    rfl
  refine ⟨nofun, ⟨_, ended, unwritten, ?_⟩, returned, silent, ?_⟩
  · rintro ⟨-, kind⟩
    change (ScopeFault.aboveLimit "abyss" deep 5).report.kind = _ at kind
    rw [unwritten] at kind
    cases kind
  · intro same
    rw [same, returned] at ended
    cases ended

end Tree

end PatternForge
