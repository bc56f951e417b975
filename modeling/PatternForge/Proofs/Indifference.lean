import PatternForge.Proofs.Enacting

/-! # Work by settings in use

With settings in use it makes no difference to a piece of work where settings come from: in two
workshops that differ in nothing but that it does the same (`Work.Indifferent`). This is so of all
work that does not look at the desk (`Work.ApartFromDesk.indifferent`), of asking for the settings
(`Work.indifferent_settings`), and of what is made of the two.
-/

namespace PatternForge

def Value.isNull : Value → Bool
  | scalar .null => true
  | _ => false

theorem Value.isNull_iff {value : Value} : value.isNull ↔ value = .null := by
  rw [isNull.eq_def]
  split <;> simp_all

/-- Two workshops with the same settings in use that are one but for what settings are read from. -/
structure Workshop.Twins (current : Settings) (shop other : Workshop) : Prop where
  kept : shop.desk.kept = some current
  kept_other : other.desk.kept = some current
  /-- The workshops are one but for the desk. -/
  same : other = { shop with desk := other.desk }

theorem Workshop.Twins.symm {current : Settings} {shop other : Workshop}
    (twins : shop.Twins current other) : other.Twins current shop :=
  ⟨twins.kept_other, twins.kept, by rw [twins.same]⟩

namespace Work

variable {α β : Type}

/-! ## Work apart from the desk -/

/-- A piece of work neither looks at the desk nor changes it. -/
def ApartFromDesk (work : Work α) : Prop :=
  ∀ shop desk, work.run.run { shop with desk } =
    ((work.run.run shop).1, { (work.run.run shop).2 with desk })

theorem ApartFromDesk.desk_eq {work : Work α} (apart : ApartFromDesk work) (shop : Workshop) :
    (work.run.run shop).2.desk = shop.desk :=
  congrArg (fun ran => ran.2.desk) (apart shop shop.desk)

theorem ApartFromDesk.keepsSettings {work : Work α} (apart : ApartFromDesk work) :
    KeepsSettings work :=
  fun shop _ kept => (congrArg Desk.kept (apart.desk_eq shop)).trans kept

/-- With settings in use it makes no difference to a piece of work where settings come from. -/
def Indifferent (work : Work α) : Prop :=
  ∀ current, Alike (Workshop.Twins current) work work

theorem Indifferent.bind {first : Work α} {next : α → Work β} (head : Indifferent first)
    (rest : ∀ result, Indifferent (next result)) : Indifferent (first >>= next) :=
  fun current => (head current).bind fun result => rest result current

theorem Indifferent.keepsSettings {work : Work α} (indifferent : Indifferent work) :
    KeepsSettings work :=
  fun shop current kept => (indifferent current shop shop ⟨kept, kept, rfl⟩).2.kept

theorem Indifferent.bind_pure {work : Work α} (indifferent : Indifferent work) (reply : α → β) :
    Indifferent (work >>= fun result => pure (reply result)) :=
  indifferent.bind fun result _ => alike_pure (reply result)

theorem ApartFromDesk.indifferent {work : Work α} (apart : ApartFromDesk work) :
    Indifferent work := by
  intro current shop other twins
  have ran := apart shop other.desk
  rw [← twins.same] at ran
  rw [ran]
  exact ⟨rfl, ⟨apart.keepsSettings shop current twins.kept, twins.kept_other, rfl⟩⟩

/-! ## Work that asks for the settings -/

theorem run_settings_of_kept {shop : Workshop} {current : Settings}
    (kept : shop.desk.kept = some current) : settings.run.run shop = (.ok current, shop) := by
  rw [run_settings, Desk.settings_eq_of_kept kept]
  rfl

theorem indifferent_settings : Indifferent settings := by
  intro current shop other twins
  rw [run_settings_of_kept twins.kept, run_settings_of_kept twins.kept_other]
  exact ⟨rfl, twins⟩

/-- Checks the bounds of a scope, if it was made, given how scopes are checked. -/
def checkScope (check : Text → Bounds → Work Unit) (scope : ScopeId) : Work Unit := do
  match (← get).forest.node? scope with
  | none => pure ()
  | some node => check node.name node.bounds

theorem validate_eq (scope : ScopeId) : validate scope = checkScope checkAsking scope := by
  rw [validate, checkScope]
  rfl

def makeGenerator (name : Text) (seed : Option Int) : Work SourceId :=
  match Generator.ofName? name with
  | none => throw (.unknownGenerator name)
  | some generator => do
    write .sources ("Creating " ++ name ++ " random source (seed="
      ++ (seed.map Text.ofInt).getD (Scalar.display .null) ++ ")")
    addSource (generator.start seed)

theorem apart_makeGenerator (name : Text) (seed : Option Int) :
    ApartFromDesk (makeGenerator name seed) := by
  rw [makeGenerator]
  split <;> exact fun shop desk => rfl

/-- Makes a generator. Settings that are given stand in for a name or a seed that is not. -/
def makeNamedBy (current : Settings) (name : Option Text) (seed : Option Int) : Work SourceId :=
  makeGenerator (if (name.getD []).isEmpty then current.randomSource else name.getD []).lower
    (seed <|> current.defaultSeed)

/-- The settings are asked for even where a name and a seed are given. -/
theorem makeNamed_eq (name : Option Text) (seed : Option Int) :
    makeNamed name seed = settings >>= fun current => makeNamedBy current name seed := rfl

/-- Sets the level of the journal. Settings that are given stand in for a level that is not. -/
def setJournalLevelBy (current : Settings) (value : Value) : Work Value :=
  setJournalLevel (if value.isNull then .text current.logLevel else value)

theorem setJournalLevel_of_isNull {value : Value} (absent : value.isNull) :
    setJournalLevel value = settings >>= fun current => setJournalLevelBy current value := by
  obtain rfl := Value.isNull_iff.mp absent
  simp only [setJournalLevelBy, setJournalLevel, pure_bind, absent, ↓reduceIte]

theorem setJournalLevel_of_not_isNull {value : Value} (given : value.isNull = false)
    (current : Settings) : setJournalLevel value = setJournalLevelBy current value := by
  rw [setJournalLevelBy, if_neg (Bool.eq_false_iff.mp given)]

/-- A level that is given is set without a look at the settings. -/
theorem apart_setJournalLevel {value : Value} (given : value.isNull = false) :
    ApartFromDesk (setJournalLevel value) := by
  intro shop desk
  rw [setJournalLevel, pure_bind]
  · dsimp only
    cases levelOfValue value <;> rfl
  · exact mt Value.isNull_iff.mpr (Bool.eq_false_iff.mp given)

theorem apart_setJournalLevelBy (current : Settings) (value : Value) :
    ApartFromDesk (setJournalLevelBy current value) := by
  refine apart_setJournalLevel ?_
  split
  · rfl
  · exact Bool.eq_false_iff.mpr ‹_›

theorem indifferent_setJournalLevel (value : Value) : Indifferent (setJournalLevel value) := by
  cases absent : value.isNull with
  | false => exact (apart_setJournalLevel absent).indifferent
  | true =>
    rw [setJournalLevel_of_isNull absent]
    exact indifferent_settings.bind fun current =>
      (apart_setJournalLevelBy current value).indifferent

theorem apart_checkUnder (limit : Option Int) (name : Text) (bounds : Bounds) :
    ApartFromDesk (checkUnder limit name bounds) := by
  rw [checkUnder]
  split <;> exact fun shop desk => rfl

theorem indifferent_checkAsking (name : Text) (bounds : Bounds) :
    Indifferent (checkAsking name bounds) := by
  by_cases ordered : bounds.Ordered
  · rw [checkAsking_of_ordered ordered]
    exact indifferent_settings.bind fun current => (apart_checkUnder _ name bounds).indifferent
  · rw [checkAsking_of_not_ordered ordered name none]
    exact (apart_checkUnder none name bounds).indifferent

theorem run_checkScope (check : Text → Bounds → Work Unit) (scope : ScopeId) (shop : Workshop) :
    (checkScope check scope).run.run shop =
      ((shop.forest.node? scope).elim (pure ()) fun node =>
        check node.name node.bounds).run.run shop := by
  rw [checkScope]
  change ((match shop.forest.node? scope with
    | none => pure ()
    | some node => check node.name node.bounds : Work Unit)).run.run shop = _
  cases shop.forest.node? scope <;> rfl

theorem run_checkScope_congr {check other : Text → Bounds → Work Unit} {scope : ScopeId}
    {shop : Workshop} (same : ∀ node, shop.forest.node? scope = some node →
      (check node.name node.bounds).run.run shop = (other node.name node.bounds).run.run shop) :
    (checkScope check scope).run.run shop = (checkScope other scope).run.run shop := by
  rw [run_checkScope, run_checkScope]
  cases found : shop.forest.node? scope with
  | none => rfl
  | some node => exact same node found

theorem apart_checkScope {check : Text → Bounds → Work Unit}
    (checks : ∀ name bounds, ApartFromDesk (check name bounds)) (scope : ScopeId) :
    ApartFromDesk (checkScope check scope) := by
  intro shop desk
  rw [run_checkScope, run_checkScope]
  cases shop.forest.node? scope with
  | none => rfl
  | some node => exact checks node.name node.bounds shop desk

theorem indifferent_validate (scope : ScopeId) : Indifferent (validate scope) := by
  intro current shop other twins
  have forest : other.forest = shop.forest := by rw [twins.same]
  rw [validate_eq, run_checkScope, run_checkScope, forest]
  cases shop.forest.node? scope with
  | none => exact ⟨rfl, twins⟩
  | some node => exact indifferent_checkAsking node.name node.bounds current shop other twins

theorem indifferent_makeNamed (name : Option Text) (seed : Option Int) :
    Indifferent (makeNamed name seed) := by
  rw [makeNamed_eq]
  exact indifferent_settings.bind fun _ => (apart_makeGenerator _ _).indifferent

end Work

/-- With settings in use a source and a sink do the same as others, if where settings come from is
left aside. -/
structure Surroundings.Match (around aside : Surroundings) : Prop where
  answer : ∀ current announcement low high, Work.Alike (Workshop.Twins current)
    (around.answer announcement low high) (aside.answer announcement low high)
  receive : ∀ current literal,
    Work.Alike (Workshop.Twins current) (around.receive literal) (aside.receive literal)

theorem Surroundings.match_onBench (source : SourceId) (sink : SinkId) :
    (onBench source sink).Match (onBench source sink) where
  answer current announcement low high := by
    refine Work.ApartFromDesk.indifferent (fun shop desk => ?_) current
    rw [onBench, Work.run_answerOnBench, Work.run_answerOnBench]
  receive current _ := Work.ApartFromDesk.indifferent (fun _ _ => rfl) current

/-- Generation is the same with sources and sinks that match, so that it makes no difference whether
they change what settings are read from. -/
theorem Tree.alike_generateAsking {around aside : Surroundings} (same : around.Match aside)
    (current : Settings) (tree : Tree) :
    Work.Alike (Workshop.Twins current) (tree.generateAsking around) (tree.generateAsking aside) :=
  Work.alike_generateWith (same.answer current)
    (fun name bounds => Work.indifferent_checkAsking name bounds current)
    (fun _ => Work.ApartFromDesk.indifferent (fun _ _ => rfl) current) (same.receive current) tree

end PatternForge
