import PatternForge.Proofs.Indifference

/-! # Snapshots of the settings

Settings are read when they are first asked for and kept until they are put away. So whatever is
done between two times that they are put away goes by the settings of one moment, that of the first
request for which they could be read (`kept_afterAll`). What the environment and the files become
after that moment makes no difference (`SameApartFromChanges.replies_eq`).
-/

namespace PatternForge

/-- The settings that are handed out are those in use, or else those that can be read. -/
theorem Desk.settings_fst (desk : Desk) : desk.settings.1 = desk.kept.elim desk.load .ok := by
  cases kept : desk.kept with
  | some current => rw [settings_eq_of_kept kept, Option.elim_some]
  | none =>
    rw [Desk.settings, kept, Option.elim_none]
    cases desk.load <;> rfl

theorem Desk.toOption_settings (desk : Desk) :
    desk.settings.1.toOption = desk.kept.or desk.load.toOption := by
  rw [settings_fst]
  cases desk.kept <;> rfl

/-! ## Operations -/

/-- Something done in a workshop, as it concerns the settings. -/
inductive SettingsOperation where
  | bindVariable (name : Text) (value : Option Text)
  /-- The files are changed that go with the environment. -/
  | changeFiles (change : FileStore → FileStore)
  | clearSettings
  | settings
  | validate (scope : ScopeId)
  /-- A tree is generated with any source and any sink. -/
  | generate (tree : Tree) (around : Surroundings)
  /-- A generator is made, by the settings where its name or its seed is not given. -/
  | makeNamed (name : Option Text) (seed : Option Int)
  /-- The level of the journal is set, by the settings if none is given. -/
  | setJournalLevel (value : Value)
  /-- Anything else is done that takes no settings into use and puts none away. -/
  | elsewhere (work : Work Unit)
    (leaves : ∀ shop, (work.run.run shop).2.desk.kept = shop.desk.kept)

inductive SettingsReply where
  | done
  | told (settings : Settings)
  | made (source : SourceId)
  | level (value : Value)

namespace SettingsOperation

def perform : SettingsOperation → Work SettingsReply
  | bindVariable name value => do
    Work.bindVariable name value
    return .done
  | changeFiles change => do
    modify fun shop => { shop with desk := { shop.desk with files := change shop.desk.files } }
    return .done
  | clearSettings => do
    Work.clearSettings
    return .done
  | settings => return .told (← Work.settings)
  | validate scope => do
    Work.validate scope
    return .done
  | generate tree around => do
    tree.generateAsking around
    return .done
  | makeNamed name seed => return .made (← Work.makeNamed name seed)
  | setJournalLevel value => return .level (← Work.setJournalLevel value)
  | elsewhere work _ => do
    work
    return .done

/-- Does it by settings that are given, without asking for any. -/
def performBy (current : Settings) : SettingsOperation → Work SettingsReply
  | settings => return .told current
  | validate scope => do
    Work.checkScope (Work.checkUnder current.maxOccurrencesLimit) scope
    return .done
  | generate tree around => do
    tree.generateUnder current.maxOccurrencesLimit around
    return .done
  | makeNamed name seed => return .made (← Work.makeNamedBy current name seed)
  | setJournalLevel value => return .level (← Work.setJournalLevelBy current value)
  | operation => operation.perform

/-- Whether it asks for the settings. Bounds that are out of order are refused before. -/
def asks (shop : Workshop) : SettingsOperation → Bool
  | settings => true
  | validate scope => (shop.forest.node? scope).any fun node => node.bounds.Ordered
  | generate tree _ => tree.bounds.Ordered
  | makeNamed .. => true
  | setJournalLevel value => value.isNull
  | _ => false

/-- Whether it changes what settings are read from. -/
def isChange : SettingsOperation → Bool
  | bindVariable .. => true
  | changeFiles _ => true
  | _ => false

/-- The workshop after an operation, however that ended. -/
def after (shop : Workshop) (operation : SettingsOperation) : Workshop :=
  (operation.perform.run.run shop).2

def afterAll (shop : Workshop) (history : List SettingsOperation) : Workshop :=
  history.foldl after shop

/-- What comes each time that settings are read in the course of a history, which is when they are
asked for and there are none in use. -/
def loads (shop : Workshop) : List SettingsOperation → List (Except SettingsFault Settings)
  | [] => []
  | operation :: rest =>
    if shop.desk.kept = none ∧ operation.asks shop then
      shop.desk.load :: loads (operation.after shop) rest
    else loads (operation.after shop) rest

/-- What comes of the operations of a history other than changes of what settings are read from. -/
def replies (shop : Workshop) : List SettingsOperation → List (Except WorkFault SettingsReply)
  | [] => []
  | operation :: rest =>
    if operation.isChange then replies (operation.after shop) rest
    else (operation.perform.run.run shop).1 :: replies (operation.after shop) rest

variable {shop : Workshop} {operation : SettingsOperation}

theorem replies_cons_of_isChange (changes : operation.isChange) (rest : List SettingsOperation) :
    replies shop (operation :: rest) = replies (operation.after shop) rest := by
  rw [replies, if_pos changes]

theorem replies_cons (remains : operation.isChange = false) (rest : List SettingsOperation) :
    replies shop (operation :: rest) =
      (operation.perform.run.run shop).1 :: replies (operation.after shop) rest := by
  rw [replies, remains]
  rfl

/-- What asks for the settings does so first. -/
theorem exists_asksFirst (asked : operation.asks shop) :
    ∃ work : Work SettingsReply, work.AsksFirst ∧
      ∀ desk, operation.perform.run.run { shop with desk } = work.run.run { shop with desk } := by
  have settings : Work.settings.AsksFirst := ⟨pure, (bind_pure _).symm⟩
  cases operation with
  | settings => exact ⟨_, Work.asksFirst_bind settings _, fun _ => rfl⟩
  | validate scope =>
    obtain ⟨node, found, ordered⟩ : ∃ node, shop.forest.node? scope = some node ∧
        node.bounds.Ordered := by
      simpa [asks, Option.any_eq_true] using asked
    have checks : (Work.checkAsking node.name node.bounds).AsksFirst :=
      ⟨_, Work.checkAsking_of_ordered ordered node.name⟩
    -- The scope is looked up first, but the desk has no part in that.
    refine ⟨_, Work.asksFirst_bind checks fun _ => pure .done, fun desk => ?_⟩
    refine Work.run_bind_congr ?_ _
    rw [Work.validate_eq, Work.run_checkScope, found]
    rfl
  | generate tree around =>
    have ordered : tree.bounds.Ordered := of_decide_eq_true asked
    exact ⟨_, Work.asksFirst_bind (tree.asksFirst_generateAsking ordered around) _, fun _ => rfl⟩
  | makeNamed name seed =>
    exact ⟨_, Work.asksFirst_bind ⟨_, Work.makeNamed_eq name seed⟩ _, fun _ => rfl⟩
  | setJournalLevel value =>
    refine ⟨_, Work.asksFirst_bind ⟨_, Work.setJournalLevel_of_isNull asked⟩ _, fun _ => rfl⟩
  | _ => cases asked

/-- A fault in reading the settings is the answer to what asks for them, and nothing is changed. -/
theorem perform_of_error (asked : operation.asks shop) {fault : SettingsFault}
    (told : shop.desk.settings.1 = .error fault) :
    operation.perform.run.run shop = (.error (.settings fault), shop) := by
  obtain ⟨work, first, same⟩ := exists_asksFirst asked
  exact (same shop.desk).trans (first.run_of_error told)

theorem perform_of_ok (asked : operation.asks shop) {current : Settings}
    (told : shop.desk.settings.1 = .ok current) :
    operation.perform.run.run shop = operation.perform.run.run (shop.keeping current) := by
  obtain ⟨work, first, same⟩ := exists_asksFirst asked
  calc
    operation.perform.run.run shop = work.run.run shop := same shop.desk
    _ = work.run.run (shop.keeping current) := first.run_of_ok told
    _ = operation.perform.run.run (shop.keeping current) := (same _).symm

/-- What does not ask for the settings goes by none. -/
theorem perform_of_not_asks (unasked : operation.asks shop = false) (current : Settings) :
    operation.perform.run.run shop = (operation.performBy current).run.run shop := by
  cases operation with
  | validate scope =>
    rw [perform, Work.validate_eq]
    refine Work.run_bind_congr (Work.run_checkScope_congr fun node found => ?_) _
    have disorder : ¬node.bounds.Ordered := by simpa [asks, found] using unasked
    rw [Work.checkAsking_of_not_ordered disorder node.name current.maxOccurrencesLimit]
  | generate tree around =>
    obtain ⟨fault, asking, under⟩ := Tree.generateAsking_of_not_ordered
      (of_decide_eq_false unasked) current.maxOccurrencesLimit around shop
    exact Work.run_bind_congr (asking.trans under.symm) _
  | settings => cases unasked
  | makeNamed name seed => cases unasked
  | setJournalLevel value =>
    rw [perform, Work.setJournalLevel_of_not_isNull unasked current]
    rfl
  | _ => rfl

/-- With settings in use all goes by them. -/
theorem perform_of_kept {current : Settings} (kept : shop.desk.kept = some current) :
    operation.perform.run.run shop = (operation.performBy current).run.run shop := by
  have told := Work.run_settings_of_kept kept
  cases operation with
  | settings => exact Work.run_bind_of_ok told _
  | validate scope =>
    rw [perform, Work.validate_eq]
    refine Work.run_bind_congr (Work.run_checkScope_congr fun node _ => ?_) _
    obtain ⟨outcome, after, -⟩ :=
      Work.alike_checkAsking current node.name node.bounds shop shop ⟨rfl, kept⟩
    exact Prod.ext outcome after
  | generate tree around =>
    exact Work.run_bind_congr (Tree.generateAsking_of_kept kept around tree).1 _
  | makeNamed name seed =>
    rw [perform, Work.makeNamed_eq]
    exact Work.run_bind_congr (Work.run_bind_of_ok told _) _
  | setJournalLevel value =>
    cases absent : value.isNull with
    | false =>
      rw [perform, Work.setJournalLevel_of_not_isNull absent current]
      rfl
    | true =>
      rw [perform, Work.setJournalLevel_of_isNull absent]
      exact Work.run_bind_congr (Work.run_bind_of_ok told _) _
  | _ => rfl

/-- Settings in use stay in use until they are put away. -/
theorem keepsSettings_perform (stays : operation ≠ clearSettings) :
    operation.perform.KeepsSettings := by
  cases operation with
  | clearSettings => exact absurd rfl stays
  | settings => exact Work.indifferent_settings.keepsSettings.bind_pure _
  | validate scope => exact (Work.indifferent_validate scope).keepsSettings.bind_pure _
  | generate tree around =>
    have keeps : (tree.generateAsking around).KeepsSettings := fun _ _ kept =>
      (Tree.generateAsking_of_kept kept around tree).2
    exact keeps.bind_pure _
  | makeNamed name seed => exact (Work.indifferent_makeNamed name seed).keepsSettings.bind_pure _
  | setJournalLevel value =>
    exact (Work.indifferent_setJournalLevel value).keepsSettings.bind_pure _
  | elsewhere work leaves =>
    have keeps : work.KeepsSettings := fun shop _ kept => (leaves shop).trans kept
    exact keeps.bind_pure _
  | bindVariable name value => exact fun _ _ kept => kept
  | changeFiles change => exact fun _ _ kept => kept

/-- What does not ask for the settings takes none into use. -/
theorem kept_of_not_asks (unasked : operation.asks shop = false)
    (stays : operation ≠ clearSettings) : (operation.after shop).desk.kept = shop.desk.kept := by
  rw [after, perform_of_not_asks unasked {}]
  cases operation with
  | clearSettings => exact absurd rfl stays
  | validate scope =>
    rw [performBy, Work.after_bind_pure]
    exact congrArg Desk.kept ((Work.apart_checkScope (Work.apart_checkUnder _) scope).desk_eq shop)
  | generate tree around =>
    obtain ⟨fault, -, under⟩ := Tree.generateAsking_of_not_ordered
      (of_decide_eq_false unasked) none around shop
    rw [performBy, Work.run_bind_of_error under]
  | setJournalLevel value =>
    rw [performBy, Work.after_bind_pure]
    exact congrArg Desk.kept ((Work.apart_setJournalLevelBy _ value).desk_eq shop)
  | elsewhere work leaves =>
    change ((work >>= fun _ => pure .done : Work SettingsReply).run.run shop).2.desk.kept = _
    rw [Work.after_bind_pure, leaves]
  | settings => cases unasked
  | makeNamed name seed => cases unasked
  | bindVariable name value => rfl
  | changeFiles change => rfl

/-- One operation takes settings into use only if it asks for them, there are none, and they can be
read. -/
theorem kept_after (stays : operation ≠ clearSettings) :
    (operation.after shop).desk.kept =
      shop.desk.kept.or (if operation.asks shop then shop.desk.load.toOption else none) := by
  cases asked : operation.asks shop with
  | false =>
    rw [kept_of_not_asks asked stays, if_neg Bool.false_ne_true, Option.or_none]
  | true =>
    rw [if_pos rfl, ← Desk.toOption_settings, after]
    have handed := shop.desk.toOption_settings
    rcases told : shop.desk.settings.1 with fault | current
    · rw [told] at handed
      rw [perform_of_error asked told]
      exact (Option.or_eq_none_iff.mp handed.symm).1
    · rw [perform_of_ok asked told]
      exact keepsSettings_perform stays (shop.keeping current) current rfl

/-- The settings in use are those that were first read, until they are put away. -/
theorem kept_afterAll {history : List SettingsOperation} (unbroken : clearSettings ∉ history) :
    (afterAll shop history).desk.kept =
      shop.desk.kept.or ((loads shop history).findSome? Except.toOption) := by
  induction history generalizing shop with
  | nil => exact Option.or_none.symm
  | cons operation rest ih =>
    obtain ⟨stays, whole⟩ := List.ne_and_not_mem_of_not_mem_cons unbroken
    change (afterAll (operation.after shop) rest).desk.kept = _
    rw [ih whole, kept_after (Ne.symm stays), loads]
    -- Once settings are in use nothing is read, so that the first success is the only one.
    cases shop.desk.kept with
    | some current => rfl
    | none =>
      cases operation.asks shop with
      | false => rfl
      | true =>
        simp only [and_self, ↓reduceIte, Option.none_or, List.findSome?_cons]
        cases shop.desk.load <;> rfl

/-! ## Two histories -/

/-- With settings in use two operations do the same, if where settings come from is left aside. -/
inductive Match : SettingsOperation → SettingsOperation → Prop where
  | settings : Match settings settings
  | validate (scope : ScopeId) : Match (validate scope) (validate scope)
  | generate (tree : Tree) {around aside : Surroundings} (same : around.Match aside) :
    Match (generate tree around) (generate tree aside)
  | makeNamed (name : Option Text) (seed : Option Int) :
    Match (makeNamed name seed) (makeNamed name seed)
  | setJournalLevel (value : Value) : Match (setJournalLevel value) (setJournalLevel value)
  | elsewhere {work other : Work Unit} {leaves} {leaves_other}
    (same : ∀ current, Work.Alike (Workshop.Twins current) work other) :
    Match (elsewhere work leaves) (elsewhere other leaves_other)

/-- Histories in which nothing is put away, and that are the same but for changes of what settings
are read from, be it by operations or in the course of them. -/
inductive SameApartFromChanges : List SettingsOperation → List SettingsOperation → Prop where
  | nil : SameApartFromChanges [] []
  /-- There is a change in the first history. -/
  | left {change : SettingsOperation} {one another : List SettingsOperation}
    (changes : change.isChange) (rest : SameApartFromChanges one another) :
    SameApartFromChanges (change :: one) another
  /-- There is a change in the second history. -/
  | right {change : SettingsOperation} {one another : List SettingsOperation}
    (changes : change.isChange) (rest : SameApartFromChanges one another) :
    SameApartFromChanges one (change :: another)
  | both {operation other : SettingsOperation} {one another : List SettingsOperation}
    (same : operation.Match other) (rest : SameApartFromChanges one another) :
    SameApartFromChanges (operation :: one) (other :: another)

/-- What settings are read from may be changed in one of the workshops. -/
theorem twins_of_isChange {current : Settings} {other : Workshop}
    (twins : shop.Twins current other) (changes : operation.isChange) :
    (operation.after shop).Twins current other := by
  obtain ⟨kept, kept_other, same⟩ := twins
  cases operation with
  | bindVariable name value => exact ⟨kept, kept_other, same⟩
  | changeFiles change => exact ⟨kept, kept_other, same⟩
  | _ => cases changes

theorem Match.alike {other : SettingsOperation} (same : operation.Match other)
    (current : Settings) :
    Work.Alike (Workshop.Twins current) operation.perform other.perform := by
  cases same with
  | settings => exact Work.indifferent_settings.bind_pure _ current
  | validate scope => exact (Work.indifferent_validate scope).bind_pure _ current
  | generate tree same =>
    exact (tree.alike_generateAsking same current).bind fun _ => Work.alike_pure _
  | makeNamed name seed => exact (Work.indifferent_makeNamed name seed).bind_pure _ current
  | setJournalLevel value => exact (Work.indifferent_setJournalLevel value).bind_pure _ current
  | elsewhere same => exact (same current).bind fun _ => Work.alike_pure _

theorem Match.isChange_eq_false {other : SettingsOperation} (same : operation.Match other) :
    operation.isChange = false ∧ other.isChange = false := by
  cases same <;> exact ⟨rfl, rfl⟩

/-- With settings in use the same comes of histories that are the same but for changes of what
settings are read from, and nothing is left otherwise but that. -/
theorem SameApartFromChanges.replies_eq {first second : List SettingsOperation}
    (same : SameApartFromChanges first second) {current : Settings} {other : Workshop}
    (twins : shop.Twins current other) :
    replies shop first = replies other second ∧
      (afterAll shop first).Twins current (afterAll other second) := by
  induction same generalizing shop other with
  | nil => exact ⟨rfl, twins⟩
  | left changes rest ih =>
    rw [replies_cons_of_isChange changes]
    exact ih (twins_of_isChange twins changes)
  | right changes rest ih =>
    rw [replies_cons_of_isChange changes]
    exact ih (twins_of_isChange twins.symm changes).symm
  | both same rest ih =>
    obtain ⟨outcome, after⟩ := same.alike current shop other twins
    obtain ⟨remains, remains_other⟩ := same.isChange_eq_false
    obtain ⟨equal, still⟩ := ih after
    rw [replies_cons remains, replies_cons remains_other, outcome]
    exact ⟨congrArg _ equal, still⟩

/-! ## One snapshot at a time -/

/-- Whatever was done since the start or since settings were put away, all that asks for settings
now goes by one snapshot: the settings as they could first be read since then, or else as they can
be read now. Nested scopes of a tree are checked under the limit of that snapshot even if its source
or its sink changes what settings are read from. Where they cannot be read that fault is the answer
and nothing is changed, so that the next request reads again. With a snapshot taken, changes of what
settings are read from are of no consequence until it is put away. -/
theorem snapshot_until_cleared {start : Workshop} (fresh : start.desk.kept = none)
    {earlier between : List SettingsOperation}
    (opens : earlier = [] ∨ ∃ before, earlier = before ++ [clearSettings])
    (unbroken : clearSettings ∉ between) :
    let opened := afterAll start earlier
    let shop := afterAll opened between
    let snapshot := (loads opened between).findSome? Except.toOption
    let told := snapshot.elim shop.desk.load .ok
    shop.desk.kept = snapshot ∧
    (∀ operation : SettingsOperation, operation.asks shop →
      (∀ fault, told = .error fault →
        operation.perform.run.run shop = (.error (.settings fault), shop)) ∧
      ∀ current, told = .ok current →
        operation.perform.run.run shop =
            (operation.performBy current).run.run (shop.keeping current) ∧
          (operation.after shop).desk.kept = some current) ∧
    (∀ (operation : SettingsOperation) (current : Settings), operation.asks shop = false →
      operation.perform.run.run shop = (operation.performBy current).run.run shop) ∧
    (∀ current, snapshot = some current → ∀ first second, SameApartFromChanges first second →
      replies shop first = replies shop second ∧
        (afterAll shop first).Twins current (afterAll shop second)) ∧
    ∀ source sink, (Surroundings.onBench source sink).Match (.onBench source sink) ∧
      ∀ tree, Work.generateInto tree source sink = tree.generateAsking (.onBench source sink) := by
  intro opened shop snapshot told
  have empty : opened.desk.kept = none := by
    obtain rfl | ⟨before, rfl⟩ := opens
    · exact fresh
    · simp only [opened, afterAll, List.foldl_append]
      rfl
  have kept : shop.desk.kept = snapshot := by
    rw [kept_afterAll unbroken, empty, Option.none_or]
  have handed : shop.desk.settings.1 = told := by
    rw [Desk.settings_fst, kept]
  refine ⟨kept, fun operation asked => ⟨fun fault none => ?_, fun current some => ?_⟩,
    fun operation current unasked => perform_of_not_asks unasked current, ?_, ?_⟩
  · exact perform_of_error asked (handed.trans none)
  · have stays : operation ≠ clearSettings := by
      rintro rfl
      cases asked
    have same := perform_of_ok asked (handed.trans some)
    refine ⟨same.trans (perform_of_kept rfl), ?_⟩
    rw [after, same]
    exact keepsSettings_perform stays (shop.keeping current) current rfl
  · intro current taken first second same
    have inUse := kept.trans taken
    exact same.replies_eq ⟨inUse, inUse, rfl⟩
  · exact fun source sink =>
      ⟨Surroundings.match_onBench source sink, Work.generateInto_eq source sink⟩

def quota : Text := "REVERSE_PATTERN_MAX_OCCURRENCES_LIMIT"

/-- A workshop whose environment sets no number as the limit. -/
def undecided : Workshop where
  desk := { environment := [(quota, "x")] }

/-- A source that answers the least number each time, and a sink. -/
def steady : Surroundings where
  answer _ low _ := return .int low
  receive literal := Work.modifySink 0 (Sink.append [literal])
  keeps_answer _ _ _ _ _ kept := kept
  keeps_receive _ _ _ kept := kept

/-- The same source, if it raises the limit before each answer, and the same sink. -/
def meddling : Surroundings where
  answer announcement low high := do
    Work.bindVariable quota (some "9")
    steady.answer announcement low high
  receive := steady.receive
  keeps_answer _ _ _ _ _ kept := kept
  keeps_receive := steady.keeps_receive

theorem match_meddling : meddling.Match steady where
  answer _ _ _ _ _ _ twins := ⟨rfl, twins.kept, twins.kept_other, twins.same⟩
  receive current _ := Work.ApartFromDesk.indifferent (fun _ _ => rfl) current

/-- A bag of one or two boxes, each of up to three apples. -/
def bag : Tree :=
  .group "bag" ⟨1, 2⟩ false [.literal "box" ⟨1, 3⟩ ["apple"]]

/-- The limit that was five is put away. It cannot be read at the first request after that and is
two at the second one. That it is nine later on, even while a bag is being filled, does not matter:
no box may hold three apples. -/
theorem snapshot_until_cleared_bag :
    let earlier := [settings, bindVariable quota (some "5"), makeNamed (some "simple") (some 7),
      clearSettings]
    let between := [bindVariable quota (some "x"), settings, bindVariable quota (some "2"),
      setJournalLevel .null, bindVariable quota (some "9")]
    let shop := afterAll (afterAll undecided earlier) between
    let current : Settings := { maxOccurrencesLimit := some 2 }
    let filling := generate bag meddling
    undecided.desk.kept = none ∧ clearSettings ∉ between ∧
      (loads (afterAll undecided earlier) between).map Except.toOption = [none, some current] ∧
      shop.desk.load.toOption = some { maxOccurrencesLimit := some 9 } ∧
      shop.desk.kept = some current ∧
      filling.perform.run.run shop = (filling.performBy current).run.run (shop.keeping current) ∧
      (filling.perform.run.run shop).1 =
        .error (.generation (.scope (.aboveLimit "box" ⟨1, 3⟩ 2))) ∧
      replies shop [filling, bindVariable quota none, settings] =
        replies shop [generate bag steady, settings] := by
  intro earlier between shop current filling
  have unbroken : clearSettings ∉ between := by simp [between]
  have tried : (loads (afterAll undecided earlier) between).map Except.toOption =
      [none, some current] := by decide +kernel
  have read : (loads (afterAll undecided earlier) between).findSome? Except.toOption =
      some current := by
    calc
      _ = ((loads (afterAll undecided earlier) between).map Except.toOption).findSome? id :=
        List.findSome?_map.symm
      _ = some current := by
        rw [tried]
        rfl
  have fresh : undecided.desk.kept = none := rfl
  have opens : earlier = [] ∨ ∃ before, earlier = before ++ [clearSettings] :=
    .inr ⟨earlier.dropLast, rfl⟩
  obtain ⟨kept, asking, -, replies, -⟩ := snapshot_until_cleared fresh opens unbroken
  have filled := (asking filling rfl).2 current (by rw [read, Option.elim_some])
  have unchanged : SameApartFromChanges [filling, bindVariable quota none, settings]
      [generate bag steady, settings] :=
    .both (.generate bag match_meddling) (.left rfl (.both .settings .nil))
  obtain ⟨same, -⟩ := replies current read _ _ unchanged
  refine ⟨fresh, unbroken, tried, by decide +kernel, kept.trans read, filled.1, ?_, same⟩
  rw [filled.1]
  rfl

end SettingsOperation

end PatternForge
