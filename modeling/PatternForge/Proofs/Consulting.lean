import PatternForge.Proofs.Runs

/-! # Asking for the settings at every scope

Generation checks the bounds of every scope that it comes to, each time that it comes there, and
asks for the settings to do so. With settings in use it is told the same each time, so that all
scopes are checked under one limit (`Tree.generateAsking_of_kept`), whatever the source and the sink
do in between, if they do not put the settings away.
-/

namespace PatternForge

def Workshop.keeping (shop : Workshop) (current : Settings) : Workshop :=
  { shop with desk := { shop.desk with kept := some current } }

namespace Work

variable {α β : Type}

/-! ## Pieces of work that go alike -/

/-- In linked workshops two pieces of work end alike, and they leave the workshops linked. -/
def Alike (linked : Workshop → Workshop → Prop) (first second : Work α) : Prop :=
  ∀ shop other, linked shop other →
    (first.run.run shop).1 = (second.run.run other).1 ∧
      linked (first.run.run shop).2 (second.run.run other).2

/-- A piece of work leaves settings in use. -/
def KeepsSettings (work : Work α) : Prop :=
  ∀ shop current, shop.desk.kept = some current →
    (work.run.run shop).2.desk.kept = some current

def times : Nat → Work Unit → Work Unit
  | 0, _ => pure ()
  | more + 1, body => do
    body
    times more body

section Alike

variable {linked : Workshop → Workshop → Prop}

theorem alike_pure (result : α) : Alike linked (pure result) (pure result) :=
  fun _ _ link => ⟨rfl, link⟩

theorem alike_throw (fault : WorkFault) : Alike linked (throw fault : Work α) (throw fault) :=
  fun _ _ link => ⟨rfl, link⟩

theorem run_bind_of_error {shop after : Workshop} {first : Work α} {fault : WorkFault}
    (ended : first.run.run shop = (.error fault, after)) (next : α → Work β) :
    (first >>= next).run.run shop = (.error fault, after) := by
  rw [ExceptT.run_bind, StateT.run_bind, ended]
  rfl

theorem run_bind_congr {shop : Workshop} {first second : Work α}
    (same : first.run.run shop = second.run.run shop) (next : α → Work β) :
    (first >>= next).run.run shop = (second >>= next).run.run shop := by
  rw [ExceptT.run_bind, ExceptT.run_bind, StateT.run_bind, StateT.run_bind, same]

theorem after_bind_pure (work : Work α) (reply : α → β) (shop : Workshop) :
    ((work >>= fun result => pure (reply result)).run.run shop).2 = (work.run.run shop).2 := by
  rcases ended : work.run.run shop with ⟨fault | result, after⟩
  · rw [run_bind_of_error ended]
  · rw [run_bind_of_ok ended]
    rfl

theorem KeepsSettings.bind_pure {work : Work α} (keeps : KeepsSettings work) (reply : α → β) :
    KeepsSettings (work >>= fun result => pure (reply result)) := by
  intro shop current kept
  rw [after_bind_pure]
  exact keeps shop current kept

theorem Alike.bind {first second : Work α} {next following : α → Work β}
    (head : Alike linked first second)
    (rest : ∀ result, Alike linked (next result) (following result)) :
    Alike linked (first >>= next) (second >>= following) := by
  intro shop other link
  obtain ⟨same, still⟩ := head shop other link
  rcases ended : first.run.run shop with ⟨answer, after⟩
  rcases finished : second.run.run other with ⟨reply, later⟩
  rw [ended, finished] at same still
  obtain rfl : answer = reply := same
  cases answer with
  | error fault =>
    rw [run_bind_of_error ended, run_bind_of_error finished]
    exact ⟨rfl, still⟩
  | ok result =>
    rw [run_bind_of_ok ended, run_bind_of_ok finished]
    exact rest result after later still

theorem Alike.times {body other : Work Unit} (alike : Alike linked body other) (count : Nat) :
    Alike linked (times count body) (times count other) := by
  induction count with
  | zero => exact alike_pure ()
  | succ count ih => exact alike.bind fun _ => ih

end Alike

end Work

/-! ## Generation scope by scope -/

/-- What a generation has around it. The source and the sink may do anything that can be done in a
workshop but putting away the settings in use. -/
structure Surroundings where
  /-- The source hears what a request is for and answers it. -/
  answer : Announcement → (low high : Int) → Work Value
  receive : Text → Work Unit
  /-- The source leaves the settings in use. -/
  keeps_answer : ∀ announcement low high, (answer announcement low high).KeepsSettings
  keeps_receive : ∀ literal, (receive literal).KeepsSettings

namespace Work

variable {α β : Type}

/-- Checks the bounds of a scope under a limit. -/
def checkUnder (limit : Option Int) (name : Text) (bounds : Bounds) : Work Unit :=
  match bounds.fault? name limit with
  | some fault => throw (.generation (.scope fault))
  | none => pure ()

/-- Checks the bounds of a scope under the limit of the settings in use. -/
def checkAsking (name : Text) (bounds : Bounds) : Work Unit := do
  checkUnder (← limitFor bounds) name bounds

/-- The number that a source answers, which has to be in the range. -/
def ask (around : Surroundings) (announcement : Announcement) (low high : Int) : Work Int := do
  let value ← around.answer announcement low high
  if value.inRange low high then return value.number
  else throw (.generation (.outOfRange announcement.scope low high value))

/-- How often a scope repeats. Fixed bounds ask for nothing. -/
def settle (around : Surroundings) (scope : Text) (bounds : Bounds) : Work Int :=
  if bounds.least = bounds.greatest then pure bounds.least
  else ask around ⟨scope, Purpose.count.name⟩ bounds.least bounds.greatest

def tell (notice : Notice) : Work Unit :=
  write (writerOf notice) notice.message

theorem keepsSettings_tell (notice : Notice) : (tell notice).KeepsSettings := fun _ _ kept => kept

/-- Generates from a scope, given how scopes are checked and what it repeats. -/
def repeated (check : Text → Bounds → Work Unit) (around : Surroundings) (name : Text)
    (bounds : Bounds) (vacant : Prop) [Decidable vacant] (fault : ScopeFault)
    (notice : Int → Notice) (body : Work Unit) : Work Unit := do
  check name bounds
  if bounds.greatest = 0 then pure ()
  else if vacant then throw (.generation (.scope fault))
  else
    let count ← settle around name bounds
    tell (notice count)
    times count.toNat body

end Work

namespace Tree

mutual

/-- Generates from a tree, given how scopes are checked, which is done whenever one is come to. -/
def generateWith (check : Text → Bounds → Work Unit) (around : Surroundings) : Tree → Work Unit
  | literal name bounds pool =>
    Work.repeated check around name bounds pool.isEmpty (.emptyPool name)
      (fun count => .emitting name count pool.length) do
        let index ← Work.ask around ⟨name, Purpose.literal.name⟩ 0 (pool.length - 1)
        around.receive (pool.getD index.toNat [])
  | group name bounds alternating children =>
    Work.repeated check around name bounds (children.length = 0) (.emptyGroup name)
      (fun count => .repeating name count children.length alternating)
      (if alternating then do
        let index ← Work.ask around ⟨name, Purpose.child.name⟩ 0 ((children.length : Int) - 1)
        generateOneWith check around children index.toNat
      else generateAllWith check around children)

def generateAllWith (check : Text → Bounds → Work Unit) (around : Surroundings) :
    List Tree → Work Unit
  | [] => pure ()
  | tree :: rest => do
    generateWith check around tree
    generateAllWith check around rest

def generateOneWith (check : Text → Bounds → Work Unit) (around : Surroundings) :
    List Tree → Nat → Work Unit
  | [], _ => pure ()
  | tree :: _, 0 => generateWith check around tree
  | _ :: rest, index + 1 => generateOneWith check around rest index

end

/-- Generates from a tree and asks for the settings at every scope that it comes to. -/
def generateAsking (around : Surroundings) (tree : Tree) : Work Unit :=
  tree.generateWith Work.checkAsking around

/-- Generates from a tree under one limit. -/
def generateUnder (limit : Option Int) (around : Surroundings) (tree : Tree) : Work Unit :=
  tree.generateWith (Work.checkUnder limit) around

end Tree

namespace Work

variable {linked : Workshop → Workshop → Prop} {around aside : Surroundings}

section Alike

variable {check other : Text → Bounds → Work Unit}

section Children

variable {children : List Tree} (each : ∀ child ∈ children,
  Alike linked (child.generateWith check around) (child.generateWith other aside))
include each

private theorem alike_generateAllWith :
    Alike linked (Tree.generateAllWith check around children)
      (Tree.generateAllWith other aside children) := by
  induction children with
  | nil => exact alike_pure ()
  | cons child rest ih =>
    exact (each child List.mem_cons_self).bind fun _ =>
      ih fun other member => each other (List.mem_cons_of_mem _ member)

private theorem alike_generateOneWith (index : Nat) :
    Alike linked (Tree.generateOneWith check around children index)
      (Tree.generateOneWith other aside children index) := by
  induction children generalizing index with
  | nil => exact alike_pure ()
  | cons child rest ih =>
    cases index with
    | zero => exact each child List.mem_cons_self
    | succ index => exact ih (fun other member => each other (List.mem_cons_of_mem _ member)) index

end Children

variable (answers : ∀ announcement low high, Alike linked (around.answer announcement low high)
    (aside.answer announcement low high))
include answers

theorem alike_ask (announcement : Announcement) (low high : Int) :
    Alike linked (ask around announcement low high) (ask aside announcement low high) := by
  refine (answers announcement low high).bind fun value => ?_
  split
  · exact alike_pure _
  · exact alike_throw _

theorem alike_settle (scope : Text) (bounds : Bounds) :
    Alike linked (settle around scope bounds) (settle aside scope bounds) := by
  rw [settle, settle]
  split
  · exact alike_pure _
  · exact alike_ask answers _ _ _

variable (checks : ∀ name bounds, Alike linked (check name bounds) (other name bounds))
  (tells : ∀ notice, Alike linked (tell notice) (tell notice))
include checks tells

theorem Alike.repeated {body twin : Work Unit} (bodies : Alike linked body twin) (name : Text)
    (bounds : Bounds) (vacant : Prop) [Decidable vacant] (fault : ScopeFault)
    (notice : Int → Notice) :
    Alike linked (repeated check around name bounds vacant fault notice body)
      (repeated other aside name bounds vacant fault notice twin) := by
  refine (checks name bounds).bind fun _ => ?_
  split
  · exact alike_pure ()
  · split
    · exact alike_throw _
    · refine (alike_settle answers name bounds).bind fun count => ?_
      exact (tells _).bind fun _ => bodies.times _

/-- Where the sources, the sinks and the journals go alike, and the checks of all scopes do, the
same comes of a tree. -/
theorem alike_generateWith (receives : ∀ literal, Alike linked (around.receive literal)
      (aside.receive literal)) (tree : Tree) :
    Alike linked (tree.generateWith check around) (tree.generateWith other aside) := by
  induction tree using Tree.induct with
  | literal name bounds pool =>
    rw [Tree.generateWith, Tree.generateWith]
    refine Alike.repeated answers checks tells ?_ name bounds _ _ _
    exact (alike_ask answers _ _ _).bind fun _ => receives _
  | group name bounds alternating children each =>
    rw [Tree.generateWith, Tree.generateWith]
    refine Alike.repeated answers checks tells ?_ name bounds _ _ _
    cases alternating with
    | false => exact alike_generateAllWith each
    | true => exact (alike_ask answers _ _ _).bind fun _ => alike_generateOneWith each _

end Alike

/-! ## One limit for all scopes -/

variable {α β : Type}

/-- A piece of work asks for the settings before it does anything else. -/
def AsksFirst (work : Work α) : Prop :=
  ∃ rest : Settings → Work α, work = settings >>= rest

theorem asksFirst_bind {first : Work α} (asks : AsksFirst first) (next : α → Work β) :
    AsksFirst (first >>= next) := by
  obtain ⟨rest, rfl⟩ := asks
  exact ⟨fun current => rest current >>= next, bind_assoc _ _ _⟩

section AsksFirst

variable {shop : Workshop} {work : Work α}

/-- A request for settings that cannot be read fails, and nothing else is done. -/
theorem AsksFirst.run_of_error (asks : AsksFirst work) {fault : SettingsFault}
    (told : shop.desk.settings.1 = .error fault) :
    work.run.run shop = (.error (.settings fault), shop) := by
  obtain ⟨rest, rfl⟩ := asks
  have asked := run_settings shop
  rw [Desk.settings_of_error told] at asked
  exact run_bind_of_error asked rest

/-- Settings that can be read may as well have been in use before. -/
theorem AsksFirst.run_of_ok (asks : AsksFirst work) {current : Settings}
    (told : shop.desk.settings.1 = .ok current) :
    work.run.run shop = work.run.run (shop.keeping current) := by
  obtain ⟨rest, rfl⟩ := asks
  have asked := run_settings shop
  have again := run_settings (shop.keeping current)
  have kept : (shop.keeping current).desk.kept = some current := rfl
  rw [Desk.settings_of_ok told] at asked
  rw [Desk.settings_eq_of_kept kept] at again
  exact (run_bind_of_ok asked rest).trans (run_bind_of_ok again rest).symm

end AsksFirst

theorem checkAsking_of_ordered {bounds : Bounds} (ordered : bounds.Ordered) (name : Text) :
    checkAsking name bounds =
      settings >>= fun current => checkUnder current.maxOccurrencesLimit name bounds := by
  rw [checkAsking, limitFor, if_pos ordered, bind_assoc]
  simp only [pure_bind]

/-- Bounds that are out of order are refused under any limit. -/
theorem exists_checkUnder_eq_throw {bounds : Bounds} (disorder : ¬bounds.Ordered) (name : Text) :
    ∃ fault, ∀ limit, checkUnder limit name bounds = throw fault := by
  obtain ⟨fault, found⟩ := Bounds.exists_orderFault disorder name
  refine ⟨.generation (.scope fault), fun limit => ?_⟩
  rw [checkUnder, Bounds.fault?, found]
  rfl

/-- The settings are not asked for then. -/
theorem checkAsking_of_not_ordered {bounds : Bounds} (disorder : ¬bounds.Ordered) (name : Text)
    (limit : Option Int) : checkAsking name bounds = checkUnder limit name bounds := by
  obtain ⟨fault, refused⟩ := exists_checkUnder_eq_throw disorder name
  rw [checkAsking, limitFor, if_neg disorder, pure_bind, refused, refused]

/-- A tree is checked before anything else is done. -/
theorem exists_generateWith (check : Text → Bounds → Work Unit) (around : Surroundings)
    (tree : Tree) :
    ∃ rest : Work Unit,
      tree.generateWith check around = check tree.name tree.bounds >>= fun _ => rest := by
  cases tree with
  | literal name bounds pool => exact ⟨_, by rw [Tree.generateWith, repeated]; rfl⟩
  | group name bounds alternating children => exact ⟨_, by rw [Tree.generateWith, repeated]; rfl⟩

end Work

/-- The workshops are one, and it has the settings in use. -/
def Workshop.IsAt (current : Settings) (shop other : Workshop) : Prop :=
  shop = other ∧ shop.desk.kept = some current

theorem Work.KeepsSettings.alike {α : Type} {work : Work α} (keeps : work.KeepsSettings)
    (current : Settings) : Work.Alike (Workshop.IsAt current) work work := by
  rintro shop _ ⟨rfl, kept⟩
  exact ⟨rfl, rfl, keeps shop current kept⟩

theorem Work.alike_checkAsking (current : Settings) (name : Text) (bounds : Bounds) :
    Work.Alike (Workshop.IsAt current) (checkAsking name bounds)
      (checkUnder current.maxOccurrencesLimit name bounds) := by
  by_cases ordered : bounds.Ordered
  · rintro shop _ ⟨rfl, kept⟩
    have asked := limitFor_of_kept kept bounds
    rw [if_pos ordered] at asked
    rw [checkAsking, run_bind_of_ok asked, checkUnder]
    split <;> exact ⟨rfl, rfl, kept⟩
  · rw [checkAsking_of_not_ordered ordered name current.maxOccurrencesLimit]
    refine KeepsSettings.alike (fun shop _ kept => ?_) current
    rw [checkUnder]
    split <;> exact kept

namespace Tree

variable {shop : Workshop} {around : Surroundings}

theorem asksFirst_generateAsking {tree : Tree} (ordered : tree.bounds.Ordered)
    (around : Surroundings) : (tree.generateAsking around).AsksFirst := by
  obtain ⟨rest, first⟩ := Work.exists_generateWith Work.checkAsking around tree
  rw [generateAsking, first]
  exact Work.asksFirst_bind ⟨_, Work.checkAsking_of_ordered ordered tree.name⟩ _

/-- With settings in use every scope is checked under their limit, however often they are asked for,
and they stay in use. -/
theorem generateAsking_of_kept {current : Settings} (kept : shop.desk.kept = some current)
    (around : Surroundings) (tree : Tree) :
    (tree.generateAsking around).run.run shop =
        (tree.generateUnder current.maxOccurrencesLimit around).run.run shop ∧
      ((tree.generateAsking around).run.run shop).2.desk.kept = some current := by
  obtain ⟨outcome, after, still⟩ := Work.alike_generateWith
    (fun announcement low high => (around.keeps_answer announcement low high).alike current)
    (Work.alike_checkAsking current)
    (fun notice => (Work.keepsSettings_tell notice).alike current)
    (fun literal => (around.keeps_receive literal).alike current) tree shop shop ⟨rfl, kept⟩
  exact ⟨Prod.ext outcome after, still⟩

/-- A tree whose own bounds are out of order is refused under any limit. -/
theorem generateAsking_of_not_ordered {tree : Tree} (disorder : ¬tree.bounds.Ordered)
    (limit : Option Int) (around : Surroundings) (shop : Workshop) :
    ∃ fault, (tree.generateAsking around).run.run shop = (.error fault, shop) ∧
      (tree.generateUnder limit around).run.run shop = (.error fault, shop) := by
  obtain ⟨fault, refused⟩ := Work.exists_checkUnder_eq_throw disorder tree.name
  obtain ⟨rest, asking⟩ := Work.exists_generateWith Work.checkAsking around tree
  obtain ⟨others, under⟩ := Work.exists_generateWith (Work.checkUnder limit) around tree
  refine ⟨fault, ?_, ?_⟩
  · rw [generateAsking, asking, Work.checkAsking_of_not_ordered disorder tree.name limit, refused]
    rfl
  · rw [generateUnder, under, refused]
    rfl

end Tree

end PatternForge
