import Mathlib.Data.Int.ModEq
import PatternForge.Proofs.Progress
import PatternForge.Proofs.Reseeding

/-! # The residues of a generator

The state of a minimal standard generator depends on the last seed and on how many requests were
served since, and on nothing else: a refused request leaves it alone, and the range of a served one
does not count. Each call keeps a ledger of the two in step with the state
(`MinimalStandard.Ledger.Accounts.after`), and so does any number of calls
(`MinimalStandard.state_of_calls`).
-/

namespace PatternForge.MinimalStandard

inductive Call where
  | draw (low high : Int)
  | seed (value : Int)

def Call.perform (generator : MinimalStandard) : Call → MinimalStandard
  | draw low high => (MinimalStandard.draw low high generator).2
  | seed value => ofSeed value

/-- The call as something done with a source of a bench. -/
def Call.operation : Call → SourceOperation
  | draw low high => .draw low high
  | seed value => .seed value

/-- What is left of the calls of a generator. -/
structure Ledger where
  seed : Int
  /-- How many requests were served since. -/
  served : ℕ := 0

namespace Ledger

def after (ledger : Ledger) : Call → Ledger
  | .draw low high =>
    if (rangeFault? top low high).isNone then { ledger with served := ledger.served + 1 } else ledger
  | .seed value => { seed := value }

/-- The residue that a seed starts from. -/
def start (seed : Int) : Int :=
  if seed % (2 ^ 31 - 1) = 0 then 1 else seed % (2 ^ 31 - 1)

/-- The state is the one that so many steps from the last seed lead to. -/
def Accounts (ledger : Ledger) (generator : MinimalStandard) : Prop :=
  (generator.state : Int) = start ledger.seed * 16807 ^ ledger.served % (2 ^ 31 - 1)

theorem state_ofSeed (seed : Int) : ((ofSeed seed).state : Int) = start seed := by
  have lower : 0 ≤ seed % (2 ^ 31 - 1) := Int.emod_nonneg _ (by decide)
  change (((if (seed % (2 ^ 31 - 1)).toNat = 0 then 1 else (seed % (2 ^ 31 - 1)).toNat : ℕ)) : Int) = _
  rw [start]
  split <;> split <;> omega

/-- A seed opens a new ledger. -/
theorem accounts_ofSeed (seed : Int) : Accounts { seed } (ofSeed seed) := by
  obtain ⟨positive, below⟩ := unit_ofSeed seed
  have reduced : ((ofSeed seed).state : Int) % (2 ^ 31 - 1) = (ofSeed seed).state :=
    Int.emod_eq_of_lt (Int.natCast_nonneg _) (by rw [modulus] at below; omega)
  rw [Accounts, pow_zero, mul_one, ← state_ofSeed, reduced]

/-- A served request multiplies once more. -/
theorem Accounts.next {ledger : Ledger} {generator : MinimalStandard}
    (accounts : ledger.Accounts generator) :
    Accounts { ledger with served := ledger.served + 1 } generator.next := by
  have step : (generator.next.state : Int) = generator.state * 16807 % (2 ^ 31 - 1) :=
    Int.natCast_emod _ _
  rw [Accounts] at accounts ⊢
  calc (generator.next.state : Int)
      = start ledger.seed * 16807 ^ ledger.served % (2 ^ 31 - 1) * 16807 % (2 ^ 31 - 1) := by
        rw [step, accounts]
    _ = start ledger.seed * 16807 ^ ledger.served * 16807 % (2 ^ 31 - 1) :=
        (Int.mod_modEq _ _).mul_right 16807
    _ = start ledger.seed * 16807 ^ (ledger.served + 1) % (2 ^ 31 - 1) := by
        rw [pow_succ 16807, mul_assoc]

end Ledger

section Draw

variable {low high : Int} (generator : MinimalStandard)

theorem draw_of_refused {fault : DrawFault} (refused : rangeFault? top low high = some fault) :
    draw low high generator = (.error fault, generator) := by
  rw [draw, refused]

theorem draw_of_served (served : rangeFault? top low high = none) :
    draw low high generator = (.ok (.int (generator.next.scale low high)), generator.next) := by
  rw [draw, served]

end Draw

/-- A call takes a unit to a unit, and the ledger goes along. -/
theorem Ledger.Accounts.after {ledger : Ledger} {generator : MinimalStandard}
    (accounts : ledger.Accounts generator) (unit : generator.Unit) (call : Call) :
    (ledger.after call).Accounts (call.perform generator) ∧ (call.perform generator).Unit := by
  cases call with
  | seed value => exact ⟨accounts_ofSeed value, unit_ofSeed value⟩
  | draw low high =>
    rw [Ledger.after, Call.perform]
    cases checked : rangeFault? top low high with
    | some fault =>
      rw [draw_of_refused generator checked]
      exact ⟨accounts, unit⟩
    | none =>
      rw [draw_of_served generator checked]
      exact ⟨accounts.next, unit.next⟩

/-- So do any number of calls. -/
theorem Ledger.Accounts.foldl {ledger : Ledger} {generator : MinimalStandard}
    (accounts : ledger.Accounts generator) (unit : generator.Unit) (calls : List Call) :
    (calls.foldl Ledger.after ledger).Accounts (calls.foldl Call.perform generator) ∧
      (calls.foldl Call.perform generator).Unit := by
  induction calls generalizing ledger generator with
  | nil => exact ⟨accounts, unit⟩
  | cons call rest ih =>
    obtain ⟨further, still⟩ := accounts.after unit call
    exact ih further still

/-- A generator on a bench goes through its calls as it does by itself. -/
theorem source?_perform {bench : Bench} {id : SourceId} {generator : MinimalStandard}
    (stands : bench.source? id = some (.minimalStandard generator)) (call : Call) :
    (bench.perform id call.operation).2.source? id =
      some (.minimalStandard (call.perform generator)) := by
  have present : id < bench.sources.size := (Array.getElem?_eq_some_iff.mp stands).1
  cases call with
  | draw low high =>
    change (Bench.draw id low high bench).2.source? id = _
    rw [Bench.draw, stands]
    exact Bench.source?_put_self present _
  | seed value =>
    change (bench.seed id (some value)).source? id = _
    rw [Bench.seed, stands]
    exact Bench.source?_put_self present _

theorem source?_performAll {bench : Bench} {id : SourceId} {generator : MinimalStandard}
    (stands : bench.source? id = some (.minimalStandard generator)) (calls : List Call) :
    (bench.performAll (calls.map fun call => (id, call.operation))).2.source? id =
      some (.minimalStandard (calls.foldl Call.perform generator)) := by
  induction calls generalizing bench generator with
  | nil => exact stands
  | cons call rest ih => exact ih (source?_perform stands call)

/-- Whatever was asked of a generator and however often it was seeded, its state is a unit modulo
the prime: the residue of its last seed times a power of the factor, which counts the requests
served since. A refused request leaves the state alone, and a served one is answered by a number of
its range. A generator that stands on a bench comes to the same state. -/
theorem state_of_calls (seed : Int) (calls : List Call) :
    let ledger := calls.foldl Ledger.after { seed }
    let generator := calls.foldl Call.perform (ofSeed seed)
    (1 ≤ generator.state ∧ generator.state ≤ 2 ^ 31 - 2) ∧
      (generator.state : Int) =
        Ledger.start ledger.seed * 16807 ^ ledger.served % (2 ^ 31 - 1) ∧
      (∀ low high, match rangeFault? top low high with
        | some fault => draw low high generator = (.error fault, generator)
        | none => ∃ value, draw low high generator = (.ok (.int value), generator.next) ∧
            low ≤ value ∧ value ≤ high) ∧
      ∀ (bench : Bench) (id : SourceId),
        bench.source? id = some (Generator.start .minimalStandard (some seed)) →
          (bench.performAll (calls.map fun call => (id, call.operation))).2.source? id =
            some (.minimalStandard generator) := by
  intro ledger generator
  obtain ⟨accounts, unit⟩ : ledger.Accounts generator ∧ generator.Unit :=
    (Ledger.accounts_ofSeed seed).foldl (unit_ofSeed seed) calls
  refine ⟨⟨unit.1, Nat.le_sub_one_of_lt unit.2⟩, accounts, ?_, ?_⟩
  · intro low high
    cases checked : rangeFault? top low high with
    | some fault => exact draw_of_refused generator checked
    | none =>
      obtain ⟨-, order, -⟩ := rangeFault?_eq_none_iff.mp checked
      obtain ⟨lower, upper⟩ := unit.next.scale_mem order
      exact ⟨_, draw_of_served generator checked, lower, upper⟩
  · intro bench id made
    exact source?_performAll made calls

/-- A wheel started from zero, which counts as one, and spun again from a seed below zero. Spins
that it cannot serve do not count. -/
theorem state_of_calls_wheel :
    let calls : List Call :=
      [.draw 0 36, .draw 36 0, .seed (-5), .draw 0 36, .draw 0 (2 ^ 31 - 1), .draw 7 7]
    let bench : Bench := { sources := #[.minimalStandard (ofSeed 0)] }
    let generator := calls.foldl Call.perform (ofSeed 0)
    bench.source? 0 = some (Generator.start .minimalStandard (some 0)) ∧
      (generator.state : Int) = (-5) % (2 ^ 31 - 1) * 16807 ^ 2 % (2 ^ 31 - 1) ∧
      draw 0 (2 ^ 31 - 1) generator = (.error (.outside 0 (2 ^ 31 - 1) top), generator) ∧
      (bench.performAll (calls.map fun call => (0, call.operation))).2.source? 0 =
        some (.minimalStandard generator) := by
  intro calls bench generator
  obtain ⟨-, state, answers, benched⟩ := state_of_calls 0 calls
  exact ⟨rfl, state, answers 0 (2 ^ 31 - 1), benched bench 0 rfl⟩

end PatternForge.MinimalStandard
