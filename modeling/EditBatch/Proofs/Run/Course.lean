import EditBatch.Run.Advance
import Mathlib.Logic.Relation

/-! The courses that a run can take.

A run takes its own steps when they are due. Between them time passes, callers ask it to stop
or register callbacks, other users of the client change its state, and a failure may break the
dispatch loop off at any moment. What is proved of all reachable states holds for every order
of these events.
-/

set_option autoImplicit false

namespace EditBatch

/-- Whether the dispatch loop has not been left. -/
def Run.isLooping (run : Run) : Bool :=
  match run.phase with
  | .created | .dispatching | .completing | .blocked _ => true
  | .leaving _ | .draining | .ended _ | .crashed => false

namespace Machine

variable {σ : Type}

def start (clock : Nat) (commands : List Command) (limit throttle : Nat) (client : σ) :
    Machine σ :=
  ⟨clock, { commands, limit, throttle }, client⟩

/-- One thing that can happen to a run. -/
inductive Happens (setup : Setup σ) (machine : Machine σ) : Machine σ → Prop where
  | step {next : Machine σ} (horizon : Nat) (due : machine.step? setup horizon = some next) :
      Happens setup machine next
  /-- Time passes in which nothing is due. -/
  | wait (time : Nat) (later : machine.clock ≤ time) (idle : machine.step? setup time = none) :
      Happens setup machine { machine with clock := time }
  | cancel : Happens setup machine { machine with run := machine.run.cancel }
  /-- A failure breaks the dispatch loop off. -/
  | fail (looping : machine.run.isLooping) :
      Happens setup machine
        { machine with run := { machine.run with phase := .leaving .aborted } }
  /-- The client is used by others. -/
  | share (client : σ) : Happens setup machine { machine with client }
  | register (callback : Callback) :
      Happens setup machine
        { machine with
          run := { machine.run with callbacks := machine.run.callbacks ++ [callback] } }
  /-- A run that has ended gets its report, and its callbacks are called. -/
  | report {outcome : Outcome} (ended : machine.run.phase = .ended outcome)
      (unreported : machine.run.isActive) :
      Happens setup machine
        { machine with
          run := { machine.run with
            report := some (machine.run.reportWith outcome), callbacks := [] } }
  | finish (reported : machine.run.isActive = false) :
      Happens setup machine { machine with run := { machine.run with finished := true } }

/-- Any number of things in any order. -/
def Reaches (setup : Setup σ) : Machine σ → Machine σ → Prop :=
  Relation.ReflTransGen (Happens setup)

/-- What holds at first and is kept by all that can happen holds of every reachable state. -/
theorem Reaches.invariant {setup : Setup σ} {first last : Machine σ}
    (reached : first.Reaches setup last) (Holds : Machine σ → Prop) (initially : Holds first)
    (kept : ∀ {machine next : Machine σ}, machine.Happens setup next → Holds machine → Holds next) :
    Holds last := by
  induction reached with
  | refl => exact initially
  | tail _ happens ih => exact kept happens ih

/-! ## Steps on their own -/

def steps (setup : Setup σ) (horizon : Nat) : Nat → Machine σ → Machine σ
  | 0, machine => machine
  | count + 1, machine =>
    match machine.step? setup horizon with
    | some next => next.steps setup horizon count
    | none => machine

theorem reaches_steps (setup : Setup σ) (horizon count : Nat) (machine : Machine σ) :
    machine.Reaches setup (machine.steps setup horizon count) := by
  induction count generalizing machine with
  | zero => exact .refl
  | succ count ih =>
    unfold steps
    split
    next next due => exact .head (.step horizon due) (ih next)
    next => exact .refl

theorem step?_steps {setup : Setup σ} {horizon count : Nat} {machine : Machine σ}
    (goesOn : ((machine.steps setup horizon count).step? setup horizon).isSome) :
    (machine.steps setup horizon count).step? setup horizon =
      some (machine.steps setup horizon (count + 1)) := by
  induction count generalizing machine with
  | zero =>
    obtain ⟨next, due⟩ := Option.isSome_iff_exists.mp goesOn
    simp only [steps] at due ⊢
    rw [due]
  | succ count ih =>
    rw [steps] at goesOn
    rw [steps, steps]
    cases due : machine.step? setup horizon with
    | none => simp [due] at goesOn
    | some next =>
      simp only [due] at goesOn ⊢
      exact ih goesOn

end Machine

end EditBatch
