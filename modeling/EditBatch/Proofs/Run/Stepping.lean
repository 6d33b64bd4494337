import EditBatch.Proofs.Run.Once
import EditBatch.Run.Completion

/-! Runs that are left to themselves.

Which step comes next does not depend on the horizon, so that a run that comes to rest is the
same for every horizon behind its last step. A step that does no work leaves commands, flights
and times alone.
-/

set_option autoImplicit false

namespace EditBatch

namespace Machine

variable {σ : Type}

def Steps (setup : Setup σ) : Machine σ → Machine σ → Prop :=
  Relation.ReflTransGen fun machine next => ∃ horizon, machine.step? setup horizon = some next

theorem Steps.reaches {setup : Setup σ} {first last : Machine σ} (steps : first.Steps setup last) :
    first.Reaches setup last := by
  induction steps with
  | refl => exact .refl
  | tail _ due ih =>
    obtain ⟨horizon, due⟩ := due
    exact .tail ih (.step horizon due)

theorem step?_of_clock_le {setup : Setup σ} {machine next : Machine σ} {horizon other : Nat}
    (due : machine.step? setup horizon = some next) (later : next.clock ≤ other) :
    machine.step? setup other = some next := by
  obtain ⟨time, ready, -, rfl⟩ := step?_eq_some_iff.mp due
  exact step?_eq_some_iff.mpr ⟨time, ready, Nat.le_trans (Nat.le_max_right _ _) later, rfl⟩

theorem clock_le_of_step? {setup : Setup σ} {machine next : Machine σ} {horizon : Nat}
    (due : machine.step? setup horizon = some next) : machine.clock ≤ next.clock := by
  obtain ⟨time, -, -, rfl⟩ := step?_eq_some_iff.mp due
  exact Nat.le_max_left _ _

theorem clock_step?_le {setup : Setup σ} {machine next : Machine σ} {horizon : Nat}
    (due : machine.step? setup horizon = some next) : next.clock ≤ max machine.clock horizon := by
  obtain ⟨time, -, soon, rfl⟩ := step?_eq_some_iff.mp due
  exact Nat.max_le.mpr ⟨Nat.le_max_left _ _, Nat.le_trans soon (Nat.le_max_right _ _)⟩

theorem Steps.clock_le {setup : Setup σ} {first last : Machine σ}
    (steps : first.Steps setup last) : first.clock ≤ last.clock := by
  induction steps with
  | refl => exact Nat.le_refl _
  | tail _ due ih =>
    obtain ⟨horizon, due⟩ := due
    exact Nat.le_trans ih (clock_le_of_step? due)

theorem steps_runUntil (setup : Setup σ) (horizon : Nat) (machine : Machine σ) :
    machine.Steps setup (machine.runUntil setup horizon) := by
  fun_induction runUntil setup horizon machine with
  | case1 machine next due ih => exact .head ⟨horizon, due⟩ ih
  | case2 machine rests => exact .refl

theorem step?_runUntil (setup : Setup σ) (horizon : Nat) (machine : Machine σ) :
    (machine.runUntil setup horizon).step? setup horizon = none := by
  fun_induction runUntil setup horizon machine with
  | case1 machine next due ih => exact ih
  | case2 machine rests => exact rests

theorem runUntil_of_step? {setup : Setup σ} {horizon : Nat} {machine next : Machine σ}
    (due : machine.step? setup horizon = some next) :
    machine.runUntil setup horizon = next.runUntil setup horizon := by
  rw [runUntil]
  split
  next again =>
    cases due.symm.trans again
    rfl
  next rests =>
    rw [due] at rests
    simp at rests

theorem runUntil_eq_self {setup : Setup σ} {horizon : Nat} {machine : Machine σ}
    (rests : machine.step? setup horizon = none) : machine.runUntil setup horizon = machine := by
  unfold runUntil
  split
  next next due =>
    rw [rests] at due
    simp at due
  next => rfl

theorem Steps.runUntil_eq {setup : Setup σ} {machine finish : Machine σ} {horizon : Nat}
    (steps : machine.Steps setup finish)
    (rests : ∀ horizon, finish.step? setup horizon = none) (later : finish.clock ≤ horizon) :
    machine.runUntil setup horizon = finish := by
  -- The induction takes off the first step, as `runUntil` does.
  induction steps using Relation.ReflTransGen.head_induction_on with
  | refl => exact runUntil_eq_self (rests horizon)
  | head due rest ih =>
    obtain ⟨other, due⟩ := due
    have soon := step?_of_clock_le due (Nat.le_trans (Steps.clock_le rest) later)
    exact (runUntil_of_step? soon).trans ih

theorem steps_steps (setup : Setup σ) (horizon count : Nat) (machine : Machine σ) :
    machine.Steps setup (machine.steps setup horizon count) := by
  induction count generalizing machine with
  | zero => exact .refl
  | succ count ih =>
    unfold steps
    split
    next next due => exact .head ⟨horizon, due⟩ (ih next)
    next => exact .refl

theorem runUntil_eq_steps {setup : Setup σ} {horizon count : Nat} {machine : Machine σ}
    (rests : (machine.steps setup horizon count).step? setup horizon = none) :
    machine.runUntil setup horizon = machine.steps setup horizon count := by
  induction count generalizing machine with
  | zero => exact runUntil_eq_self rests
  | succ count ih =>
    cases due : machine.step? setup horizon with
    | none => simp only [steps, due, runUntil_eq_self due]
    | some next =>
      simp only [steps, due] at rests ⊢
      exact (runUntil_of_step? due).trans (ih rests)

end Machine

/-! ## Work -/

namespace Run

theorem work_eq (run : Run) :
    run.work = 2 * waitingCount run.commands + run.inFlight.length := rfl

theorem Alike.trans {first second third : Run} (one : first.Alike second)
    (two : second.Alike third) : first.Alike third :=
  ⟨two.commands.trans one.commands, two.history.trans one.history,
    two.createdIds.trans one.createdIds, two.failedIds.trans one.failedIds,
    two.inFlight.trans one.inFlight, two.notBefore.trans one.notBefore,
    two.lastEnd.trans one.lastEnd, two.limit.trans one.limit, two.throttle.trans one.throttle⟩

theorem Alike.work {run next : Run} (alike : run.Alike next) : next.work = run.work := by
  rw [work_eq, work_eq, alike.commands, alike.inFlight]

theorem Alike.nextMoment {run next : Run} (alike : run.Alike next) :
    next.nextMoment = run.nextMoment := by
  rw [Run.nextMoment, Run.nextMoment, alike.lastEnd, alike.notBefore]

end Run

namespace Machine

variable {σ : Type}

/-- What leaves some work undone leaves everything that counts alone. -/
theorem Transition.work {setup : Setup σ} {machine next : Machine σ}
    (transition : machine.Transition setup next) :
    next.run.work < machine.run.work ∨ machine.run.Alike next.run := by
  cases transition with
  | dispatch phase allowed found clock sent =>
    have eligible := (Run.dispatchable?_eq_some_iff.mp allowed).2
    rw [sent]
    exact .inl (Run.work_dispatch_lt _ _ _ _ _ _ found (Run.nextEligible?_waiting eligible found))
  | land later popped known completion same paused left =>
    obtain ⟨before, after, flights, -, rfl⟩ := Run.popEnded?_spec popped
    left
    have commands := same.commands.trans completion.commands
    have inFlight := same.inFlight.trans completion.inFlight
    simp only at commands inFlight
    rw [Run.work_eq, Run.work_eq, commands, inFlight, flights,
      Run.waitingCount_afterCompletion completion.found completion.running]
    simp only [List.length_append, List.length_cons]
    omega
  | lose later popped lost same left =>
    obtain ⟨before, after, flights, -, rfl⟩ := Run.popEnded?_spec popped
    left
    rw [Run.work_eq, Run.work_eq, same.commands, same.inFlight, flights]
    simp only [List.length_append, List.length_cons]
    omega
  | drain phase clock first known completion =>
    left
    rw [Run.work_eq, Run.work_eq, completion.commands, completion.inFlight, first,
      Run.waitingCount_afterCompletion completion.found completion.running]
    simp only [List.length_cons]
    omega
  | skip phase clock first lost same =>
    left
    rw [Run.work_eq, Run.work_eq, same.commands, same.inFlight, first]
    simp only [List.length_cons]
    omega
  | pass later same drained => exact .inr same

theorem Steps.work {setup : Setup σ} {first last : Machine σ} (steps : first.Steps setup last) :
    last.run.work < first.run.work ∨ first.run.Alike last.run := by
  induction steps with
  | refl => exact .inr (.refl _)
  | tail _ due ih =>
    obtain ⟨horizon, due⟩ := due
    rcases (transition_of_step due).work with less | same <;> rcases ih with lesser | alike
    · exact .inl (Nat.lt_trans less lesser)
    · rw [alike.work] at less
      exact .inl less
    · rw [← same.work] at lesser
      exact .inl lesser
    · exact .inr (alike.trans same)

/-- A run that has been let go on to its end has no step left that is due by the time at which
everything has ended and the pause is over. -/
theorem runToEnd_spec (setup : Setup σ) (machine : Machine σ) :
    machine.Steps setup (machine.runToEnd setup) ∧
      ∀ time, (machine.runToEnd setup).run.readyAt? = some time →
        (machine.runToEnd setup).run.nextMoment < time := by
  fun_induction runToEnd setup machine with
  | case1 machine next less ih =>
    exact ⟨(steps_runUntil setup _ machine).trans ih.1, ih.2⟩
  | case2 machine next done =>
    have steps := steps_runUntil setup (max machine.clock machine.run.nextMoment) machine
    have rests := step?_runUntil setup (max machine.clock machine.run.nextMoment) machine
    refine ⟨steps, fun time ready => ?_⟩
    rcases Steps.work steps with less | alike
    · exact absurd less done
    · have late := step?_eq_none_iff.mp rests time ready
      rw [alike.nextMoment]
      omega

end Machine

end EditBatch
