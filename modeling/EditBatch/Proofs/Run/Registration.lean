import EditBatch.Proofs.Run.Stepping

/-! What the steps of a run leave to those who follow it.

Steps add to the callbacks what the listener registers, and these are observers. They neither
give the run its report nor tell that it has finished: that is done when it has ended.
-/

set_option autoImplicit false

namespace EditBatch

namespace Run

variable {σ : Type}

/-- A step registers observers and leaves the report to others. -/
structure Registers (run next : Run) : Prop where
  report : next.report = run.report
  finished : next.finished = run.finished
  callbacks : ∃ observers : List Observer,
    next.callbacks = run.callbacks ++ observers.map .observe

theorem Registers.refl (run : Run) : run.Registers run := ⟨rfl, rfl, [], by simp⟩

theorem Registers.trans {first second third : Run} (one : first.Registers second)
    (two : second.Registers third) : first.Registers third := by
  obtain ⟨former, isFormer⟩ := one.callbacks
  obtain ⟨latter, isLatter⟩ := two.callbacks
  refine ⟨two.report.trans one.report, two.finished.trans one.finished, former ++ latter, ?_⟩
  rw [isLatter, isFormer, List.map_append, List.append_assoc]

def close (outcome : Outcome) (run : Run) : Run :=
  { run with report := some (run.reportWith outcome), callbacks := [] }

theorem registers_complete? {listener : Listener} {now index : Nat} {result : CommandResult}
    {run next : Run} (completed : run.complete? listener now index result = some next) :
    run.Registers next := by
  obtain ⟨command, -, -, rfl⟩ := complete?_eq_some completed
  exact ⟨rfl, rfl, _, rfl⟩

theorem registers_turn (setup : Setup σ) (now : Nat) (run : Run) :
    run.Registers (run.turn setup now) := by
  unfold turn
  split
  · exact ⟨rfl, rfl, [], by simp⟩
  · split <;> exact ⟨rfl, rfl, [], by simp⟩

end Run

namespace Machine

variable {σ : Type}

theorem Move.registers {setup : Setup σ} {machine next : Machine σ}
    (move : machine.Move setup next) : machine.run.Registers next.run := by
  cases move with
  | begin | overflow | wake | quit | skip | finish => exact ⟨rfl, rfl, [], by simp⟩
  | dispatch => exact ⟨rfl, rfl, _, rfl⟩
  | turn => exact Run.registers_turn setup _ _
  | land ready waits popped known completed =>
    obtain ⟨before, after, -, -, rfl⟩ := Run.popEnded?_spec popped
    obtain ⟨report, finished, callbacks⟩ := Run.registers_complete? completed
    exact ⟨report, finished, callbacks⟩
  | lose ready waits popped =>
    obtain ⟨before, after, -, -, rfl⟩ := Run.popEnded?_spec popped
    exact ⟨rfl, rfl, [], by simp⟩
  | @depart departure => cases departure <;> exact ⟨rfl, rfl, [], by simp [Run.depart]⟩
  | drain phase first completed =>
    obtain ⟨report, finished, callbacks⟩ := Run.registers_complete? completed
    exact ⟨report, finished, callbacks⟩

theorem Steps.registers {setup : Setup σ} {first last : Machine σ}
    (steps : first.Steps setup last) : first.run.Registers last.run := by
  induction steps with
  | refl => exact .refl _
  | tail _ due ih =>
    obtain ⟨horizon, due⟩ := due
    exact ih.trans (move_of_step due).registers

theorem Steps.eq_of_ended {setup : Setup σ} {first last : Machine σ} {outcome : Outcome}
    (steps : first.Steps setup last) (ended : first.run.phase = .ended outcome) :
    last = first := by
  rcases Relation.ReflTransGen.cases_head steps with rfl | ⟨next, ⟨horizon, due⟩, -⟩
  · rfl
  · obtain ⟨time, ready, -⟩ := step?_eq_some_iff.mp due
    simp [Run.readyAt?, ended] at ready

end Machine

end EditBatch
