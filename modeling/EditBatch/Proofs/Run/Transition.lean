import EditBatch.Proofs.Run.Move

/-! What can happen to a run, told apart once for all proofs.

The commands and the history of a run change in two ways only: a command is sent off, or a
running one is completed. Everything else that happens leaves both alone.
-/

set_option autoImplicit false

namespace EditBatch

namespace Machine

variable {σ : Type}

-- What a transition leaves out, such as the phase that comes next, no invariant of commands,
-- flights and times asks for.
/-- What can happen to a run, by its effect on the commands and on the flight. -/
inductive Transition (setup : Setup σ) (machine next : Machine σ) : Prop where
  | dispatch {index : Nat} {command : Command} (phase : machine.run.phase = .dispatching)
      (allowed : machine.run.dispatchable? machine.clock = some index)
      (found : machine.run.commands[index]? = some command)
      (clock : next.clock = machine.clock)
      (sent : next.run =
        (machine.run.dispatch setup machine.clock index command machine.client).1)
  /-- The first command in flight that has ended is completed. -/
  | land {flight : Flight} {result : CommandResult} {command : Command} {rest landed : Run}
      (later : machine.clock ≤ next.clock)
      (popped : machine.run.popEnded? next.clock = some (flight, rest))
      (known : flight.result = some result)
      (completion : Run.Completion next.clock flight.index command result rest landed)
      (same : landed.Alike { next.run with notBefore := landed.notBefore })
      (paused : next.run.notBefore =
        if 0 < landed.throttle then next.clock + landed.throttle else landed.notBefore)
      (left : next.run.phase ≠ .draining)
  /-- A command leaves the flight without being completed, and the loop is left. -/
  | lose {flight : Flight} {rest : Run} (later : machine.clock ≤ next.clock)
      (popped : machine.run.popEnded? next.clock = some (flight, rest))
      (lost : flight.result = none ∨
        ∀ command, rest.commands[flight.index]? = some command → command.status ≠ .running)
      (same : rest.Alike next.run) (left : next.run.phase ≠ .draining)
  /-- What an aborted loop left in flight is completed. -/
  | drain {flight : Flight} {rest : List Flight} {result : CommandResult} {command : Command}
      (phase : machine.run.phase = .draining) (clock : next.clock = machine.clock)
      (first : machine.run.inFlight = flight :: rest) (known : flight.outcome = result)
      (completion : Run.Completion machine.clock flight.index command result
        { machine.run with inFlight := rest } next.run)
  | skip {flight : Flight} {rest : List Flight} (phase : machine.run.phase = .draining)
      (clock : next.clock = machine.clock) (first : machine.run.inFlight = flight :: rest)
      (lost : ∀ command, machine.run.commands[flight.index]? = some command →
        command.status ≠ .running)
      (same : Run.Alike { machine.run with inFlight := rest } next.run)
  | pass (later : machine.clock ≤ next.clock) (same : machine.run.Alike next.run)
      (drained : next.run.phase = .draining →
        machine.run.phase = .draining ∨ machine.run.lastEnd ≤ next.clock)

theorem Move.transition {setup : Setup σ} {machine next : Machine σ}
    (move : machine.Move setup next) : machine.Transition setup next := by
  have later (time : Nat) : machine.clock ≤ max machine.clock time := Nat.le_max_left _ _
  cases move with
  | begin | overflow =>
    exact .pass (Nat.le_refl _) (Run.alike_update _ _ _ _ _ _) (by simp)
  | dispatch phase allowed found => exact .dispatch phase allowed found rfl rfl
  | turn =>
    exact .pass (Nat.le_refl _) (Run.alike_turn _ _ _)
      fun draining => absurd draining (Run.phase_turn_ne _ _ _)
  | @land time flight result rest landed ready waits popped known completed =>
    obtain ⟨command, completion⟩ := Run.completion_of_complete? completed
    refine .land (later time) popped known completion
      ⟨rfl, rfl, rfl, rfl, rfl, rfl, rfl, rfl, rfl⟩ rfl ?_
    simp only [Run.resumed]
    split <;> simp
  | lose ready waits popped lost =>
    refine .lose (later _) popped ?_ (Run.alike_update _ _ _ _ _ _) (by simp)
    rcases lost with ⟨none, -⟩ | ⟨result, -, -, failed⟩
    · exact .inl none
    · exact .inr fun command found => Run.not_running_of_complete? failed found
  | wake | quit => exact .pass (later _) (Run.alike_update _ _ _ _ _ _) (by simp)
  | depart =>
    exact .pass (later _) (Run.alike_depart _ _) fun _ => .inr (Nat.le_max_right _ _)
  | drain phase first completed =>
    obtain ⟨command, completion⟩ := Run.completion_of_complete? completed
    exact .drain phase rfl first rfl completion
  | skip phase first failed =>
    exact .skip phase rfl first (fun command found => Run.not_running_of_complete? failed found)
      (.refl _)
  | finish => exact .pass (Nat.le_refl _) (Run.alike_update _ _ _ _ _ _) (by simp)

theorem transition_of_step {setup : Setup σ} {machine next : Machine σ} {horizon : Nat}
    (due : machine.step? setup horizon = some next) : machine.Transition setup next :=
  (move_of_step due).transition

/-- Whatever happens to a run is one of the transitions. -/
theorem transition_of_happens {setup : Setup σ} {machine next : Machine σ}
    (happens : machine.Happens setup next) : machine.Transition setup next := by
  cases happens with
  | step horizon due => exact transition_of_step due
  | wait time later idle => exact .pass later (.refl _) .inl
  | cancel =>
    refine .pass (Nat.le_refl _) (Run.alike_cancel _) fun draining => .inl ?_
    simpa only [Run.phase_cancel] using draining
  | fail looping =>
    exact .pass (Nat.le_refl _) (Run.alike_update _ _ _ _ _ _) (by simp)
  | share client => exact .pass (Nat.le_refl _) (.refl _) .inl
  | register callback =>
    exact .pass (Nat.le_refl _) (Run.alike_update _ _ _ _ _ _) .inl
  | report ended unreported =>
    exact .pass (Nat.le_refl _) (Run.alike_update _ _ _ _ _ _) .inl
  | finish reported =>
    exact .pass (Nat.le_refl _) (Run.alike_update _ _ _ _ _ _) .inl

end Machine

end EditBatch
