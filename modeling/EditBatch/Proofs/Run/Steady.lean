import EditBatch.Proofs.Run.Flights

/-! Runs that nobody stops and that no failure breaks off.

Such a run is looping until all its commands are done. Nothing in flight gets lost, so that with
nothing in flight some command waits, unless all are done. Then the loop waits for the pause to
be over and no longer.
-/

set_option autoImplicit false

namespace EditBatch

open Execution

namespace Run

variable {σ : Type}

/-! ## Stopping -/

theorem stop_notify {listener : Listener}
    (uncancelled : ∀ command, (listener command).cancels = false)
    (command : Command) (run : Run) : (run.notify listener command).stop = run.stop := by
  simp [notify, uncancelled, StopFlag.requestIf]

theorem stop_complete? {listener : Listener}
    (uncancelled : ∀ command, (listener command).cancels = false) {now index : Nat}
    {result : CommandResult} {run next : Run}
    (completed : run.complete? listener now index result = some next) : next.stop = run.stop := by
  obtain ⟨command, -, -, rfl⟩ := complete?_eq_some completed
  exact stop_notify uncancelled _ _

theorem stop_dispatch {setup : Setup σ}
    (uncancelled : ∀ command, (setup.listener command).cancels = false) (now index : Nat)
    (command : Command) (run : Run) (client : σ) :
    (run.dispatch setup now index command client).1.stop = run.stop := by
  unfold dispatch
  exact stop_notify uncancelled _ _

/-! ## Waiting -/

theorem readyAt?_of_idle {run : Run} {deadline : Nat} (phase : run.phase = .blocked deadline)
    (idle : run.inFlight = []) (unstopped : run.stop.requested = false) :
    run.readyAt? = some deadline := by
  simp [readyAt?, phase, earliestEnd, idle, StopFlag.wakesAt, unstopped]

end Run

namespace Machine

variable {σ : Type}

-- `paused` says that an idle wait has an end at which a command can be sent off.
structure Steady (machine : Machine σ) : Prop where
  unstopped : machine.run.stop.requested = false
  onward : machine.run.isLooping = true ∨
    (machine.run.phase = .leaving (.returned .completed) ∨ machine.run.phase = .ended .completed) ∧
      machine.run.inFlight = [] ∧ ∀ command ∈ machine.run.commands, command.status = .done
  paused : ∀ {deadline : Nat}, machine.run.phase = .blocked deadline →
    machine.run.inFlight = [] →
    deadline ≤ machine.run.notBefore ∧ 0 < Run.waitingCount machine.run.commands

section steady

variable {setup : Setup σ} {first : List Command} {machine next : Machine σ}

theorem Steady.undrained (steady : machine.Steady) : machine.run.phase ≠ .draining := by
  intro draining
  rcases steady.onward with looping | ⟨leaving | ended, -⟩
  · exact Run.phase_ne_draining_of_looping looping draining
  · simp [draining] at leaving
  · simp [draining] at ended

theorem Steady.rephase {now : Nat} {phase : Phase} {client : σ} (steady : machine.Steady)
    (onward : Run.isLooping { machine.run with phase } = true ∨
      (phase = .leaving (.returned .completed) ∨ phase = .ended .completed) ∧
        machine.run.inFlight = [] ∧ ∀ command ∈ machine.run.commands, command.status = .done)
    (paused : ∀ {deadline : Nat}, phase = .blocked deadline → machine.run.inFlight = [] →
      deadline ≤ machine.run.notBefore ∧ 0 < Run.waitingCount machine.run.commands) :
    Steady (σ := σ) ⟨now, { machine.run with phase }, client⟩ :=
  ⟨steady.unstopped, onward, paused⟩

theorem Steady.turn {client : σ} (steady : machine.Steady) (accounted : machine.Accounted)
    (exclusive : machine.run.Exclusive) (limited : 0 < machine.run.limit)
    (taken : machine.run.dispatchable? machine.clock = none) :
    Steady ⟨machine.clock, machine.run.turn setup machine.clock, client⟩ := by
  unfold Run.turn
  rw [if_neg (by simp [steady.unstopped])]
  split
  next finished =>
    have empty : machine.run.inFlight = [] := by simpa using finished.1
    have done : ∀ command ∈ machine.run.commands, command.status = .done := by
      simpa [Command.isDone] using finished.2
    exact steady.rephase (.inr ⟨.inl rfl, empty, done⟩) (by simp)
  next unfinished =>
    refine steady.rephase (.inl rfl) ?_
    rintro deadline ⟨⟩ empty
    -- Nothing runs, so that some command waits and is kept from being sent off by the pause only.
    have idle : ∀ other ∈ machine.run.commands, other.status ≠ .running := by
      intro other member running
      obtain ⟨index, there⟩ := List.mem_iff_getElem?.mp member
      obtain ⟨flight, aloft, -⟩ := accounted.manned there running
      rw [empty] at aloft
      simp at aloft
    obtain ⟨command, member, undone⟩ : ∃ command ∈ machine.run.commands,
        command.status ≠ .done := by
      simpa [empty, Command.isDone] using unfinished
    have waiting : command.status = .waiting := by
      obtain ⟨index, there⟩ := List.mem_iff_getElem?.mp member
      rcases exclusive.known there with waiting | running | done
      · exact waiting
      · exact absurd running (idle command member)
      · exact absurd done undone
    have eligible := Command.nextEligible?_isSome idle member waiting
    have early : machine.clock < machine.run.notBefore := by
      apply Decidable.byContradiction
      intro late
      unfold Run.dispatchable? at taken
      rw [if_pos ⟨by omega, by simpa [empty] using limited, steady.unstopped⟩] at taken
      simp [taken] at eligible
    refine ⟨?_, List.countP_pos_iff.mpr ⟨command, member, by simpa using waiting⟩⟩
    rw [Run.pause, if_pos early]
    omega

theorem Steady.move (steady : machine.Steady) (accounted : machine.Accounted)
    (exclusive : machine.run.Exclusive) (tracked : machine.run.Tracked first)
    (limited : 0 < machine.run.limit)
    (representable : ¬ (pauseLimit ≤ machine.run.throttle ∨ pauseLimit ≤ setup.poll))
    (uncancelled : ∀ command, (setup.listener command).cancels = false)
    (move : machine.Move setup next) : next.Steady := by
  cases move with
  | begin => exact steady.rephase (.inl rfl) (by simp)
  | overflow phase long => exact absurd long representable
  | dispatch phase =>
    refine ⟨?_, .inl ?_, ?_⟩
    · rw [Run.stop_dispatch uncancelled]
      exact steady.unstopped
    · rw [Run.isLooping, Run.dispatch_phase, phase]
    · intro deadline blocked
      rw [Run.dispatch_phase, phase] at blocked
      simp at blocked
  | turn phase taken => exact steady.turn accounted exclusive limited taken
  | land ready waits popped known completed =>
    obtain ⟨before, after, -, -, rfl⟩ := Run.popEnded?_spec popped
    refine ⟨?_, .inl (Run.isLooping_resumed _ _), ?_⟩
    · simp only [Run.resumed]
      rw [Run.stop_complete? uncancelled completed]
      exact steady.unstopped
    · intro deadline blocked
      simp only [Run.resumed] at blocked
      split at blocked <;> simp at blocked
  | lose ready waits popped lost => exact absurd lost (accounted.not_lost tracked popped)
  | wake => exact steady.rephase (.inl rfl) (by simp)
  | quit ready waits idle => simp [steady.unstopped] at idle
  | @depart departure phase =>
    rcases steady.onward with looping | ⟨leaving | ended, empty, done⟩
    · simp [Run.isLooping, phase] at looping
    · obtain rfl : departure = .returned .completed := by simpa [phase] using leaving
      exact steady.rephase (.inr ⟨.inr rfl, empty, done⟩) (by simp)
    · simp [phase] at ended
  | drain phase | skip phase | finish phase => exact absurd phase steady.undrained

/-- A steady run is ready by the time at which everything has ended and the pause is over. -/
theorem Steady.readyAt?_le (steady : machine.Steady) (timely : machine.Timely) {time : Nat}
    (ready : machine.run.readyAt? = some time) : time ≤ machine.run.nextMoment := by
  unfold Run.nextMoment
  rcases steady.onward with looping | ⟨leaving | ended, -⟩
  · rcases List.eq_nil_or_concat machine.run.inFlight with empty | ⟨others, flight, flights⟩
    · cases phase : machine.run.phase with
      | blocked deadline =>
        rw [Run.readyAt?_of_idle phase empty steady.unstopped] at ready
        have paused := (steady.paused phase empty).1
        simp only [Option.some.injEq] at ready
        omega
      | created | dispatching | completing =>
        simp only [Run.readyAt?, phase, Option.some.injEq] at ready
        omega
      | leaving departure | draining | ended outcome | crashed =>
        simp [Run.isLooping, phase] at looping
    · have member : flight ∈ machine.run.inFlight := by simp [flights]
      have first := Run.readyAt?_le_endsAt looping ready member
      have last := timely.ending member
      omega
  · simp only [Run.readyAt?, leaving, Option.some.injEq] at ready
    omega
  · simp [Run.readyAt?, ended] at ready

theorem Steady.completed (steady : machine.Steady) (rests : machine.run.readyAt? = none) :
    machine.run.phase = .ended .completed ∧ machine.run.inFlight = [] ∧
      ∀ command ∈ machine.run.commands, command.status = .done := by
  rcases steady.onward with looping | ⟨leaving | ended, empty, done⟩
  · cases phase : machine.run.phase with
    | blocked deadline =>
      simp only [Run.readyAt?, phase] at rests
      split at rests <;> simp at rests
    | created | dispatching | completing => simp [Run.readyAt?, phase] at rests
    | leaving departure | draining | ended outcome | crashed =>
      simp [Run.isLooping, phase] at looping
  · simp [Run.readyAt?, leaving] at rests
  · exact ⟨ended, empty, done⟩

end steady

theorem Steps.steady {setup : Setup σ} {clock limit throttle : Nat} {client : σ}
    {commands : List Command} {machine : Machine σ}
    (steps : (start clock commands limit throttle client).Steps setup machine)
    (startable : Startable commands) (limited : 0 < limit)
    (representable : ¬ (pauseLimit ≤ throttle ∨ pauseLimit ≤ setup.poll))
    (uncancelled : ∀ command, (setup.listener command).cancels = false)
    (meets : setup.client.Meets Recovers) : machine.Steady := by
  induction steps with
  | refl => exact ⟨rfl, .inl rfl, by simp [start]⟩
  | @tail machine next steps due steady =>
    obtain ⟨horizon, due⟩ := due
    have reached := Steps.reaches steps
    obtain ⟨sameLimit, sameThrottle⟩ := Reaches.limits reached
    have limited : 0 < machine.run.limit := by
      rw [sameLimit]
      exact limited
    have representable : ¬ (pauseLimit ≤ machine.run.throttle ∨ pauseLimit ≤ setup.poll) := by
      rw [sameThrottle]
      exact representable
    exact steady.move (Reaches.accounted reached startable meets)
      (Reaches.exclusive reached startable) (Reaches.tracked reached) limited representable
      uncancelled (move_of_step due)

end Machine

end EditBatch
