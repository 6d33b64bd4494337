import EditBatch.Proofs.Run.Flights
import EditBatch.Proofs.Run.Punctual

/-! Runs that nobody stops complete.

Left to itself, a run has fewer dispatches and completions to come each time that everything in
flight has ended and the pause is over, until it has none. Then it has ended, every command is
done, and those that waited have been carried out once.
-/

set_option autoImplicit false

namespace EditBatch

open Execution

theorem lt_pauseLimit {pause : Nat} (short : pause < Nat.pow 2 53) : ¬ pauseLimit ≤ pause := by
  have bound : Nat.pow 2 53 ≤ pauseLimit := by decide +kernel
  omega

namespace Machine

variable {σ : Type}

/-- A run that nobody stops and no failure breaks off comes to its end with all commands done. -/
theorem runToEnd_completed {setup : Setup σ} {limit throttle : Nat} {commands : List Command}
    (clock : Nat) (client : σ) (startable : Startable commands) (limited : 0 < limit)
    (representable : ¬ (pauseLimit ≤ throttle ∨ pauseLimit ≤ setup.poll))
    (uncancelled : ∀ command, (setup.listener command).cancels = false)
    (meets : setup.client.Meets Recovers) :
    ∃ finish, (start clock commands limit throttle client).runToEnd setup = finish ∧
      (start clock commands limit throttle client).Steps setup finish ∧
      finish.run.phase = .ended .completed ∧ finish.run.inFlight = [] ∧
      (∀ command ∈ finish.run.commands, command.status = .done) ∧
      ∀ horizon, finish.clock ≤ horizon →
        (start clock commands limit throttle client).runUntil setup horizon = finish := by
  obtain ⟨steps, late⟩ := runToEnd_spec setup (start clock commands limit throttle client)
  generalize (start clock commands limit throttle client).runToEnd setup = finish at steps late
  have steady := steps.steady startable limited representable uncancelled meets
  -- A step that is left would be due by the next moment, but all such steps have been made.
  have rests : finish.run.readyAt? = none := by
    cases ready : finish.run.readyAt? with
    | none => rfl
    | some time =>
      have soon := steady.readyAt?_le steps.reaches.timely ready
      exact absurd (late time ready) (by omega)
  obtain ⟨ended, landed, done⟩ := steady.completed rests
  refine ⟨finish, rfl, steps, ended, landed, done, ?_⟩
  intro horizon later
  refine steps.runUntil_eq (fun horizon => step?_eq_none_iff.mpr ?_) later
  intro time ready
  rw [rests] at ready
  simp at ready

structure Withheld (commands : List Command) (machine : Machine σ) : Prop where
  commands : machine.run.commands = commands
  history : machine.run.history = []
  inFlight : machine.run.inFlight = []
  phase : machine.run.phase = .created ∨ machine.run.phase = .leaving .aborted ∨
    machine.run.phase = .draining ∨ machine.run.phase = .ended .stopped

theorem Withheld.move {setup : Setup σ} {commands : List Command} {machine next : Machine σ}
    (withheld : machine.Withheld commands)
    (long : pauseLimit ≤ machine.run.throttle ∨ pauseLimit ≤ setup.poll)
    (move : machine.Move setup next) : next.Withheld commands := by
  obtain ⟨unchanged, silent, landed, phase⟩ := withheld
  cases move with
  | begin created short => exact absurd long short
  | overflow => exact ⟨unchanged, silent, landed, .inr (.inl rfl)⟩
  | dispatch dispatching | turn dispatching => simp [dispatching] at phase
  | land ready waits | lose ready waits | wake ready waits | quit ready waits =>
    rcases waits with completing | ⟨deadline, blocked⟩
    · simp [completing] at phase
    · simp [blocked] at phase
  | @depart departure leaving =>
    obtain rfl : departure = .aborted := by simpa [leaving] using phase
    exact ⟨unchanged, silent, landed, .inr (.inr (.inl rfl))⟩
  | drain draining first | skip draining first => simp [landed] at first
  | finish => exact ⟨unchanged, silent, landed, .inr (.inr (.inr rfl))⟩

theorem Steps.withheld {setup : Setup σ} {clock limit throttle : Nat} {client : σ}
    {commands : List Command} {machine : Machine σ}
    (steps : (start clock commands limit throttle client).Steps setup machine)
    (long : pauseLimit ≤ throttle ∨ pauseLimit ≤ setup.poll) : machine.Withheld commands := by
  induction steps with
  | refl => exact ⟨rfl, rfl, rfl, .inl rfl⟩
  | tail steps due withheld =>
    obtain ⟨horizon, due⟩ := due
    have throttled := (Reaches.limits (Steps.reaches steps)).2
    exact withheld.move (throttled ▸ long) (move_of_step due)

theorem runToEnd_withheld {setup : Setup σ} {limit throttle : Nat} (clock : Nat)
    (commands : List Command) (client : σ)
    (long : pauseLimit ≤ throttle ∨ pauseLimit ≤ setup.poll) :
    ∃ finish, (start clock commands limit throttle client).runToEnd setup = finish ∧
      finish.outcome? = some .stopped ∧ finish.run.commands = commands ∧
      finish.run.history = [] := by
  obtain ⟨steps, late⟩ := runToEnd_spec setup (start clock commands limit throttle client)
  generalize (start clock commands limit throttle client).runToEnd setup = finish at steps late
  obtain ⟨unchanged, silent, -, phase⟩ := steps.withheld long
  refine ⟨finish, rfl, ?_, unchanged, silent⟩
  have ready (time : Nat) : finish.run.readyAt? = some time → finish.run.lastEnd < time := by
    intro due
    exact Nat.lt_of_le_of_lt (Nat.le_max_left _ _) (late time due)
  rcases phase with created | leaving | draining | ended
  · exact absurd (ready 0 (by simp [Run.readyAt?, created])) (Nat.not_lt_zero _)
  · exact absurd (ready _ (by simp only [Run.readyAt?, leaving])) (Nat.lt_irrefl _)
  · exact absurd (ready 0 (by simp [Run.readyAt?, draining])) (Nat.not_lt_zero _)
  · rw [outcome?, ended]

/-- A run that nobody stops and no failure breaks off ends by itself, at the same time and in the
same state whatever the horizon. All commands are done then, and exactly those that waited
have been sent off and completed, once each. It takes no longer than all of these one after the
other, with a pause between them. -/
theorem completes_exactly_once {setup : Setup σ} {clock limit throttle : Nat} {client : σ}
    {commands : List Command} (startable : Startable commands) (limited : 1 ≤ limit)
    (throttled : throttle < Nat.pow 2 53) (polled : setup.poll < Nat.pow 2 53)
    (uncancelled : ∀ command, (setup.listener command).cancels = false)
    (meets : setup.client.Meets Recovers) :
    ∃ finish : Machine σ,
      (start clock commands limit throttle client).runToEnd setup = finish ∧
      (∀ horizon, finish.clock ≤ horizon →
        (start clock commands limit throttle client).runUntil setup horizon = finish) ∧
      finish.outcome? = some .completed ∧
      (∀ command ∈ finish.run.commands, command.status = .done) ∧
      (∀ (index : Nat) (command : Command), commands[index]? = some command →
        (finish.run.sent.count index = if command.status = .waiting then 1 else 0) ∧
        finish.run.completed.count index = if command.status = .waiting then 1 else 0) ∧
      finish.clock ≤
        clock + finish.run.busyTime + (Run.waitingCount commands - 1) * throttle ∧
      (Run.waitingCount commands = 0 → finish.clock = clock) := by
  have representable : ¬ (pauseLimit ≤ throttle ∨ pauseLimit ≤ setup.poll) := by
    rintro (long | long)
    · exact lt_pauseLimit throttled long
    · exact lt_pauseLimit polled long
  obtain ⟨finish, toEnd, steps, ended, -, done, settled⟩ := runToEnd_completed clock client
    startable limited representable uncancelled meets
  have reached := steps.reaches
  have tracked := reached.tracked
  have punctual := steps.punctual startable limited representable uncancelled meets
  have noneWaits : Run.waitingCount finish.run.commands = 0 := by
    refine List.countP_eq_zero.mpr fun command member => ?_
    simp [done command member]
  have count : finish.run.sent.length = Run.waitingCount commands := by
    rw [← tracked.left, noneWaits, Nat.add_zero]
  refine ⟨finish, toEnd, settled, ?_, done, ?_, ?_, ?_⟩
  · rw [outcome?, ended]
  · intro index command was
    obtain ⟨after, is⟩ := reached.current was
    have isDone := done after (List.mem_of_getElem? is)
    have sent : index ∈ finish.run.sent ↔ command.status = .waiting := by
      rw [tracked.sent_iff was is, isDone]
      simp
    have completed : index ∈ finish.run.completed ↔ command.status = .waiting := by
      rw [tracked.completed_iff was is, isDone]
      simp
    rw [tracked.sentOnce.count, tracked.completedOnce.count]
    simp only [sent, completed, and_self]
  · rw [← count, ← show finish.run.throttle = throttle from reached.limits.2]
    exact punctual.clock_le noneWaits
  · intro none
    rw [none] at count
    exact Nat.le_antisymm (punctual.clock_le_of_unsent (List.length_eq_zero_iff.mp count))
      steps.clock_le

def paused : Machine Unit :=
  start 5
    [{ id := 0, entityRef := "Q9", mode := .add, prop := "P31", value := some "Q5"
       status := .done },
     { id := 1, entityRef := "create_item_0", mode := .create, page := "Foo" },
     { id := 2, entityRef := "create_item_0", mode := .add, prop := "P31", value := some "Q5" }]
    2 50 ()

theorem completes_exactly_once_paused :
    Startable paused.run.commands ∧ sparing.client.Meets Recovers ∧
      (paused.steps sparing 100 12).clock = 5 + 20 + 50 ∧
      (paused.steps sparing 100 12).run.busyTime = 20 ∧
      ∃ finish, paused.runToEnd sparing = finish ∧ finish.outcome? = some .completed ∧
        finish.run.sent.count 0 = 0 ∧ finish.run.sent.count 1 = 1 ∧
        finish.run.completed.count 2 = 1 ∧ finish.clock ≤ 5 + finish.run.busyTime + 50 := by
  have startable : Startable paused.run.commands := by decide
  refine ⟨startable, sparing_meets_recovers, by decide +kernel, by decide +kernel, ?_⟩
  obtain ⟨finish, toEnd, -, outcome, -, counts, time, -⟩ :=
    @completes_exactly_once Unit sparing 5 2 50 () _ startable (by decide) (by decide)
      (by decide) (fun _ => rfl) sparing_meets_recovers
  exact ⟨finish, toEnd, outcome, (counts 0 _ rfl).1, (counts 1 _ rfl).1, (counts 2 _ rfl).2, time⟩

end Machine

end EditBatch
