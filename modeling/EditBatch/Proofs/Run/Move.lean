import EditBatch.Proofs.Run.Course
import EditBatch.Proofs.Run.Effect

/-! The moves of a run, each in full.

A step is opened here once. Whatever is proved of steps takes its cases from the moves, or from
what these leave of commands and flights.
-/

set_option autoImplicit false

namespace EditBatch

namespace Run

variable {σ : Type}

/-- A run that goes on after a completion, and pauses before it sends anything off. -/
def resumed (now : Nat) (run : Run) : Run :=
  { run with
    notBefore := if 0 < run.throttle then now + run.throttle else run.notBefore
    phase := if run.inFlight.any (hasEnded now) then .completing else .dispatching }

theorem isLooping_resumed (now : Nat) (run : Run) : (run.resumed now).isLooping = true := by
  unfold resumed
  by_cases more : run.inFlight.any (hasEnded now) = true
  · simp only [more, if_true, isLooping]
  · simp only [more, Bool.false_eq_true, if_false, isLooping]

/-! ## The stop flag -/

theorem requested_notify {run : Run} (stopped : run.stop.requested = true) (listener : Listener)
    (command : Command) : (run.notify listener command).stop.requested = true := by
  simp [notify, stopped]

theorem requested_complete? {listener : Listener} {now index : Nat} {result : CommandResult}
    {run next : Run} (completed : run.complete? listener now index result = some next)
    (stopped : run.stop.requested = true) : next.stop.requested = true := by
  obtain ⟨command, -, -, rfl⟩ := complete?_eq_some completed
  exact requested_notify stopped listener _

theorem requested_cancel {run : Run} (stopped : run.stop.requested = true) :
    run.cancel.stop.requested = true := by
  unfold cancel
  split
  · rfl
  · exact stopped

/-! ## Waiting -/

theorem readyAt?_le_deadline {run : Run} {time deadline : Nat}
    (phase : run.phase = .blocked deadline) (ready : run.readyAt? = some time) :
    time ≤ deadline := by
  simp only [readyAt?, phase] at ready
  split at ready
  next ending _ =>
    simp only [Option.some.injEq] at ready
    omega
  next =>
    simp only [StopFlag.wakesAt, Option.some.injEq] at ready
    split at ready <;> omega

theorem readyAt?_of_looping {run : Run} (looping : run.isLooping = true) :
    run.readyAt? = some 0 ∨
      ∃ deadline time, run.phase = .blocked deadline ∧ run.readyAt? = some time ∧
        time ≤ deadline := by
  cases phase : run.phase with
  | created | dispatching | completing =>
    left
    simp only [readyAt?, phase]
  | blocked deadline =>
    right
    cases ready : run.readyAt? with
    | none =>
      simp only [readyAt?, phase] at ready
      split at ready <;> simp at ready
    | some time => exact ⟨deadline, time, rfl, rfl, readyAt?_le_deadline phase ready⟩
  | leaving departure | draining | ended outcome | crashed => simp [isLooping, phase] at looping

theorem readyAt?_le_endsAt {run : Run} {time : Nat} {flight : Flight}
    (looping : run.isLooping = true) (ready : run.readyAt? = some time)
    (member : flight ∈ run.inFlight) : time ≤ flight.endsAt := by
  unfold readyAt? at ready
  unfold isLooping at looping
  cases phase : run.phase with
  | blocked deadline =>
    have among : flight.endsAt ∈ run.inFlight.map (·.endsAt) := List.mem_map_of_mem member
    cases first : run.earliestEnd with
    | none =>
      rw [earliestEnd, List.min?_eq_none_iff] at first
      rw [first] at among
      simp at among
    | some ending =>
      have least := (List.min?_eq_some_iff.mp first).2 _ among
      simp only [phase, first, Option.some.injEq] at ready
      omega
  | created | dispatching | completing =>
    simp only [phase, Option.some.injEq] at ready
    omega
  | leaving departure | draining | ended outcome | crashed => simp [phase] at looping

theorem isLooping_depart (run : Run) (departure : Departure) :
    (run.depart departure).isLooping = false := by
  cases departure <;> rfl

end Run

namespace Machine

variable {σ : Type}

theorem step?_eq_some_iff {setup : Setup σ} {machine next : Machine σ} {horizon : Nat} :
    machine.step? setup horizon = some next ↔
      ∃ time, machine.run.readyAt? = some time ∧ time ≤ horizon ∧
        next = ⟨max machine.clock time,
          (machine.run.step setup (max machine.clock time) machine.client).1,
          (machine.run.step setup (max machine.clock time) machine.client).2⟩ := by
  unfold step?
  constructor
  · intro due
    split at due
    · simp at due
    next time ready =>
      split at due
      next soon => exact ⟨time, ready, soon, (Option.some.inj due).symm⟩
      · simp at due
  · rintro ⟨time, ready, soon, rfl⟩
    simp only [ready, if_pos soon]

theorem step?_eq_none_iff {setup : Setup σ} {machine : Machine σ} {horizon : Nat} :
    machine.step? setup horizon = none ↔
      ∀ time, machine.run.readyAt? = some time → horizon < time := by
  unfold step?
  cases ready : machine.run.readyAt? with
  | none => simp
  | some time =>
    by_cases soon : time ≤ horizon
    · simp [soon]
    · simp only [if_neg soon, true_iff]
      rintro other ⟨⟩
      omega

/-- The steps of a run, told apart by what the loop does. -/
inductive Move (setup : Setup σ) (machine : Machine σ) : Machine σ → Prop where
  | begin (phase : machine.run.phase = .created)
      (short : ¬ (pauseLimit ≤ machine.run.throttle ∨ pauseLimit ≤ setup.poll)) :
      Move setup machine { machine with run := { machine.run with phase := .dispatching } }
  /-- A pause of which no float can be made aborts the run. -/
  | overflow (phase : machine.run.phase = .created)
      (long : pauseLimit ≤ machine.run.throttle ∨ pauseLimit ≤ setup.poll) :
      Move setup machine { machine with run := { machine.run with phase := .leaving .aborted } }
  | dispatch {index : Nat} {command : Command} (phase : machine.run.phase = .dispatching)
      (allowed : machine.run.dispatchable? machine.clock = some index)
      (found : machine.run.commands[index]? = some command) :
      Move setup machine
        ⟨machine.clock,
          (machine.run.dispatch setup machine.clock index command machine.client).1,
          (machine.run.dispatch setup machine.clock index command machine.client).2⟩
  | turn (phase : machine.run.phase = .dispatching)
      (taken : machine.run.dispatchable? machine.clock = none) :
      Move setup machine { machine with run := machine.run.turn setup machine.clock }
  | land {time : Nat} {flight : Flight} {result : CommandResult} {rest landed : Run}
      (ready : machine.run.readyAt? = some time)
      (waits : machine.run.phase = .completing ∨
        ∃ deadline, machine.run.phase = .blocked deadline)
      (popped : machine.run.popEnded? (max machine.clock time) = some (flight, rest))
      (known : flight.result = some result)
      (completed : rest.complete? setup.listener (max machine.clock time) flight.index result =
        some landed) :
      Move setup machine
        ⟨max machine.clock time, landed.resumed (max machine.clock time), machine.client⟩
  /-- A flight without a result, or one whose command does not run, ends the loop. -/
  | lose {time : Nat} {flight : Flight} {rest : Run} {departure : Departure}
      (ready : machine.run.readyAt? = some time)
      (waits : machine.run.phase = .completing ∨
        ∃ deadline, machine.run.phase = .blocked deadline)
      (popped : machine.run.popEnded? (max machine.clock time) = some (flight, rest))
      (lost : flight.result = none ∧ departure = .crashed ∨
        ∃ result, flight.result = some result ∧ departure = .aborted ∧
          rest.complete? setup.listener (max machine.clock time) flight.index result = none) :
      Move setup machine
        ⟨max machine.clock time, { rest with phase := .leaving departure }, machine.client⟩
  | wake {time : Nat} (ready : machine.run.readyAt? = some time)
      (waits : machine.run.phase = .completing ∨
        ∃ deadline, machine.run.phase = .blocked deadline)
      (nothing : machine.run.popEnded? (max machine.clock time) = none)
      (busy : ¬ (machine.run.inFlight.isEmpty ∧ machine.run.stop.requested)) :
      Move setup machine
        ⟨max machine.clock time, { machine.run with phase := .dispatching }, machine.client⟩
  | quit {time : Nat} (ready : machine.run.readyAt? = some time)
      (waits : machine.run.phase = .completing ∨
        ∃ deadline, machine.run.phase = .blocked deadline)
      (idle : machine.run.inFlight.isEmpty ∧ machine.run.stop.requested) :
      Move setup machine
        ⟨max machine.clock time, { machine.run with phase := .leaving (.returned .stopped) },
          machine.client⟩
  | depart {departure : Departure} (phase : machine.run.phase = .leaving departure) :
      Move setup machine
        ⟨max machine.clock machine.run.lastEnd, machine.run.depart departure, machine.client⟩
  | drain {flight : Flight} {rest : List Flight} {next : Run}
      (phase : machine.run.phase = .draining) (first : machine.run.inFlight = flight :: rest)
      (completed : Run.complete? setup.listener machine.clock flight.index flight.outcome
        { machine.run with inFlight := rest } = some next) :
      Move setup machine { machine with run := next }
  | skip {flight : Flight} {rest : List Flight} (phase : machine.run.phase = .draining)
      (first : machine.run.inFlight = flight :: rest)
      (failed : Run.complete? setup.listener machine.clock flight.index flight.outcome
        { machine.run with inFlight := rest } = none) :
      Move setup machine { machine with run := { machine.run with inFlight := rest } }
  | finish (phase : machine.run.phase = .draining) (empty : machine.run.inFlight = []) :
      Move setup machine { machine with run := { machine.run with phase := .ended .stopped } }

theorem isLooping_of_waits {machine : Machine σ} (waits : machine.run.phase = .completing ∨
    ∃ deadline, machine.run.phase = .blocked deadline) : machine.run.isLooping = true := by
  rcases waits with completing | ⟨deadline, blocked⟩
  · simp [Run.isLooping, completing]
  · simp [Run.isLooping, blocked]

theorem move_of_popped {setup : Setup σ} {machine : Machine σ} {time : Nat} {flight : Flight}
    {rest : Run} (ready : machine.run.readyAt? = some time)
    (waits : machine.run.phase = .completing ∨ ∃ deadline, machine.run.phase = .blocked deadline)
    (popped : machine.run.popEnded? (max machine.clock time) = some (flight, rest)) :
    machine.Move setup
      ⟨max machine.clock time, rest.land setup (max machine.clock time) flight,
        machine.client⟩ := by
  cases known : flight.result with
  | none =>
    simp only [Run.land, known]
    exact .lose ready waits popped (.inl ⟨known, rfl⟩)
  | some result =>
    cases completed : rest.complete? setup.listener (max machine.clock time) flight.index
        result with
    | none =>
      simp only [Run.land, known, completed]
      exact .lose ready waits popped (.inr ⟨result, known, rfl, completed⟩)
    | some landed =>
      simp only [Run.land, known, completed]
      exact .land ready waits popped known completed

theorem move_of_draining {setup : Setup σ} {machine : Machine σ}
    (phase : machine.run.phase = .draining) :
    machine.Move setup { machine with run := machine.run.drain setup machine.clock } := by
  cases flights : machine.run.inFlight with
  | nil =>
    have drained : machine.run.drain setup machine.clock =
        { machine.run with phase := .ended .stopped } := by
      unfold Run.drain
      split
      · rfl
      next first =>
        rw [flights] at first
        simp at first
    rw [drained]
    exact .finish phase flights
  | cons flight rest =>
    cases completed : Run.complete? setup.listener machine.clock flight.index
        (flight.result.getD (.failure .remote "run aborted" ""))
        { machine.run with inFlight := rest } with
    | none =>
      simp only [Run.drain, flights, completed, Option.getD_none]
      exact .skip phase flights completed
    | some next =>
      simp only [Run.drain, flights, completed, Option.getD_some]
      exact .drain phase flights completed

/-- A step of a run is one of the moves. -/
theorem move_of_step {setup : Setup σ} {machine next : Machine σ} {horizon : Nat}
    (due : machine.step? setup horizon = some next) : machine.Move setup next := by
  obtain ⟨time, ready, -, rfl⟩ := step?_eq_some_iff.mp due
  cases phase : machine.run.phase with
  | created =>
    simp only [Run.readyAt?, phase, Option.some.injEq] at ready
    subst ready
    simp only [Run.step, phase, Nat.max_zero]
    split
    next long => exact .overflow phase long
    next short => exact .begin phase short
  | dispatching =>
    simp only [Run.readyAt?, phase, Option.some.injEq] at ready
    subst ready
    simp only [Run.step, phase, Nat.max_zero]
    cases allowed : machine.run.dispatchable? machine.clock with
    | none => exact .turn phase allowed
    | some index =>
      have eligible := (Run.dispatchable?_eq_some_iff.mp allowed).2
      have found := List.getElem?_eq_getElem (Command.nextEligible?_lt eligible)
      simp only [found]
      exact .dispatch phase allowed found
  | completing =>
    simp only [Run.step, phase]
    cases popped : machine.run.popEnded? (max machine.clock time) with
    | none =>
      by_cases idle : machine.run.inFlight.isEmpty ∧ machine.run.stop.requested
      · simp only [if_pos idle]
        exact .quit ready (.inl phase) idle
      · simp only [if_neg idle]
        exact .wake ready (.inl phase) popped idle
    | some pair => exact move_of_popped ready (.inl phase) popped
  | blocked deadline =>
    simp only [Run.step, phase]
    cases popped : machine.run.popEnded? (max machine.clock time) with
    | none =>
      by_cases idle : machine.run.inFlight.isEmpty ∧ machine.run.stop.requested
      · simp only [if_pos idle]
        exact .quit ready (.inr ⟨deadline, phase⟩) idle
      · simp only [if_neg idle]
        exact .wake ready (.inr ⟨deadline, phase⟩) popped idle
    | some pair => exact move_of_popped ready (.inr ⟨deadline, phase⟩) popped
  | leaving departure =>
    simp only [Run.readyAt?, phase, Option.some.injEq] at ready
    subst ready
    simp only [Run.step, phase]
    exact .depart phase
  | draining =>
    simp only [Run.readyAt?, phase, Option.some.injEq] at ready
    subst ready
    simp only [Run.step, phase, Nat.max_zero]
    exact move_of_draining phase
  | ended outcome => simp [Run.readyAt?, phase] at ready
  | crashed => simp [Run.readyAt?, phase] at ready

end Machine

end EditBatch
