import EditBatch.Proofs.Run.Steady

/-! How long a run takes that nobody stops.

Whenever a command is sent off, at most the commands sent off before it have been waited for,
one after the other and with a pause after each. So everything sent off is over within its own
times and pauses, and time goes on without anything in flight only while a command still waits.
-/

set_option autoImplicit false

namespace EditBatch

open Execution

def RunEvent.duration : RunEvent → Nat
  | .dispatched time _ _ endsAt => endsAt - time
  | .called _ _ _ | .completed _ _ _ _ => 0

namespace Run

variable {σ : Type}

def totalDuration : List RunEvent → Nat
  | [] => 0
  | event :: rest => event.duration + totalDuration rest

theorem totalDuration_append (history new : List RunEvent) :
    totalDuration (history ++ new) = totalDuration history + totalDuration new := by
  induction history with
  | nil => simp [totalDuration]
  | cons event rest ih => simp [totalDuration, ih, Nat.add_assoc]

theorem totalDuration_of_unsent {history : List RunEvent}
    (unsent : history.filterMap RunEvent.sentIndex? = []) : totalDuration history = 0 := by
  induction history with
  | nil => rfl
  | cons event rest ih =>
    cases event with
    | dispatched time index ref endsAt => simp [RunEvent.sentIndex?] at unsent
    | called time index call | completed time index result ref =>
      simp [totalDuration, RunEvent.duration, ih unsent]

def busyTime (run : Run) : Nat := totalDuration run.history

/-- By when everything sent off is over, and the pause after it, if all began at a time. -/
def allowance (began : Nat) (run : Run) : Nat :=
  began + run.busyTime + run.sent.length * run.throttle

theorem totalDuration_dispatchEvents (now index : Nat) (ref : String)
    (done : Performance σ (Except Escape CommandResult)) :
    totalDuration (dispatchEvents now index ref done) = done.endsAt - now := by
  have calls : totalDuration (done.calls.map fun record =>
      .called record.time index record.call) = 0 := by
    apply totalDuration_of_unsent
    simp [List.filterMap_map, Function.comp_def, RunEvent.sentIndex?]
  rw [dispatchEvents, totalDuration, calls]
  rfl

theorem allowance_of_dispatch {setup : Setup σ} {now index : Nat} {run : Run} {command : Command}
    {client : σ} (began : Nat) :
    (run.dispatch setup now index command client).1.allowance began =
      run.allowance began + ((performance setup now command client).endsAt - now) +
        run.throttle := by
  have busyTime : (run.dispatch setup now index command client).1.busyTime =
      run.busyTime + ((performance setup now command client).endsAt - now) := by
    rw [Run.busyTime, history_dispatch, totalDuration_append, totalDuration_dispatchEvents,
      Run.busyTime]
  have sent : (run.dispatch setup now index command client).1.sent.length =
      run.sent.length + 1 := by
    rw [sent_of_dispatched (history_dispatch setup now index command run client),
      List.length_append, List.length_singleton]
  rw [allowance, busyTime, sent, throttle_dispatch, Nat.succ_mul, allowance]
  omega

theorem Alike.allowance {run next : Run} (alike : run.Alike next) (began : Nat) :
    next.allowance began = run.allowance began := by
  simp only [Run.allowance, Run.busyTime, Run.sent, alike.history, alike.throttle]

theorem Completion.allowance {now index : Nat} {command : Command} {result : CommandResult}
    {run next : Run} (completion : Completion now index command result run next) (began : Nat) :
    next.allowance began = run.allowance began := by
  have busyTime : next.busyTime = run.busyTime := by
    rw [Run.busyTime, completion.history, totalDuration_append]
    simp [totalDuration, RunEvent.duration, Run.busyTime]
  rw [Run.allowance, busyTime, sent_of_completed completion.history, completion.throttle,
    Run.allowance]

end Run

namespace Machine

variable {σ : Type}

-- Sending a command off adds its duration and a pause to the allowance. This pays for the wait for
-- its flight, which may overlap with others, and for the pause that its completion starts.
structure Punctual (began : Nat) (machine : Machine σ) : Prop where
  clock : machine.clock ≤ machine.run.allowance began
  notBefore : machine.run.notBefore ≤ machine.run.allowance began
  lastEnd : machine.run.sent = [] ∧ machine.run.lastEnd = 0 ∨
    machine.run.lastEnd + machine.run.throttle ≤ machine.run.allowance began
  /-- Time does not go on behind the last end unless a command waits. -/
  settled : 0 < Run.waitingCount machine.run.commands ∨ machine.run.sent = [] ∨
    machine.clock ≤ machine.run.lastEnd

section punctual

variable {setup : Setup σ} {first : List Command} {began : Nat} {machine next : Machine σ}

theorem Punctual.pass (punctual : machine.Punctual began) (alike : machine.run.Alike next.run)
    (clock : next.clock ≤ machine.run.allowance began)
    (settled : 0 < Run.waitingCount machine.run.commands ∨ machine.run.sent = [] ∨
      next.clock ≤ machine.run.lastEnd) : next.Punctual began := by
  have sent : next.run.sent = machine.run.sent := by rw [Run.sent, alike.history, Run.sent]
  constructor
  · rw [alike.allowance]
    exact clock
  · rw [alike.allowance, alike.notBefore]
    exact punctual.notBefore
  · rw [alike.allowance, alike.lastEnd, alike.throttle, sent]
    exact punctual.lastEnd
  · rw [alike.commands, sent, alike.lastEnd]
    exact settled

theorem Punctual.lastEnd_le (punctual : machine.Punctual began) :
    machine.run.lastEnd ≤ machine.run.allowance began := by
  rcases punctual.lastEnd with ⟨-, zero⟩ | bound
  · omega
  · omega

theorem Punctual.dispatch {index : Nat} {command : Command} {client : σ}
    (punctual : machine.Punctual began) :
    Punctual began ⟨machine.clock,
      (machine.run.dispatch setup machine.clock index command machine.client).1, client⟩ := by
  have ends : machine.clock ≤
      (Run.performance setup machine.clock command machine.client).endsAt :=
    Plan.now_le_endsAt _ _ _ _
  have clock := punctual.clock
  have notBefore := punctual.notBefore
  constructor
  · rw [Run.allowance_of_dispatch]
    simp only
    omega
  · rw [Run.allowance_of_dispatch, Run.notBefore_dispatch]
    omega
  · right
    have lastEnd := punctual.lastEnd_le
    rw [Run.allowance_of_dispatch, Run.lastEnd_dispatch, Run.throttle_dispatch]
    omega
  · right
    right
    rw [Run.lastEnd_dispatch]
    simp only
    omega

theorem Punctual.land {time : Nat} {flight : Flight} {result : CommandResult} {rest landed : Run}
    (punctual : machine.Punctual began) (aired : machine.Aired) (timely : machine.Timely)
    (tracked : machine.run.Tracked first) (ready : machine.run.readyAt? = some time)
    (looping : machine.run.isLooping = true)
    (popped : machine.run.popEnded? (max machine.clock time) = some (flight, rest))
    (completed : rest.complete? setup.listener (max machine.clock time) flight.index result =
      some landed) :
    Punctual began
      ⟨max machine.clock time, landed.resumed (max machine.clock time), machine.client⟩ := by
  obtain ⟨before, after, flights, -, rfl⟩ := Run.popEnded?_spec popped
  obtain ⟨command, completion⟩ := Run.completion_of_complete? completed
  have member := Run.mem_of_leaves flights
  have someSent : machine.run.sent ≠ [] := List.ne_nil_of_mem (tracked.aloft member).1
  have paid : machine.run.lastEnd + machine.run.throttle ≤ machine.run.allowance began :=
    punctual.lastEnd.resolve_left fun none => someSent none.1
  -- The flight ends now, which is not behind the last end.
  have now : max machine.clock time ≤ machine.run.lastEnd :=
    Nat.le_trans (aired.soon looping ready flight member) (timely.ending member)
  generalize max machine.clock time = moment at now completion
  have throttle : landed.throttle = machine.run.throttle := completion.throttle
  have notBefore : landed.notBefore = machine.run.notBefore := completion.notBefore
  have lastEnd : (landed.resumed moment).lastEnd = machine.run.lastEnd := completion.lastEnd
  have allowance : (landed.resumed moment).allowance began = machine.run.allowance began :=
    completion.allowance began
  constructor
  · rw [allowance]
    simp only
    omega
  · have before := punctual.notBefore
    rw [allowance]
    simp only [Run.resumed, throttle, notBefore]
    split <;> omega
  · right
    have same : (landed.resumed moment).throttle = machine.run.throttle := throttle
    rw [allowance, lastEnd, same]
    exact paid
  · rw [lastEnd]
    exact .inr (.inr now)

theorem Punctual.wake {time : Nat} (punctual : machine.Punctual began) (steady : machine.Steady)
    (aired : machine.Aired) (timely : machine.Timely) (ready : machine.run.readyAt? = some time)
    (waits : machine.run.phase = .completing ∨ ∃ deadline, machine.run.phase = .blocked deadline)
    (phase : Phase) :
    Punctual began
      ⟨max machine.clock time, { machine.run with phase }, machine.client⟩ := by
  have clock := punctual.clock
  have settled := punctual.settled
  have notBefore := punctual.notBefore
  have last := punctual.lastEnd_le
  rcases List.eq_nil_or_concat machine.run.inFlight with empty | ⟨others, flight, flights⟩
  · rcases waits with completing | ⟨deadline, blocked⟩
    · simp only [Run.readyAt?, completing, Option.some.injEq] at ready
      subst ready
      rw [Nat.max_zero]
      exact punctual.pass (Run.alike_update _ _ _ _ _ _) clock settled
    · obtain ⟨due, waiting⟩ := steady.paused blocked empty
      rw [Run.readyAt?_of_idle blocked empty steady.unstopped, Option.some.injEq] at ready
      refine punctual.pass (Run.alike_update _ _ _ _ _ _) ?_ (.inl waiting)
      simp only
      omega
  · have member : flight ∈ machine.run.inFlight := by simp [flights]
    have bound := aired.soon (isLooping_of_waits waits) ready flight member
    have ending := timely.ending member
    refine punctual.pass (Run.alike_update _ _ _ _ _ _) ?_ ?_
    · simp only
      omega
    · exact .inr (.inr (by simp only; omega))

theorem Punctual.move (punctual : machine.Punctual began) (steady : machine.Steady)
    (aired : machine.Aired) (accounted : machine.Accounted) (timely : machine.Timely)
    (tracked : machine.run.Tracked first) (move : machine.Move setup next) :
    next.Punctual began := by
  have clock := punctual.clock
  have settled := punctual.settled
  cases move with
  | begin | overflow => exact punctual.pass (Run.alike_update _ _ _ _ _ _) clock settled
  | dispatch => exact punctual.dispatch
  | turn => exact punctual.pass (Run.alike_turn _ _ _) clock settled
  | land ready waits popped known completed =>
    exact punctual.land aired timely tracked ready (isLooping_of_waits waits) popped completed
  | lose ready waits popped lost => exact absurd lost (accounted.not_lost tracked popped)
  | wake ready waits | quit ready waits => exact punctual.wake steady aired timely ready waits _
  | depart =>
    have last := punctual.lastEnd_le
    refine punctual.pass (Run.alike_depart _ _) ?_ ?_
    · simp only
      omega
    · exact settled.imp_right (Or.imp_right fun before => by simp only; omega)
  | drain phase | skip phase | finish phase => exact absurd phase steady.undrained

theorem Punctual.clock_le (punctual : machine.Punctual began)
    (done : Run.waitingCount machine.run.commands = 0) :
    machine.clock ≤ began + machine.run.busyTime +
      (machine.run.sent.length - 1) * machine.run.throttle := by
  have clock := punctual.clock
  unfold Run.allowance at clock
  cases count : machine.run.sent.length with
  | zero =>
    rw [count, Nat.zero_mul] at clock
    exact Nat.le_trans clock (Nat.le_add_right _ _)
  | succ others =>
    have someSent : machine.run.sent ≠ [] := List.ne_nil_of_length_eq_add_one count
    have settled := (punctual.settled.resolve_left (by omega)).resolve_left someSent
    have lastEnd := punctual.lastEnd.resolve_left fun none => someSent none.1
    rw [Run.allowance, count, Nat.succ_mul] at lastEnd
    rw [Nat.add_sub_cancel]
    omega

theorem Punctual.clock_le_of_unsent (punctual : machine.Punctual began)
    (unsent : machine.run.sent = []) : machine.clock ≤ began := by
  have clock := punctual.clock
  have busyTime : machine.run.busyTime = 0 := Run.totalDuration_of_unsent unsent
  rw [Run.allowance, busyTime, unsent, List.length_nil, Nat.zero_mul] at clock
  exact clock

theorem punctual_start (clock limit throttle : Nat) (client : σ) (commands : List Command) :
    (start clock commands limit throttle client).Punctual clock := by
  have allowance : (start clock commands limit throttle client).run.allowance clock = clock := by
    simp [start, Run.allowance, Run.busyTime, Run.totalDuration, Run.sent]
  constructor
  · rw [allowance]
    exact Nat.le_refl _
  · exact Nat.zero_le _
  · exact .inl ⟨rfl, rfl⟩
  · exact .inr (.inl rfl)

end punctual

theorem Steps.punctual {setup : Setup σ} {clock limit throttle : Nat} {client : σ}
    {commands : List Command} {machine : Machine σ}
    (steps : (start clock commands limit throttle client).Steps setup machine)
    (startable : Startable commands) (limited : 0 < limit)
    (representable : ¬ (pauseLimit ≤ throttle ∨ pauseLimit ≤ setup.poll))
    (uncancelled : ∀ command, (setup.listener command).cancels = false)
    (meets : setup.client.Meets Recovers) : machine.Punctual clock := by
  induction steps with
  | refl => exact punctual_start clock limit throttle client commands
  | @tail machine next steps due punctual =>
    obtain ⟨horizon, due⟩ := due
    have reached := Steps.reaches steps
    have steady := Steps.steady steps startable limited representable uncancelled meets
    exact punctual.move steady (Reaches.aired reached) (Reaches.accounted reached startable meets)
      (Reaches.timely reached) (Reaches.tracked reached) (move_of_step due)

end Machine

end EditBatch
