import EditBatch.Proofs.Command.Calls
import EditBatch.Proofs.Run.Exclusion
import EditBatch.Proofs.Run.Stepping
import EditBatch.Proofs.Run.Timing

/-! What is in flight, and for how long.

The dispatch loop never passes the end of a flight, and after it has been left the clock does
not pass the last one before all of them are seen to. Against a client without fatal failures,
moreover, every running command is in flight with a result to come, so that nothing gets lost.
-/

set_option autoImplicit false

namespace EditBatch

open Execution

namespace Run

variable {σ : Type}

/-- The outcome that the loop has come to, be it that the run has not ended yet. -/
def decision? (run : Run) : Option Outcome :=
  match run.phase with
  | .leaving (.returned outcome) | .ended outcome => some outcome
  | _ => none

theorem decision?_of_looping {run : Run} (looping : run.isLooping = true) :
    run.decision? = none := by
  unfold isLooping at looping
  unfold decision?
  split at looping <;> simp_all

theorem phase_ne_draining_of_looping {run : Run} (looping : run.isLooping = true) :
    run.phase ≠ .draining := by
  intro draining
  simp [isLooping, draining] at looping

theorem isActive_of_complete? {listener : Listener} {now index : Nat} {result : CommandResult}
    {run next : Run} (completed : run.complete? listener now index result = some next) :
    next.isActive = run.isActive := by
  obtain ⟨command, -, -, rfl⟩ := complete?_eq_some completed
  rfl

theorem isActive_turn (setup : Setup σ) (now : Nat) (run : Run) :
    (run.turn setup now).isActive = run.isActive := by
  unfold turn
  split
  · rfl
  · split <;> rfl

theorem stop_turn (setup : Setup σ) (now : Nat) (run : Run) :
    (run.turn setup now).stop = run.stop := by
  unfold turn
  split
  · rfl
  · split <;> rfl

theorem settle_performance_ne_none {setup : Setup σ} (meets : setup.client.Meets Recovers)
    (now : Nat) (command : Command) (client : σ) :
    settle (performance setup now command client).result ≠ none := by
  have keeps := ends_recovering.execution (by simp) (by simp) command command.entityRef setup.wiki
  rw [ne_eq, settle_eq_none_iff]
  exact (keeps.perform meets now client).2

theorem inFlight_of_decision?_turn {setup : Setup σ} {now : Nat} {run : Run}
    (decided : (run.turn setup now).decision? ≠ none) : run.inFlight = [] := by
  unfold turn at decided
  split at decided
  next idle => simpa using idle.1
  next =>
    split at decided
    next idle => simpa using idle.1
    next => simp [decision?] at decided

end Run

namespace Machine

variable {σ : Type}

-- `spent` ties the time until which a loop is left to the flights: what was sent off last is either
-- still in flight or has ended by now.
structure Aired (machine : Machine σ) : Prop where
  /-- The loop does not pass the end of a flight. -/
  ahead : machine.run.isLooping = true →
    ∀ flight ∈ machine.run.inFlight, machine.clock ≤ flight.endsAt
  /-- A loop that is being left does not pass the end of all flights. -/
  aloft : ∀ departure, machine.run.phase = .leaving departure → machine.run.inFlight ≠ [] →
    ∃ flight ∈ machine.run.inFlight, machine.clock ≤ flight.endsAt
  spent : machine.run.lastEnd ≤ machine.clock ∨
    ∃ flight ∈ machine.run.inFlight, flight.endsAt = machine.run.lastEnd
  landed : machine.run.decision? ≠ none → machine.run.inFlight = []
  drains : machine.run.phase = .draining → machine.run.stop.requested = true
  reported : machine.run.isActive = false → ∃ outcome, machine.run.phase = .ended outcome

section aired

variable {setup : Setup σ} {machine next : Machine σ}

theorem Aired.active (aired : machine.Aired) (looping : machine.run.isLooping = true) :
    machine.run.isActive = true := by
  cases active : machine.run.isActive with
  | true => rfl
  | false =>
    obtain ⟨outcome, ended⟩ := aired.reported active
    simp [Run.isLooping, ended] at looping

theorem aired_of_soon (soon : ∀ flight ∈ next.run.inFlight, next.clock ≤ flight.endsAt)
    (spent : next.run.lastEnd ≤ next.clock ∨
      ∃ flight ∈ next.run.inFlight, flight.endsAt = next.run.lastEnd)
    (landed : next.run.decision? ≠ none → next.run.inFlight = [])
    (undrained : next.run.phase ≠ .draining) (active : next.run.isActive = true) : next.Aired := by
  refine ⟨fun _ => soon, ?_, spent, landed, fun draining => absurd draining undrained, ?_⟩
  · intro departure leaving some
    obtain ⟨flight, member⟩ := List.exists_mem_of_ne_nil _ some
    exact ⟨flight, member, soon flight member⟩
  · simp [active]

theorem Aired.spent_of_leaves {flight : Flight} {before after : List Flight} {now : Nat}
    (aired : machine.Aired) (flights : machine.run.inFlight = before ++ flight :: after)
    (ended : flight.endsAt ≤ now) (later : machine.clock ≤ now) :
    machine.run.lastEnd ≤ now ∨ ∃ other ∈ before ++ after, other.endsAt = machine.run.lastEnd := by
  rcases aired.spent with past | ⟨last, member, isLast⟩
  · exact .inl (Nat.le_trans past later)
  · rw [flights, List.mem_append, List.mem_cons] at member
    rcases member with front | rfl | back
    · exact .inr ⟨last, List.mem_append_left _ front, isLast⟩
    · exact .inl (isLast ▸ ended)
    · exact .inr ⟨last, List.mem_append_right _ back, isLast⟩

theorem Aired.spent_of_le {now : Nat} (aired : machine.Aired) (later : machine.clock ≤ now) :
    machine.run.lastEnd ≤ now ∨
      ∃ flight ∈ machine.run.inFlight, flight.endsAt = machine.run.lastEnd :=
  aired.spent.imp_left fun past => Nat.le_trans past later

/-- When a step of the loop is due, no flight has been over for long. -/
theorem Aired.soon {time : Nat} (aired : machine.Aired) (looping : machine.run.isLooping = true)
    (ready : machine.run.readyAt? = some time) :
    ∀ flight ∈ machine.run.inFlight, max machine.clock time ≤ flight.endsAt := by
  intro flight member
  exact Nat.max_le.mpr
    ⟨aired.ahead looping flight member, Run.readyAt?_le_endsAt looping ready member⟩

theorem Aired.land {time : Nat} {flight : Flight} {result : CommandResult} {rest landed : Run}
    (aired : machine.Aired) (ready : machine.run.readyAt? = some time)
    (looping : machine.run.isLooping = true)
    (popped : machine.run.popEnded? (max machine.clock time) = some (flight, rest))
    (completed : rest.complete? setup.listener (max machine.clock time) flight.index result =
      some landed) :
    Aired ⟨max machine.clock time, landed.resumed (max machine.clock time), machine.client⟩ := by
  obtain ⟨before, after, flights, ended, rfl⟩ := Run.popEnded?_spec popped
  obtain ⟨command, completion⟩ := Run.completion_of_complete? completed
  have stays := (Run.sublist_of_leaves flights).subset
  have on := Run.isLooping_resumed (max machine.clock time) landed
  refine aired_of_soon ?_ ?_ ?_ ?_ ?_
  · intro other member
    rw [Run.resumed, completion.inFlight] at member
    exact aired.soon looping ready other (stays member)
  · rw [Run.resumed, completion.inFlight, completion.lastEnd]
    exact aired.spent_of_leaves flights ended (Nat.le_max_left _ _)
  · simp [Run.decision?_of_looping on]
  · exact Run.phase_ne_draining_of_looping on
  · exact (Run.isActive_of_complete? completed).trans (aired.active looping)

theorem Aired.lose {time : Nat} {flight : Flight} {rest : Run} {departure : Departure}
    (aired : machine.Aired) (ready : machine.run.readyAt? = some time)
    (looping : machine.run.isLooping = true)
    (popped : machine.run.popEnded? (max machine.clock time) = some (flight, rest))
    (failed : ∀ outcome, departure ≠ .returned outcome) :
    Aired ⟨max machine.clock time, { rest with phase := .leaving departure }, machine.client⟩ := by
  obtain ⟨before, after, flights, ended, rfl⟩ := Run.popEnded?_spec popped
  have stays := (Run.sublist_of_leaves flights).subset
  refine aired_of_soon ?_ ?_ ?_ ?_ ?_
  · exact fun other member => aired.soon looping ready other (stays member)
  · exact aired.spent_of_leaves flights ended (Nat.le_max_left _ _)
  · cases departure with
    | returned outcome => exact absurd rfl (failed outcome)
    | aborted | crashed => simp [Run.decision?]
  · simp
  · exact aired.active looping

theorem Aired.dispatch {index : Nat} {command : Command} {client : σ} (aired : machine.Aired)
    (phase : machine.run.phase = .dispatching) :
    Aired ⟨machine.clock,
      (machine.run.dispatch setup machine.clock index command machine.client).1, client⟩ := by
  have looping : machine.run.isLooping = true := by simp [Run.isLooping, phase]
  refine aired_of_soon ?_ ?_ ?_ ?_ ?_
  · intro flight member
    rw [Run.inFlight_dispatch, List.mem_append, List.mem_singleton] at member
    rcases member with old | rfl
    · exact aired.ahead looping flight old
    · exact Plan.now_le_endsAt _ _ _ _
  · rw [Run.inFlight_dispatch, Run.lastEnd_dispatch]
    rcases Nat.le_total (Run.performance setup machine.clock command machine.client).endsAt
        machine.run.lastEnd with within | beyond
    · rw [Nat.max_eq_left within]
      rcases aired.spent with spent | ⟨flight, member, isLast⟩
      · exact .inl spent
      · exact .inr ⟨flight, List.mem_append_left _ member, isLast⟩
    · rw [Nat.max_eq_right beyond]
      exact .inr ⟨_, List.mem_append_right _ List.mem_cons_self, rfl⟩
  · simp [Run.decision?, Run.dispatch_phase, phase]
  · simp [Run.dispatch_phase, phase]
  · exact aired.active looping

theorem aired_of_left (spent : next.run.lastEnd ≤ next.clock)
    (landed : next.run.decision? ≠ none → next.run.inFlight = [])
    (unlooping : next.run.isLooping = false)
    (left : ∀ departure, next.run.phase ≠ .leaving departure)
    (drains : next.run.phase = .draining → next.run.stop.requested = true)
    (reported : next.run.isActive = false → ∃ outcome, next.run.phase = .ended outcome) :
    next.Aired :=
  ⟨fun looping => by simp [unlooping] at looping, fun departure leaving =>
    absurd leaving (left departure), .inl spent, landed, drains, reported⟩

theorem Aired.depart {departure : Departure} (aired : machine.Aired)
    (phase : machine.run.phase = .leaving departure) :
    Aired ⟨max machine.clock machine.run.lastEnd, machine.run.depart departure,
      machine.client⟩ := by
  have alike := Run.alike_depart machine.run departure
  have active : machine.run.isActive = true := by
    cases active : machine.run.isActive with
    | true => rfl
    | false =>
      obtain ⟨outcome, ended⟩ := aired.reported active
      simp [phase] at ended
  refine aired_of_left ?_ ?_ (Run.isLooping_depart _ _) ?_ ?_ ?_
  · rw [alike.lastEnd]
    exact Nat.le_max_right _ _
  · rw [alike.inFlight]
    cases departure with
    | returned outcome => exact fun _ => aired.landed (by simp [Run.decision?, phase])
    | aborted | crashed => simp [Run.depart, Run.decision?]
  · cases departure <;> simp [Run.depart]
  · cases departure <;> simp [Run.depart]
  · cases departure with
    | returned outcome => exact fun _ => ⟨outcome, rfl⟩
    | aborted | crashed =>
      intro inactive
      have still : machine.run.isActive = false := inactive
      simp [active] at still

theorem Aired.move (aired : machine.Aired) (timely : machine.Timely)
    (move : machine.Move setup next) : next.Aired := by
  cases move with
  | begin phase short =>
    have looping : machine.run.isLooping = true := by simp [Run.isLooping, phase]
    exact aired_of_soon (aired.ahead looping) aired.spent (by simp [Run.decision?]) (by simp)
      (aired.active looping)
  | overflow phase long =>
    have looping : machine.run.isLooping = true := by simp [Run.isLooping, phase]
    exact aired_of_soon (aired.ahead looping) aired.spent (by simp [Run.decision?]) (by simp)
      (aired.active looping)
  | dispatch phase allowed found => exact aired.dispatch phase
  | turn phase taken =>
    have looping : machine.run.isLooping = true := by simp [Run.isLooping, phase]
    have alike := Run.alike_turn setup machine.clock machine.run
    refine aired_of_soon ?_ ?_ ?_ (Run.phase_turn_ne _ _ _) ?_
    · rw [alike.inFlight]
      exact aired.ahead looping
    · rw [alike.inFlight, alike.lastEnd]
      exact aired.spent
    · rw [alike.inFlight]
      exact Run.inFlight_of_decision?_turn
    · rw [Run.isActive_turn]
      exact aired.active looping
  | land ready waits popped known completed =>
    exact aired.land ready (isLooping_of_waits waits) popped completed
  | lose ready waits popped lost =>
    refine aired.lose ready (isLooping_of_waits waits) popped ?_
    rintro outcome rfl
    rcases lost with ⟨-, crashes⟩ | ⟨result, -, aborts, -⟩
    · simp at crashes
    · simp at aborts
  | wake ready waits nothing busy =>
    have looping := isLooping_of_waits waits
    exact aired_of_soon (aired.soon looping ready) (aired.spent_of_le (Nat.le_max_left _ _))
      (by simp [Run.decision?]) (by simp) (aired.active looping)
  | quit ready waits idle =>
    have looping := isLooping_of_waits waits
    exact aired_of_soon (aired.soon looping ready) (aired.spent_of_le (Nat.le_max_left _ _))
      (fun _ => by simpa using idle.1) (by simp) (aired.active looping)
  | depart phase => exact aired.depart phase
  | @drain flight rest drained phase first completed =>
    obtain ⟨command, completion⟩ := Run.completion_of_complete? completed
    have drains : drained.phase = .draining := completion.phase.trans phase
    refine aired_of_left ?_ ?_ ?_ ?_ ?_ ?_
    · rw [completion.lastEnd]
      exact timely.drained phase
    · simp [Run.decision?, drains]
    · simp [Run.isLooping, drains]
    · simp [drains]
    · exact fun _ => Run.requested_complete? completed (aired.drains phase)
    · intro inactive
      rw [Run.isActive_of_complete? completed] at inactive
      obtain ⟨outcome, ended⟩ := aired.reported inactive
      simp [phase] at ended
  | skip phase first failed =>
    refine aired_of_left (timely.drained phase) ?_ ?_ ?_ (fun _ => aired.drains phase)
      aired.reported
    · simp [Run.decision?, phase]
    · simp [Run.isLooping, phase]
    · simp [phase]
  | finish phase empty =>
    exact aired_of_left (timely.drained phase) (fun _ => empty) rfl (by simp) (by simp)
      fun _ => ⟨_, rfl⟩

theorem Aired.wait {time : Nat} (aired : machine.Aired) (later : machine.clock ≤ time)
    (idle : machine.step? setup time = none) : Aired { machine with clock := time } := by
  have early := step?_eq_none_iff.mp idle
  refine ⟨?_, ?_, aired.spent_of_le later, aired.landed, aired.drains, aired.reported⟩
  · intro looping flight member
    rcases Run.readyAt?_of_looping looping with now | ⟨deadline, moment, -, ready, -⟩
    · exact absurd (early 0 now) (Nat.not_lt_zero _)
    · exact Nat.le_trans (Nat.le_of_lt (early moment ready))
        (Run.readyAt?_le_endsAt looping ready member)
  · intro departure leaving some
    -- Time passes only before the last end, so that this is the end of a flight.
    have before := early machine.run.lastEnd (by
      change machine.run.phase = .leaving departure at leaving
      simp [Run.readyAt?, leaving])
    rcases aired.spent with past | ⟨flight, member, isLast⟩
    · omega
    · exact ⟨flight, member, by simp only; omega⟩

theorem Aired.happens (aired : machine.Aired) (timely : machine.Timely)
    (happens : machine.Happens setup next) : next.Aired := by
  cases happens with
  | step horizon due => exact aired.move timely (move_of_step due)
  | wait time later idle => exact aired.wait later idle
  | cancel =>
    have alike := Run.alike_cancel machine.run
    refine ⟨?_, ?_, ?_, ?_, ?_, ?_⟩
    · rw [Run.isLooping, Run.phase_cancel, alike.inFlight]
      exact aired.ahead
    · rw [Run.phase_cancel, alike.inFlight]
      exact aired.aloft
    · rw [alike.lastEnd, alike.inFlight]
      exact aired.spent
    · rw [Run.decision?, Run.phase_cancel, alike.inFlight]
      exact aired.landed
    · rw [Run.phase_cancel]
      exact fun draining => Run.requested_cancel (aired.drains draining)
    · rw [Run.phase_cancel]
      intro inactive
      refine aired.reported ?_
      simp only [Run.cancel] at inactive
      split at inactive <;> exact inactive
  | fail looping =>
    exact aired_of_soon (aired.ahead looping) aired.spent (by simp [Run.decision?]) (by simp)
      (aired.active looping)
  | share client =>
    exact ⟨aired.ahead, aired.aloft, aired.spent, aired.landed, aired.drains, aired.reported⟩
  | register callback =>
    exact ⟨aired.ahead, aired.aloft, aired.spent, aired.landed, aired.drains, aired.reported⟩
  | report ended unreported =>
    exact ⟨aired.ahead, aired.aloft, aired.spent, aired.landed, aired.drains,
      fun _ => ⟨_, ended⟩⟩
  | finish reported =>
    exact ⟨aired.ahead, aired.aloft, aired.spent, aired.landed, aired.drains, aired.reported⟩

end aired

theorem aired_start (clock : Nat) (commands : List Command) (limit throttle : Nat) (client : σ) :
    (start clock commands limit throttle client).Aired := by
  constructor <;> simp [start, Run.isActive]

theorem Reaches.aired {setup : Setup σ} {clock limit throttle : Nat} {client : σ}
    {commands : List Command} {machine : Machine σ}
    (reached : (start clock commands limit throttle client).Reaches setup machine) :
    machine.Aired := by
  induction reached with
  | refl => exact aired_start clock commands limit throttle client
  | tail before happens aired => exact aired.happens (Reaches.timely before) happens

/-! ## Nothing gets lost -/

-- Without `recovers` a flight could break the loop off and leave its command running for ever.
structure Accounted (machine : Machine σ) : Prop where
  manned : ∀ {index : Nat} {command : Command}, machine.run.commands[index]? = some command →
    command.status = .running → ∃ flight ∈ machine.run.inFlight, flight.index = index
  recovers : ∀ {flight : Flight}, flight ∈ machine.run.inFlight → flight.result ≠ none
  uncrashed : machine.run.phase ≠ .crashed ∧ machine.run.phase ≠ .leaving .crashed

section accounted

variable {setup : Setup σ} {first : List Command} {machine next : Machine σ}

theorem complete?_ne_none (tracked : machine.run.Tracked first) {flight : Flight} {run : Run}
    {now : Nat} {result : CommandResult} (member : flight ∈ machine.run.inFlight)
    (commands : run.commands = machine.run.commands) :
    run.complete? setup.listener now flight.index result ≠ none := by
  obtain ⟨-, command, found, running⟩ := tracked.aloft member
  rw [← commands] at found
  have done := Run.complete?_isSome setup.listener now result run found running
  intro none
  simp [none] at done

theorem Accounted.not_lost (accounted : machine.Accounted) (tracked : machine.run.Tracked first)
    {flight : Flight} {rest : Run} {now : Nat} {departure : Departure}
    (popped : machine.run.popEnded? now = some (flight, rest)) :
    ¬ (flight.result = none ∧ departure = .crashed ∨
      ∃ result, flight.result = some result ∧ departure = .aborted ∧
        rest.complete? setup.listener now flight.index result = none) := by
  obtain ⟨before, after, flights, -, rfl⟩ := Run.popEnded?_spec popped
  have member := Run.mem_of_leaves flights
  rintro (⟨none, -⟩ | ⟨result, -, -, failed⟩)
  · exact accounted.recovers member none
  · exact absurd failed (complete?_ne_none tracked member rfl)

theorem Accounted.alike (accounted : machine.Accounted) (alike : machine.run.Alike next.run)
    (uncrashed : next.run.phase ≠ .crashed ∧ next.run.phase ≠ .leaving .crashed) :
    next.Accounted := by
  refine ⟨?_, ?_, uncrashed⟩
  · rw [alike.commands, alike.inFlight]
    exact accounted.manned
  · rw [alike.inFlight]
    exact accounted.recovers

theorem Accounted.dispatch {index : Nat} {command : Command} {client : σ}
    (accounted : machine.Accounted) (meets : setup.client.Meets Recovers)
    (found : machine.run.commands[index]? = some command) :
    Accounted ⟨machine.clock,
      (machine.run.dispatch setup machine.clock index command machine.client).1, client⟩ := by
  refine ⟨?_, ?_, accounted.uncrashed⟩
  · intro position other there running
    rw [Run.commands_dispatch] at there
    rw [Run.inFlight_dispatch]
    rcases Run.cases_of_sent found there with ⟨here, -⟩ | ⟨-, was⟩
    · exact ⟨_, List.mem_append_right _ List.mem_cons_self, here.symm⟩
    · obtain ⟨flight, aloft, same⟩ := accounted.manned was running
      exact ⟨flight, List.mem_append_left _ aloft, same⟩
  · intro flight member
    rw [Run.inFlight_dispatch, List.mem_append, List.mem_singleton] at member
    rcases member with old | rfl
    · exact accounted.recovers old
    · exact Run.settle_performance_ne_none meets _ _ _

theorem Accounted.complete {flight : Flight} {before after : List Flight} {now : Nat}
    {command : Command} {result : CommandResult} {landed : Run} (accounted : machine.Accounted)
    (flights : machine.run.inFlight = before ++ flight :: after)
    (completion : Run.Completion now flight.index command result
      { machine.run with inFlight := before ++ after } landed)
    (same : landed.Alike { next.run with notBefore := landed.notBefore })
    (uncrashed : next.run.phase ≠ .crashed ∧ next.run.phase ≠ .leaving .crashed) :
    next.Accounted := by
  have inFlight : next.run.inFlight = before ++ after := same.inFlight.trans completion.inFlight
  have commands : next.run.commands =
      Run.afterCompletion flight.index command result machine.run.commands :=
    same.commands.trans completion.commands
  refine ⟨?_, ?_, uncrashed⟩
  · intro position other there running
    rw [commands] at there
    rcases Run.cases_of_completed completion.found there with ⟨-, rfl⟩ | ⟨elsewhere, old, was, rfl⟩
    · simp at running
    · rw [Run.status_redirected] at running
      obtain ⟨aloft, member, same⟩ := accounted.manned was running
      refine ⟨aloft, ?_, same⟩
      have another : aloft ≠ flight := by
        rintro rfl
        exact elsewhere same.symm
      rw [flights, List.mem_append, List.mem_cons] at member
      rw [inFlight, List.mem_append]
      exact member.imp_right fun either => either.resolve_left another
  · intro other member
    rw [inFlight] at member
    exact accounted.recovers ((Run.sublist_of_leaves flights).subset member)

theorem uncrashed_of_looping (looping : next.run.isLooping = true) :
    next.run.phase ≠ .crashed ∧ next.run.phase ≠ .leaving .crashed := by
  constructor <;> intro crashed <;> simp [Run.isLooping, crashed] at looping

theorem Accounted.move (accounted : machine.Accounted) (tracked : machine.run.Tracked first)
    (meets : setup.client.Meets Recovers) (move : machine.Move setup next) : next.Accounted := by
  cases move with
  | begin phase short => exact accounted.alike (Run.alike_update _ _ _ _ _ _) (by simp)
  | overflow phase long => exact accounted.alike (Run.alike_update _ _ _ _ _ _) (by simp)
  | dispatch phase allowed found => exact accounted.dispatch meets found
  | turn phase taken =>
    refine accounted.alike (Run.alike_turn _ _ _) ?_
    simp only [Run.turn]
    split
    · simp
    · split <;> simp
  | @land time flight result rest landed ready waits popped known completed =>
    obtain ⟨before, after, flights, -, rfl⟩ := Run.popEnded?_spec popped
    obtain ⟨command, completion⟩ := Run.completion_of_complete? completed
    exact accounted.complete flights completion ⟨rfl, rfl, rfl, rfl, rfl, rfl, rfl, rfl, rfl⟩
      (uncrashed_of_looping (Run.isLooping_resumed _ _))
  | lose ready waits popped lost => exact absurd lost (accounted.not_lost tracked popped)
  | wake ready waits nothing busy =>
    exact accounted.alike (Run.alike_update _ _ _ _ _ _) (by simp)
  | quit ready waits idle => exact accounted.alike (Run.alike_update _ _ _ _ _ _) (by simp)
  | @depart departure phase =>
    refine accounted.alike (Run.alike_depart _ _) ?_
    cases departure with
    | returned outcome => simp [Run.depart]
    | aborted => simp [Run.depart]
    | crashed => exact absurd phase accounted.uncrashed.2
  | @drain flight rest drained phase first completed =>
    obtain ⟨command, completion⟩ := Run.completion_of_complete? completed
    have flights : machine.run.inFlight = [] ++ flight :: rest := first
    refine accounted.complete flights completion (.refl _) ?_
    have drains : drained.phase = .draining := completion.phase.trans phase
    simp [drains]
  | skip phase first failed =>
    refine absurd failed (complete?_ne_none tracked ?_ rfl)
    rw [first]
    exact List.mem_cons_self
  | finish phase empty => exact accounted.alike (Run.alike_update _ _ _ _ _ _) (by simp)

theorem Accounted.happens (accounted : machine.Accounted) (tracked : machine.run.Tracked first)
    (meets : setup.client.Meets Recovers) (happens : machine.Happens setup next) :
    next.Accounted := by
  cases happens with
  | step horizon due => exact accounted.move tracked meets (move_of_step due)
  | wait time later idle => exact accounted.alike (.refl _) accounted.uncrashed
  | cancel =>
    refine accounted.alike (Run.alike_cancel _) ?_
    rw [Run.phase_cancel]
    exact accounted.uncrashed
  | fail looping => exact accounted.alike (Run.alike_update _ _ _ _ _ _) (by simp)
  | share client => exact accounted.alike (.refl _) accounted.uncrashed
  | register callback =>
    exact accounted.alike (Run.alike_update _ _ _ _ _ _) accounted.uncrashed
  | report ended unreported =>
    exact accounted.alike (Run.alike_update _ _ _ _ _ _) accounted.uncrashed
  | finish reported =>
    exact accounted.alike (Run.alike_update _ _ _ _ _ _) accounted.uncrashed

end accounted

theorem accounted_start (clock limit throttle : Nat) (client : σ) {commands : List Command}
    (startable : Startable commands) :
    (start clock commands limit throttle client).Accounted := by
  constructor
  · intro index command found running
    rcases startable command (List.mem_of_getElem? found) with status | status
    all_goals simp [status] at running
  · simp [start]
  · simp [start]

theorem Reaches.accounted {setup : Setup σ} {clock limit throttle : Nat} {client : σ}
    {commands : List Command} {machine : Machine σ}
    (reached : (start clock commands limit throttle client).Reaches setup machine)
    (startable : Startable commands) (meets : setup.client.Meets Recovers) :
    machine.Accounted := by
  induction reached with
  | refl => exact accounted_start clock limit throttle client startable
  | tail before happens accounted =>
    exact accounted.happens (Reaches.tracked before) meets happens

theorem sparing_meets_recovers : sparing.client.Meets Recovers := by
  intro now call state
  cases call with
  | createEntity site page =>
    simp only [sparing]
    split <;> simp [Recovers]
  | _ => simp [sparing, Recovers]

end Machine

end EditBatch
