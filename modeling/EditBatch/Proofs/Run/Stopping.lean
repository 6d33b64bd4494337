import EditBatch.Proofs.Run.Flights

/-! Runs that have been asked to stop.

Nothing is sent off from then on. What is in flight lands, one flight after the other, and each
landing does to commands and ids what it always does. The run waits for nothing else, so that
it ends when the last flight does.
-/

set_option autoImplicit false

namespace EditBatch

open Execution

namespace Run

variable {σ : Type}

/-! ## Landings -/

/-- What becomes of the commands as flights land one after the other. -/
def absorb (commands : List Command) (landings : List Flight) : List Command :=
  landings.foldl
    (fun commands flight =>
      match commands[flight.index]? with
      | some command => afterCompletion flight.index command flight.outcome commands
      | none => commands)
    commands

def noted {α : Type} (note? : Command → CommandResult → Option α) (commands : List Command)
    (flight : Flight) : Option α :=
  commands[flight.index]?.bind (note? · flight.outcome)

theorem absorb_concat {commands : List Command} {landings : List Flight} {flight : Flight}
    {command : Command} (found : (absorb commands landings)[flight.index]? = some command) :
    absorb commands (landings ++ [flight]) =
      afterCompletion flight.index command flight.outcome (absorb commands landings) := by
  unfold absorb at found ⊢
  rw [List.foldl_append, List.foldl_cons, List.foldl_nil, found]

theorem getElem?_absorb {commands : List Command} {landings : List Flight} {index : Nat}
    {after : Command} (is : (absorb commands landings)[index]? = some after) :
    ∃ before, commands[index]? = some before ∧ after =
      { before with
        status := if index ∈ landings.map (·.index) then .done else before.status
        entityRef := after.entityRef } := by
  induction landings generalizing commands with
  | nil => exact ⟨after, is, rfl⟩
  | cons flight rest ih =>
    rw [absorb, List.foldl_cons, ← absorb] at is
    obtain ⟨middle, was, same⟩ := ih is
    cases found : commands[flight.index]? with
    | none =>
      have elsewhere : index ≠ flight.index := by
        rintro rfl
        simp [found] at was
      simp only [found] at was
      refine ⟨middle, was, ?_⟩
      rw [same]
      simp [elsewhere]
    | some command =>
      simp only [found] at was
      rcases cases_of_completed found was with ⟨rfl, rfl⟩ | ⟨elsewhere, before, there, rfl⟩
      · refine ⟨command, found, ?_⟩
        rw [same]
        simp
      · refine ⟨before, there, ?_⟩
        rw [same, redirected_eq]
        simp [elsewhere]

-- A command in flight keeps its mode and its id, so that it does not matter which of its states a
-- note is taken from.
/-- All that has happened to a run is that flights have landed. -/
structure Absorbed (origin : Run) (landings : List Flight) (run : Run) : Prop where
  flights : (landings ++ run.inFlight).Perm origin.inFlight
  commands : run.commands = absorb origin.commands landings
  createdIds : run.createdIds =
    origin.createdIds ++ landings.filterMap (noted replacement? origin.commands)
  failedIds : run.failedIds =
    origin.failedIds ++ landings.filterMap (noted failedId? origin.commands)
  told : ∃ events, run.history = origin.history ++ events ∧
    events.map RunEvent.outcome? =
      landings.map fun flight => some (flight.index, flight.outcome)

theorem Absorbed.refl (run : Run) : run.Absorbed [] run :=
  ⟨.refl _, rfl, by simp, by simp, [], by simp, rfl⟩

theorem Absorbed.alike {origin run next : Run} {landings : List Flight}
    (absorbed : origin.Absorbed landings run) (alike : run.Alike next) :
    origin.Absorbed landings next := by
  refine ⟨?_, alike.commands.trans absorbed.commands,
    alike.createdIds.trans absorbed.createdIds, alike.failedIds.trans absorbed.failedIds, ?_⟩
  · rw [alike.inFlight]
    exact absorbed.flights
  · rw [alike.history]
    exact absorbed.told

theorem Absorbed.complete {origin run next landed : Run} {landings before after : List Flight}
    {flight : Flight} {command : Command} {now : Nat} (absorbed : origin.Absorbed landings run)
    (flights : run.inFlight = before ++ flight :: after)
    (completion : Completion now flight.index command flight.outcome
      { run with inFlight := before ++ after } landed)
    (same : landed.Alike { next with notBefore := landed.notBefore }) :
    origin.Absorbed (landings ++ [flight]) next := by
  have found : run.commands[flight.index]? = some command := completion.found
  rw [absorbed.commands] at found
  obtain ⟨first, there, held⟩ := getElem?_absorb found
  have note {α : Type} {note? : Command → CommandResult → Option α}
      (congr : note? command flight.outcome = note? first flight.outcome) :
      [flight].filterMap (noted note? origin.commands) =
        (note? command flight.outcome).toList := by
    rw [List.filterMap_cons, noted, there, Option.bind_some, congr, List.filterMap_nil]
    cases note? first flight.outcome <;> rfl
  constructor
  · have inFlight : next.inFlight = before ++ after := same.inFlight.trans completion.inFlight
    refine List.Perm.trans ?_ absorbed.flights
    rw [inFlight, flights, List.append_assoc, List.singleton_append]
    exact List.Perm.append_left landings List.perm_middle.symm
  · rw [absorb_concat found, ← absorbed.commands]
    exact same.commands.trans completion.commands
  · rw [List.filterMap_append, ← List.append_assoc, ← absorbed.createdIds,
      note (replacement?_congr (by rw [held]) _)]
    exact same.createdIds.trans completion.createdIds
  · rw [List.filterMap_append, ← List.append_assoc, ← absorbed.failedIds,
      note (failedId?_congr (by rw [held]) _)]
    exact same.failedIds.trans completion.failedIds
  · obtain ⟨events, history, outcomes⟩ := absorbed.told
    refine ⟨events ++ [.completed now flight.index flight.outcome command.entityRef], ?_, ?_⟩
    · rw [← List.append_assoc, ← history]
      exact same.history.trans completion.history
    · rw [List.map_append, List.map_append, outcomes]
      rfl

theorem Absorbed.completions {origin run : Run} {landings : List Flight}
    (absorbed : origin.Absorbed landings run) :
    ∃ events, run.history = origin.history ++ events ∧
      ∀ event ∈ events, ∃ time index result ref, event = .completed time index result ref := by
  obtain ⟨events, history, outcomes⟩ := absorbed.told
  refine ⟨events, history, ?_⟩
  intro event member
  have completes : event.outcome? ∈ events.map RunEvent.outcome? := List.mem_map_of_mem member
  rw [outcomes, List.mem_map] at completes
  obtain ⟨flight, -, isOutcome⟩ := completes
  cases event with
  | completed time index result ref => exact ⟨time, index, result, ref, rfl⟩
  | dispatched | called => simp [RunEvent.outcome?] at isOutcome

/-! ## What the loop does about a request to stop -/

theorem dispatchable?_of_stopped {run : Run} (stopped : run.stop.requested = true) (now : Nat) :
    run.dispatchable? now = none := by
  unfold dispatchable?
  rw [if_neg]
  simp [stopped]

theorem readyAt?_le_lastEnd {run : Run} {time : Nat} (stopped : run.stop.requested = true)
    (ending : ∀ flight ∈ run.inFlight, flight.endsAt ≤ run.lastEnd)
    (ready : run.readyAt? = some time) : time ≤ run.lastEnd := by
  cases phase : run.phase with
  | created | dispatching | completing | draining =>
    simp only [readyAt?, phase, Option.some.injEq] at ready
    omega
  | blocked deadline =>
    have looping : run.isLooping = true := by simp [isLooping, phase]
    cases flights : run.inFlight with
    | nil =>
      simp only [readyAt?, phase, earliestEnd, flights, List.map_nil, List.min?_nil,
        StopFlag.wakesAt, stopped, if_true, Option.some.injEq] at ready
      omega
    | cons flight rest =>
      have member : flight ∈ run.inFlight := by
        rw [flights]
        exact List.mem_cons_self
      exact Nat.le_trans (readyAt?_le_endsAt looping ready member) (ending flight member)
  | leaving departure =>
    simp only [readyAt?, phase, Option.some.injEq] at ready
    omega
  | ended outcome | crashed => simp [readyAt?, phase] at ready

end Run

namespace Machine

variable {σ : Type}

section stopped

variable {setup : Setup σ} {first : List Command} {machine next : Machine σ}

theorem Move.stopped (move : machine.Move setup next)
    (stopped : machine.run.stop.requested = true) : next.run.stop.requested = true := by
  cases move with
  | begin | overflow | wake | quit | skip | finish => exact stopped
  | dispatch phase allowed found => exact Run.requested_notify stopped _ _
  | turn =>
    rw [Run.stop_turn]
    exact stopped
  | @land time flight result rest landed ready waits popped known completed =>
    obtain ⟨before, after, -, -, rfl⟩ := Run.popEnded?_spec popped
    exact show landed.stop.requested = true from Run.requested_complete? completed stopped
  | lose ready waits popped lost =>
    obtain ⟨before, after, -, -, rfl⟩ := Run.popEnded?_spec popped
    exact stopped
  | @depart departure phase =>
    cases departure with
    | returned outcome | crashed => exact stopped
    | aborted => rfl
  | drain phase first completed => exact Run.requested_complete? completed stopped

theorem Happens.stopped (happens : machine.Happens setup next)
    (stopped : machine.run.stop.requested = true) : next.run.stop.requested = true := by
  cases happens with
  | step horizon due => exact (move_of_step due).stopped stopped
  | cancel => exact Run.requested_cancel stopped
  | wait | fail | share | register | report | finish => exact stopped

-- A lost flight is ruled out by what is known of flights, a dispatch by the request.
/-- All that can happen to a run that has been asked to stop. -/
theorem Happens.lands (happens : machine.Happens setup next) (timely : machine.Timely)
    (tracked : machine.run.Tracked first) (accounted : machine.Accounted)
    (stopped : machine.run.stop.requested = true) :
    machine.run.Alike next.run ∨
      ∃ (flight : Flight) (before after : List Flight) (command : Command) (landed : Run),
        machine.run.inFlight = before ++ flight :: after ∧ flight.endsAt ≤ next.clock ∧
        Run.Completion next.clock flight.index command flight.outcome
          { machine.run with inFlight := before ++ after } landed ∧
        landed.Alike { next.run with notBefore := landed.notBefore } := by
  cases transition_of_happens happens with
  | dispatch phase allowed found clock sent =>
    rw [Run.dispatchable?_of_stopped stopped] at allowed
    simp at allowed
  | @land flight result command rest landed later popped known completion same paused left =>
    obtain ⟨before, after, flights, ended, rfl⟩ := Run.popEnded?_spec popped
    have outcome : flight.outcome = result := by
      rw [Flight.outcome, known, Option.getD_some]
    subst outcome
    exact .inr ⟨flight, before, after, command, landed, flights, ended, completion, same⟩
  | @lose flight rest later popped lost same left =>
    obtain ⟨before, after, flights, -, rfl⟩ := Run.popEnded?_spec popped
    have member := Run.mem_of_leaves flights
    obtain ⟨-, command, found, running⟩ := tracked.aloft member
    rcases lost with none | idle
    · exact absurd none (accounted.recovers member)
    · exact absurd running (idle command found)
  | @drain flight rest result command phase clock leads known completion =>
    subst known
    have member : flight ∈ machine.run.inFlight := by
      rw [leads]
      exact List.mem_cons_self
    have ended := Nat.le_trans (timely.ending member) (timely.drained phase)
    rw [← clock] at completion ended
    exact .inr ⟨flight, [], rest, command, next.run, leads, ended, completion, .refl _⟩
  | @skip flight rest phase clock leads lost same =>
    have member : flight ∈ machine.run.inFlight := by
      rw [leads]
      exact List.mem_cons_self
    obtain ⟨-, command, found, running⟩ := tracked.aloft member
    exact absurd running (lost command found)
  | pass later same drained => exact .inl same

theorem Move.decision?_of_stopped (move : machine.Move setup next)
    (stopped : machine.run.stop.requested = true)
    (decided : ∀ outcome, machine.run.decision? = some outcome → outcome = .stopped) :
    ∀ outcome, next.run.decision? = some outcome → outcome = .stopped := by
  intro outcome comes
  cases move with
  | begin | overflow | wake => simp [Run.decision?] at comes
  | dispatch phase => simp [Run.decision?, Run.dispatch_phase, phase] at comes
  | turn =>
    unfold Run.turn at comes
    split at comes
    · exact (Option.some.inj comes).symm
    next busy =>
      split at comes
      next idle => exact absurd ⟨idle.1, stopped⟩ busy
      · simp [Run.decision?] at comes
  | @land time _ _ _ landed =>
    have on := Run.isLooping_resumed (max machine.clock time) landed
    simp [Run.decision?_of_looping on] at comes
  | lose ready waits popped lost =>
    rcases lost with ⟨-, rfl⟩ | ⟨result, -, rfl, -⟩ <;> simp [Run.decision?] at comes
  | quit | finish => exact (Option.some.inj comes).symm
  | @depart departure phase =>
    cases departure with
    | returned former =>
      have same : former = outcome := Option.some.inj comes
      exact decided outcome (by simp [Run.decision?, phase, same])
    | aborted | crashed => simp [Run.depart, Run.decision?] at comes
  | drain phase first completed =>
    obtain ⟨command, completion⟩ := Run.completion_of_complete? completed
    simp [Run.decision?, completion.phase, phase] at comes
  | skip phase => simp [Run.decision?, phase] at comes

end stopped

/-! ## From the request on -/

section asked

variable {setup : Setup σ} {clock limit throttle : Nat} {client : σ} {commands : List Command}
  {origin machine : Machine σ}

theorem Reaches.absorbed (later : origin.Reaches setup machine)
    (reached : (start clock commands limit throttle client).Reaches setup origin)
    (startable : Startable commands) (meets : setup.client.Meets Recovers)
    (stopped : origin.run.stop.requested = true) :
    machine.run.stop.requested = true ∧ ∃ landings, origin.run.Absorbed landings machine.run ∧
      ∀ flight ∈ landings, flight.endsAt ≤ machine.clock := by
  induction later with
  | refl => exact ⟨stopped, [], .refl _, by simp⟩
  | @tail machine next before happens ih =>
    obtain ⟨stopped, landings, absorbed, past⟩ := ih
    have sofar := Relation.ReflTransGen.trans reached before
    have later := happens.later
    refine ⟨happens.stopped stopped, ?_⟩
    rcases happens.lands (Reaches.timely sofar) (Reaches.tracked sofar)
        (Reaches.accounted sofar startable meets) stopped with
      same | ⟨flight, former, latter, command, landed, flights, ended, completion, same⟩
    · exact ⟨landings, absorbed.alike same,
        fun flight member => Nat.le_trans (past flight member) later⟩
    · refine ⟨landings ++ [flight], absorbed.complete flights completion same, ?_⟩
      intro other member
      rcases List.mem_append.mp member with old | new
      · exact Nat.le_trans (past other old) later
      · exact List.mem_singleton.mp new ▸ ended

theorem Happens.lastEnd (happens : origin.Happens setup machine)
    (reached : (start clock commands limit throttle client).Reaches setup origin)
    (startable : Startable commands) (meets : setup.client.Meets Recovers)
    (stopped : origin.run.stop.requested = true) : machine.run.lastEnd = origin.run.lastEnd := by
  rcases happens.lands (Reaches.timely reached) (Reaches.tracked reached)
      (Reaches.accounted reached startable meets) stopped with
    same | ⟨flight, former, latter, command, landed, flights, ended, completion, same⟩
  · exact same.lastEnd
  · exact same.lastEnd.trans completion.lastEnd

/-- Left to itself, a run that has been asked to stop waits only until its last flight ends, and
then stops. -/
theorem Steps.stopping (steps : origin.Steps setup machine)
    (reached : (start clock commands limit throttle client).Reaches setup origin)
    (startable : Startable commands) (meets : setup.client.Meets Recovers)
    (stopped : origin.run.stop.requested = true) (undecided : origin.run.decision? = none) :
    machine.clock ≤ max origin.clock origin.run.lastEnd ∧
      machine.run.lastEnd = origin.run.lastEnd ∧
      ∀ outcome, machine.run.decision? = some outcome → outcome = .stopped := by
  induction steps with
  | refl => exact ⟨Nat.le_max_left _ _, rfl, by simp [undecided]⟩
  | @tail machine next before due ih =>
    obtain ⟨soon, same, decided⟩ := ih
    obtain ⟨horizon, due⟩ := due
    have sofar := Relation.ReflTransGen.trans reached (Steps.reaches before)
    have asked := ((Steps.reaches before).absorbed reached startable meets stopped).1
    have kept := Happens.lastEnd (.step horizon due) sofar startable meets asked
    refine ⟨?_, kept.trans same, (move_of_step due).decision?_of_stopped asked decided⟩
    obtain ⟨time, ready, -, rfl⟩ := step?_eq_some_iff.mp due
    have timely := Reaches.timely sofar
    have bound := Run.readyAt?_le_lastEnd asked (fun _ member => timely.ending member) ready
    simp only
    omega

theorem stops_of_stopped
    (reached : (start clock commands limit throttle client).Reaches setup origin)
    (startable : Startable commands) (meets : setup.client.Meets Recovers)
    (stopped : origin.run.stop.requested = true) (undecided : origin.run.decision? = none) :
    (origin.runToEnd setup).run.phase = .ended .stopped ∧
      (origin.runToEnd setup).run.inFlight = [] ∧
      ∀ horizon, (origin.runToEnd setup).clock ≤ horizon →
        origin.runUntil setup horizon = origin.runToEnd setup := by
  obtain ⟨steps, late⟩ := runToEnd_spec setup origin
  generalize origin.runToEnd setup = finish at steps late
  have asked := (steps.reaches.absorbed reached startable meets stopped).1
  have decided := (steps.stopping reached startable meets stopped undecided).2.2
  have reached := Relation.ReflTransGen.trans reached steps.reaches
  have timely := Reaches.timely reached
  have rests : finish.run.readyAt? = none := by
    cases ready : finish.run.readyAt? with
    | none => rfl
    | some time =>
      have soon := Run.readyAt?_le_lastEnd asked (fun _ member => timely.ending member) ready
      have after := late time ready
      unfold Run.nextMoment at after
      omega
  obtain ⟨outcome, ended⟩ : ∃ outcome, finish.run.phase = .ended outcome := by
    cases phase : finish.run.phase with
    | ended outcome => exact ⟨outcome, rfl⟩
    | crashed => exact absurd phase (Reaches.accounted reached startable meets).uncrashed.1
    | created | dispatching | completing | draining | leaving =>
      simp [Run.readyAt?, phase] at rests
    | blocked deadline =>
      have looping : finish.run.isLooping = true := by simp [Run.isLooping, phase]
      rcases Run.readyAt?_of_looping looping with now | ⟨_, time, -, ready, -⟩
      · simp [rests] at now
      · simp [rests] at ready
  have isStopped : outcome = .stopped := decided outcome (by simp [Run.decision?, ended])
  subst isStopped
  refine ⟨ended, (Reaches.aired reached).landed (by simp [Run.decision?, ended]), ?_⟩
  intro horizon later
  refine steps.runUntil_eq (fun horizon => step?_eq_none_iff.mpr ?_) later
  intro time ready
  simp [rests] at ready

end asked

/-! ## The moment of the request -/

-- Within a step only the listener and an aborted loop ask for a stop. The loop comes to its outcome
-- in steps of which the listener is not told.
theorem Move.undecided_of_asked {setup : Setup σ} {machine next : Machine σ}
    (move : machine.Move setup next) (unasked : machine.run.stop.requested = false)
    (asked : next.run.stop.requested = true) : next.run.decision? = none := by
  cases move with
  | begin | overflow | wake | quit | skip | finish =>
    exact absurd (unasked.symm.trans asked) Bool.false_ne_true
  | dispatch phase => simp only [Run.decision?, Run.dispatch_phase, phase]
  | turn =>
    rw [Run.stop_turn] at asked
    exact absurd (unasked.symm.trans asked) Bool.false_ne_true
  | @land time _ _ _ landed =>
    exact Run.decision?_of_looping (Run.isLooping_resumed (max machine.clock time) landed)
  | lose ready waits popped lost =>
    obtain ⟨before, after, -, -, rfl⟩ := Run.popEnded?_spec popped
    exact absurd (unasked.symm.trans asked) Bool.false_ne_true
  | @depart departure phase =>
    cases departure with
    | returned outcome | crashed => exact absurd (unasked.symm.trans asked) Bool.false_ne_true
    | aborted => rfl
  | drain phase first completed =>
    obtain ⟨command, completion⟩ := Run.completion_of_complete? completed
    simp only [Run.decision?, completion.phase, phase]

theorem Aired.aloft_of_depart {machine : Machine σ} {departure : Departure}
    (aired : machine.Aired) (phase : machine.run.phase = .leaving departure)
    (some : machine.run.inFlight ≠ []) :
    ∃ flight ∈ machine.run.inFlight, max machine.clock machine.run.lastEnd ≤ flight.endsAt := by
  obtain ⟨flight, member, later⟩ := aired.aloft departure phase some
  by_cases past : machine.run.lastEnd ≤ machine.clock
  · exact ⟨flight, member, by omega⟩
  · obtain ⟨last, among, isLast⟩ := aired.spent.resolve_left past
    exact ⟨last, among, by omega⟩

theorem Happens.departs {setup : Setup σ} {machine next : Machine σ}
    (happens : machine.Happens setup next) (before : machine.run.phase ≠ .draining)
    (after : next.run.phase = .draining) :
    ∃ departure, machine.run.phase = .leaving departure ∧
      next.run.inFlight = machine.run.inFlight ∧
      next.clock = max machine.clock machine.run.lastEnd := by
  cases happens with
  | step horizon due =>
    cases move_of_step due with
    | begin | overflow | wake | quit | finish => simp at after
    | dispatch phase => simp [Run.dispatch_phase, phase] at after
    | turn => exact absurd after (Run.phase_turn_ne _ _ _)
    | @land time _ _ _ landed =>
      have on := Run.isLooping_resumed (max machine.clock time) landed
      exact absurd after (Run.phase_ne_draining_of_looping on)
    | lose ready waits popped lost =>
      rcases lost with ⟨-, rfl⟩ | ⟨result, -, rfl, -⟩ <;> simp at after
    | @depart departure phase =>
      exact ⟨departure, phase, (Run.alike_depart _ departure).inFlight, rfl⟩
    | drain phase | skip phase => exact absurd phase before
  | cancel =>
    rw [Run.phase_cancel] at after
    exact absurd after before
  | fail => simp at after
  | wait | share | register | report | finish => exact absurd after before

theorem Aired.aloft_of_asked {setup : Setup σ} {machine next : Machine σ}
    (aired : machine.Aired) (after : next.Aired)
    (unasked : machine.run.stop.requested = false) (happens : machine.Happens setup next)
    (undecided : next.run.decision? = none) (uncrashed : next.run.phase ≠ .crashed)
    (some : next.run.inFlight ≠ []) :
    ∃ flight ∈ next.run.inFlight, next.clock ≤ flight.endsAt := by
  have undrained : machine.run.phase ≠ .draining := by
    intro draining
    simp [aired.drains draining] at unasked
  cases phase : next.run.phase with
  | created | dispatching | completing | blocked =>
    obtain ⟨flight, member⟩ := List.exists_mem_of_ne_nil _ some
    exact ⟨flight, member, after.ahead (by simp [Run.isLooping, phase]) flight member⟩
  | leaving departure => exact after.aloft departure phase some
  | ended outcome => simp [Run.decision?, phase] at undecided
  | crashed => exact absurd phase uncrashed
  | draining =>
    obtain ⟨departure, leaving, flights, clock⟩ := happens.departs undrained phase
    rw [flights] at some ⊢
    rw [clock]
    exact aired.aloft_of_depart leaving some

end Machine

end EditBatch
