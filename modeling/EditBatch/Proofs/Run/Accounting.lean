import EditBatch.Proofs.Run.Forecast
import EditBatch.Proofs.Run.Resumption

/-! What a run has on record about the commands that it has completed.

Each completion adds one to those that are done, and one id at most to the two lists. The outcome is
settled at the moment at which the loop is left for good, by whether the run has been asked to stop
by then.
-/

set_option autoImplicit false

namespace EditBatch

namespace Run

variable {σ : Type}

/-- Every completion is counted once, and its id stands in one list at most. -/
structure Balanced (first : List Command) (run : Run) : Prop where
  failedIds : run.failedIds = run.outcomes.filterMap (failedIn first)
  createdIds : run.createdIds = run.outcomes.filterMap (createdIn first)
  apart : ∀ told ∈ run.outcomes, failedIn first told = none ∨ createdIn first told = none
  once : ∀ (index : Nat) (command : Command), run.commands[index]? = some command →
    (run.outcomes.map Prod.fst).count index = if command.status = .done then 1 else 0
  done : run.progress.done = run.outcomes.length
  report : ∀ report, run.report = some report →
    report.done = run.outcomes.length ∧ report.total = first.length ∧
      report.createdIds = run.outcomes.filterMap (createdIn first) ∧
      report.failedIds = run.outcomes.filterMap (failedIn first)

theorem failedIn_or_createdIn (commands : List Command) (told : Nat × CommandResult) :
    failedIn commands told = none ∨ createdIn commands told = none := by
  unfold failedIn createdIn
  cases commands[told.1]? with
  | none => exact .inl rfl
  | some command =>
    cases told.2 with
    | success newId? => exact .inl rfl
    | failure kind message code => exact .inr rfl

theorem countP_isDone_afterCompletion {commands : List Command} {index : Nat} {command : Command}
    (found : commands[index]? = some command) (running : command.status = .running)
    (result : CommandResult) :
    (afterCompletion index command result commands).countP (·.isDone) =
      commands.countP (·.isDone) + 1 := by
  have same : Command.isDone ∘ redirected command result = Command.isDone := by
    funext other
    rw [Function.comp_apply, Command.isDone, status_redirected, Command.isDone]
  obtain ⟨bound, rfl⟩ := List.getElem?_eq_some_iff.mp found
  have undone : ¬ commands[index].isDone = true := by simp [Command.isDone, running]
  rw [afterCompletion, List.countP_map, same, List.countP_set bound, if_neg undone, Nat.sub_zero]
  rfl

theorem Change.done {setup : Setup σ} {now : Nat} {run next : Run}
    (change : run.Change setup now next) :
    next.progress.done + run.outcomes.length = run.progress.done + next.outcomes.length := by
  cases change with
  | none commands history => simp only [progress, outcomes, commands, history]
  | @dispatch index command client eligible found commands history =>
    have waiting := (Command.nextEligible?_spec eligible found).1
    obtain ⟨bound, rfl⟩ := List.getElem?_eq_some_iff.mp found
    rw [outcomes_of_dispatched history]
    simp [progress, commands, List.countP_set bound, Command.isDone, waiting]
  | @complete flight before after command found running commands history =>
    have more := countP_isDone_afterCompletion found running flight.outcome
    rw [outcomes_of_completed history, List.length_append, List.length_singleton]
    simp only [progress, commands, more]
    omega

theorem decision?_eq_some_iff {run : Run} {outcome : Outcome} :
    run.decision? = some outcome ↔
      run.phase = .leaving (.returned outcome) ∨ run.phase = .ended outcome := by
  unfold decision?
  split
  next former phase => simp [phase]
  next former phase => simp [phase]
  next unreturned unended =>
    constructor
    · simp
    · rintro (phase | phase)
      · exact absurd phase (unreturned outcome)
      · exact absurd phase (unended outcome)

/-- A run that has come to its outcome has completed if and only if it is not asked to stop. -/
def Judged (run : Run) : Prop :=
  ∀ outcome, run.decision? = some outcome → (outcome = .completed ↔ run.stop.requested = false)

end Run

namespace Machine

variable {σ : Type} {setup : Setup σ} {machine next : Machine σ}

theorem Move.judged (move : machine.Move setup next) (judged : machine.run.Judged)
    (drains : machine.run.phase = .draining → machine.run.stop.requested = true) :
    next.run.Judged := by
  intro outcome decided
  cases move with
  | begin | overflow | wake => simp [Run.decision?] at decided
  | dispatch phase => simp [Run.decision?, Run.dispatch_phase, phase] at decided
  | turn =>
    rw [Run.stop_turn]
    simp only [Run.turn] at decided
    split at decided
    next idle =>
      cases decided
      simp [idle]
    next busy =>
      split at decided
      next idle =>
        cases decided
        simpa [idle] using busy
      next => simp [Run.decision?] at decided
  | @land time _ _ _ landed =>
    have on := Run.isLooping_resumed (max machine.clock time) landed
    simp [Run.decision?_of_looping on] at decided
  | lose ready waits popped lost =>
    rcases lost with ⟨-, rfl⟩ | ⟨result, -, rfl, -⟩ <;> simp [Run.decision?] at decided
  | quit ready waits idle =>
    cases decided
    simp [idle]
  | @depart departure phase =>
    cases departure with
    | returned former =>
      have same : former = outcome := Option.some.inj decided
      exact judged outcome (by simp [Run.decision?, phase, same])
    | aborted | crashed => simp [Run.depart, Run.decision?] at decided
  | drain phase first completed =>
    obtain ⟨command, completion⟩ := Run.completion_of_complete? completed
    simp [Run.decision?, completion.phase, phase] at decided
  | skip phase => simp [Run.decision?, phase] at decided
  | finish phase =>
    cases decided
    simp [drains phase]

theorem Happens.judged (happens : machine.Happens setup next)
    (undecided : machine.run.decision? = none)
    (drains : machine.run.phase = .draining → machine.run.stop.requested = true) :
    next.run.Judged := by
  have unjudged : machine.run.Judged := fun outcome decided => by simp [undecided] at decided
  cases happens with
  | step horizon due => exact (move_of_step due).judged unjudged drains
  | wait | share | register | report | finish => exact unjudged
  | cancel =>
    intro outcome decided
    rw [Run.decision?, Run.phase_cancel] at decided
    exact absurd decided (by rw [← Run.decision?, undecided]; simp)
  | fail => exact fun outcome decided => by simp [Run.decision?] at decided

theorem Happens.decided {outcome : Outcome} (happens : machine.Happens setup next)
    (decided : machine.run.decision? = some outcome) : next.run.decision? = some outcome := by
  cases happens with
  | step horizon due =>
    obtain ⟨time, ready, -, rfl⟩ := step?_eq_some_iff.mp due
    rcases Run.decision?_eq_some_iff.mp decided with phase | phase
    · simp [Run.step, phase, Run.depart, Run.decision?]
    · simp [Run.readyAt?, phase] at ready
  | wait | share | register | report | finish => exact decided
  | cancel =>
    rw [Run.decision?, Run.phase_cancel]
    exact decided
  | fail looping => simp [Run.decision?_of_looping looping] at decided

section reached

variable {clock limit throttle : Nat} {client : σ} {commands : List Command}

/-- A run comes to its outcome at one moment, and by the stop flag at that moment. -/
theorem Reaches.decided {outcome : Outcome}
    (reached : (start clock commands limit throttle client).Reaches setup machine)
    (decided : machine.run.decision? = some outcome) :
    ∃ before after : Machine σ,
      (start clock commands limit throttle client).Reaches setup before ∧
      before.run.decision? = none ∧ before.Happens setup after ∧
      after.run.decision? = some outcome ∧
      (outcome = .completed ↔ after.run.stop.requested = false) ∧ after.Reaches setup machine := by
  induction reached with
  | refl => simp [start, Run.decision?] at decided
  | @tail before after reached happens ih =>
    cases former : before.run.decision? with
    | none =>
      have judged := happens.judged former (Reaches.aired reached).drains
      exact ⟨before, after, reached, former, happens, decided, judged outcome decided, .refl⟩
    | some known =>
      obtain rfl : known = outcome :=
        Option.some.inj ((happens.decided former).symm.trans decided)
      obtain ⟨first, second, toFirst, undecided, moment, settled, judged, later⟩ := ih former
      exact ⟨first, second, toFirst, undecided, moment, settled, judged, later.tail happens⟩

theorem Steps.judged
    (reached : (start clock commands limit throttle client).Reaches setup machine)
    (steps : machine.Steps setup next) (judged : machine.run.Judged) : next.run.Judged := by
  induction steps with
  | refl => exact judged
  | tail steps due ih =>
    obtain ⟨horizon, due⟩ := due
    exact (move_of_step due).judged ih (Reaches.aired (reached.trans (Steps.reaches steps))).drains

theorem Reaches.balanced
    (reached : (start clock commands limit throttle client).Reaches setup machine)
    (waiting : ∀ command ∈ commands, command.status = .waiting) :
    machine.run.Balanced commands := by
  obtain ⟨createdIds, failedIds⟩ := reached.ids
  have tracked := reached.tracked
  have none : commands.countP (·.isDone) = 0 := by
    rw [List.countP_eq_zero]
    intro command member
    simp [Command.isDone, waiting command member]
  have done : machine.run.progress.done = machine.run.outcomes.length := by
    refine reached.invariant
      (fun machine => machine.run.progress.done = machine.run.outcomes.length) none ?_
    intro machine next happens even
    have change := happens.change.done
    omega
  refine ⟨failedIds, createdIds, fun told _ => Run.failedIn_or_createdIn commands told,
    ?_, done, ?_⟩
  · intro index command is
    obtain ⟨before, was⟩ : ∃ before, commands[index]? = some before := reached.origin is
    have first := waiting before (List.mem_of_getElem? was)
    have completed := tracked.completed_iff was is
    rw [← Run.completed_eq, tracked.completedOnce.count]
    simp only [completed, first, true_and]
  · intro report reported
    obtain ⟨-, isReport⟩ := reached.reported reported
    rw [isReport]
    exact ⟨done, reached.length, createdIds, failedIds⟩

theorem Reaches.completed_perm_sent
    (reached : (start clock commands limit throttle client).Reaches setup machine)
    (startable : Startable commands) (meets : setup.client.Meets Execution.Recovers)
    (landed : machine.run.inFlight = []) : machine.run.completed.Perm machine.run.sent := by
  have tracked := reached.tracked
  refine (List.perm_ext_iff_of_nodup tracked.completedOnce tracked.sentOnce).mpr fun index => ?_
  constructor
  · intro completed
    obtain ⟨time, result, ref, event⟩ := Run.mem_completed.mp completed
    exact reached.sentBefore _ event
  · intro sent
    obtain ⟨event, told, isSending⟩ := List.mem_filterMap.mp sent
    cases event <;> simp [RunEvent.sentIndex?] at isSending
    subst isSending
    obtain ⟨command, is, -, status⟩ := (reached.exclusive startable).kept told
    obtain ⟨before, was⟩ : ∃ before, commands[_]? = some before := reached.origin is
    have waited := ((tracked.sent_iff was is).mp sent).1
    refine (tracked.completed_iff was is).mpr ⟨waited, status.resolve_left fun running => ?_⟩
    obtain ⟨flight, aloft, -⟩ := (reached.accounted startable meets).manned is running
    simp [landed] at aloft

theorem Reaches.length_failedIds
    (reached : (start clock commands limit throttle client).Reaches setup machine)
    (startable : Startable commands) :
    machine.run.failedIds.length = machine.run.outcomes.countP fun told => !told.2.isOk := by
  rw [reached.ids.2, List.length_filterMap_eq_countP]
  refine List.countP_congr fun ⟨index, result⟩ told => ?_
  obtain ⟨time, ref, event⟩ := Run.mem_outcomes.mp told
  obtain ⟨command, is⟩ := reached.exists_of_told startable event
  obtain ⟨before, was⟩ : ∃ before, commands[index]? = some before := reached.origin is
  rw [Run.failedIn, was]
  cases result <;> simp [Run.failedId?, CommandResult.isOk]

end reached

end Machine

end EditBatch
