import EditBatch.CommandLine.Program
import EditBatch.Proofs.Run.Accounting
import EditBatch.Proofs.Run.Completion
import EditBatch.Proofs.Run.Creation
import EditBatch.Proofs.Session.Attendance

/-! Batches that are watched until they end.

An interrupt asks the run to stop where it finds it, and a run that is over by then does not notice
it. Either way the run ends with everything completed that was sent off, and its report accounts for
all of that.
-/

set_option autoImplicit false

namespace EditBatch

namespace Run

theorem Absorbed.sent {origin run : Run} {landings : List Flight}
    (absorbed : origin.Absorbed landings run) : run.sent = origin.sent := by
  obtain ⟨events, history, completes⟩ := absorbed.completions
  have none : events.filterMap RunEvent.sentIndex? = [] := by
    rw [List.filterMap_eq_nil_iff]
    intro event member
    obtain ⟨time, index, result, ref, rfl⟩ := completes event member
    rfl
  rw [Run.sent, history, List.filterMap_append, none, List.append_nil, Run.sent]

theorem Absorbed.dispatched {origin run : Run} {landings : List Flight}
    {time index endsAt : Nat} {ref : String} (absorbed : origin.Absorbed landings run)
    (told : .dispatched time index ref endsAt ∈ run.history) :
    .dispatched time index ref endsAt ∈ origin.history := by
  obtain ⟨events, history, completes⟩ := absorbed.completions
  rw [history, List.mem_append] at told
  refine told.resolve_right fun new => ?_
  obtain ⟨_, _, _, _, same⟩ := completes _ new
  simp at same

end Run

namespace CommandLine

open Machine

variable {σ : Type}

/-- An interrupt comes before the run would be over; one at the very beginning always does. -/
def Interrupted (setup : Setup σ) (interruptAt : Option Nat) (first : Machine σ) : Prop :=
  ∃ moment, interruptAt = some moment ∧ (moment = 0 ∨ moment < (first.runToEnd setup).clock)

/-- A report accounts for all that a run has done until it ended. -/
structure Accounts (setup : Setup σ) (first last : Machine σ) (report : Report) : Prop where
  alone : first.Alone setup last
  ended : last.outcome? = some report.outcome
  /-- Everything that was sent off was completed, once. -/
  completed : last.run.completed.Perm last.run.sent
  sentOnce : last.run.sent.Nodup
  total : report.total = first.run.commands.length
  done : report.done = last.run.sent.length
  failed : report.failedIds.length = last.run.outcomes.countP fun told => !told.2.isOk
  /-- In the order of their completion, the commands were given these ids. -/
  created : ∃ replies, first.Answered setup last replies ∧
    report.createdIds =
      last.run.completed.filterMap fun index => Execution.createdId? (replies index)

/-- A run sends off everything unless it is interrupted, and nothing after it is. -/
structure Heeds (setup : Setup σ) (interruptAt : Option Nat) (first last : Machine σ) : Prop where
  stopped : Interrupted setup interruptAt first → last.outcome? = some .stopped
  completed : ¬ Interrupted setup interruptAt first →
    last.outcome? = some .completed ∧ last.run.sent.length = first.run.commands.length
  /-- What an interrupt finds sent off is what has been sent off in the end. -/
  sent : ∀ moment, interruptAt = some moment →
    last.run.sent = (untilInterrupt setup moment first).run.sent
  earlier : ∀ moment, interruptAt = some moment → ∀ time index ref endsAt,
    .dispatched time index ref endsAt ∈ last.run.history → time ≤ moment

/-! ## Up to the interrupt -/

section interrupt

variable (setup : Setup σ) {moment : Nat} {first : Machine σ}

theorem steps_untilInterrupt (moment : Nat) (first : Machine σ) :
    first.Steps setup (untilInterrupt setup moment first) := by
  unfold untilInterrupt
  split
  · exact .refl
  · exact steps_runUntil setup moment first

theorem clock_untilInterrupt_le (early : first.clock ≤ moment) :
    (untilInterrupt setup moment first).clock ≤ moment := by
  unfold untilInterrupt
  split
  · exact early
  · exact Nat.le_trans (clock_runUntil_le setup moment first) (Nat.max_le.mpr ⟨early, Nat.le_refl _⟩)

theorem alone_untilInterrupt (early : first.clock ≤ moment) :
    first.Alone setup { untilInterrupt setup moment first with clock := moment } := by
  by_cases now : moment = 0
  · obtain ⟨clock, run, client⟩ := first
    obtain rfl : clock = moment := by
      simp only at early
      omega
    rw [untilInterrupt, if_pos now]
    exact .refl
  · have soon := clock_untilInterrupt_le setup early
    refine .tail (steps_untilInterrupt setup moment first).alone ⟨.wait moment soon ?_, .inr rfl⟩
    rw [untilInterrupt, if_neg now]
    exact step?_runUntil setup moment first

theorem rests_of_outcome? {machine : Machine σ} {outcome : Outcome}
    (known : machine.outcome? = some outcome) (horizon : Nat) :
    machine.step? setup horizon = none := by
  unfold outcome? at known
  split at known
  next former ended => simp [step?, Run.readyAt?, ended]
  next => simp at known

theorem runToEnd_eq {machine finish : Machine σ} {outcome : Outcome}
    (settled : ∀ horizon, (machine.runToEnd setup).clock ≤ horizon →
      machine.runUntil setup horizon = machine.runToEnd setup)
    (steps : machine.Steps setup finish) (known : finish.outcome? = some outcome) :
    machine.runToEnd setup = finish := by
  rw [← settled _ (Nat.le_max_left _ finish.clock)]
  exact steps.runUntil_eq (rests_of_outcome? setup known) (Nat.le_max_right _ _)

def cancelledAt (moment : Nat) (first : Machine σ) : Machine σ :=
  { untilInterrupt setup moment first with
    clock := max (untilInterrupt setup moment first).clock moment
    run := (untilInterrupt setup moment first).run.cancel }

theorem watch_of_goes (goes : (untilInterrupt setup moment first).outcome? = none) :
    watch setup (some moment) first =
      ⟨(cancelledAt setup moment first).runToEnd setup,
        progressShown (untilInterrupt setup moment first).run (sliceEndsUntil setup moment first) ++
          stoppingNote⟩ := by
  simp [watch, goes, cancelledAt]

end interrupt

/-- A run that can be watched from its start to its end, whenever it is interrupted. -/
structure Watchable (setup : Setup σ) (commands : List Command) (limit throttle : Nat) (client : σ)
    (first : Machine σ) : Prop where
  begins : first = start 0 commands limit throttle client
  waiting : ∀ command ∈ commands, command.status = .waiting
  limited : 0 < limit
  throttled : throttle < Nat.pow 2 53
  polled : setup.poll < Nat.pow 2 53
  uncancelled : ∀ command, (setup.listener command).cancels = false
  recovers : setup.client.Meets Execution.Recovers
  names : setup.client.Meets Execution.NamesItems

namespace Watchable

variable {setup : Setup σ} {limit throttle : Nat} {client : σ} {commands : List Command}
  {first last : Machine σ}

theorem startable (watchable : Watchable setup commands limit throttle client first) :
    Startable commands :=
  fun command member => .inl (watchable.waiting command member)

theorem reaches (watchable : Watchable setup commands limit throttle client first)
    (reached : first.Reaches setup last) :
    (start 0 commands limit throttle client).Reaches setup last :=
  watchable.begins ▸ reached

theorem early (watchable : Watchable setup commands limit throttle client first) (moment : Nat) :
    first.clock ≤ moment := by
  rw [watchable.begins]
  exact Nat.zero_le moment

theorem completes (watchable : Watchable setup commands limit throttle client first) :
    ∃ finish, first.runToEnd setup = finish ∧ first.Steps setup finish ∧
      finish.run.phase = .ended .completed ∧ finish.run.inFlight = [] ∧
      (∀ command ∈ finish.run.commands, command.status = .done) ∧
      ∀ horizon, finish.clock ≤ horizon → first.runUntil setup horizon = finish := by
  rw [watchable.begins]
  refine runToEnd_completed 0 client watchable.startable watchable.limited ?_
    watchable.uncancelled watchable.recovers
  rintro (long | long)
  · exact lt_pauseLimit watchable.throttled long
  · exact lt_pauseLimit watchable.polled long

theorem accounts {outcome : Outcome}
    (watchable : Watchable setup commands limit throttle client first)
    (alone : first.Alone setup last) (ended : last.run.phase = .ended outcome)
    (landed : last.run.inFlight = []) : Accounts setup first last (reportOf last) := by
  obtain rfl := watchable.begins
  have reached := alone.reaches
  have same : last.outcome? = some outcome := by rw [outcome?, ended]
  have perm := reached.completed_perm_sent watchable.startable watchable.recovers landed
  have done : last.run.progress.done = last.run.sent.length := by
    rw [(reached.balanced watchable.waiting).done, ← perm.length_eq, Run.completed_eq,
      List.length_map]
  obtain ⟨replies, answered⟩ := alone.exists_answered rfl
  exact
    { alone
      ended := by rw [reportOf, same]; rfl
      completed := perm
      sentOnce := reached.tracked.sentOnce
      total := reached.length
      done
      failed := reached.length_failedIds watchable.startable
      created := ⟨replies, answered, alone.createdIds_eq watchable.names answered⟩ }

theorem untilInterrupt_cases (watchable : Watchable setup commands limit throttle client first)
    (moment : Nat) :
    (Interrupted setup (some moment) first ∧
      (untilInterrupt setup moment first).outcome? = none) ∨
    (¬ Interrupted setup (some moment) first ∧
      untilInterrupt setup moment first = first.runToEnd setup) := by
  obtain ⟨finish, toEnd, -, -, -, -, settled⟩ := watchable.completes
  have interrupts : Interrupted setup (some moment) first ↔
      moment = 0 ∨ moment < finish.clock := by
    simp [Interrupted, toEnd]
  rw [interrupts, toEnd]
  by_cases past : moment ≠ 0 ∧ finish.clock ≤ moment
  · refine .inr ⟨by omega, ?_⟩
    rw [untilInterrupt, if_neg past.1]
    exact settled moment past.2
  · refine .inl ⟨by omega, ?_⟩
    rw [Option.eq_none_iff_forall_ne_some]
    intro outcome known
    -- A run that is over is the finished one, whose clock would not be behind the interrupt.
    have soon := clock_untilInterrupt_le setup (watchable.early moment)
    have later : moment ≠ 0 := by
      rintro rfl
      simp [untilInterrupt, outcome?, watchable.begins, start] at known
    have same := (steps_untilInterrupt setup moment _).runUntil_eq
      (rests_of_outcome? setup known) (Nat.le_max_left _ finish.clock)
    rw [settled _ (Nat.le_max_right _ _)] at same
    rw [← same] at soon
    omega

theorem undecided_untilInterrupt (watchable : Watchable setup commands limit throttle client first)
    {moment : Nat} (goes : (untilInterrupt setup moment first).outcome? = none) :
    (untilInterrupt setup moment first).run.decision? = none := by
  obtain rfl := watchable.begins
  unfold untilInterrupt at *
  split
  · rfl
  next later =>
    rw [if_neg later] at goes
    rw [Option.eq_none_iff_forall_ne_some]
    intro outcome decided
    have soon := clock_runUntil_le setup moment (start 0 commands limit throttle client)
    have ended := ended_of_decision? (steps_runUntil setup moment _).reaches
      (step?_runUntil setup moment _) (Nat.le_trans soon (by simp [start])) decided
    simp [outcome?, ended] at goes

theorem alone_cancelledAt (watchable : Watchable setup commands limit throttle client first)
    {moment : Nat} (goes : (untilInterrupt setup moment first).outcome? = none) :
    first.Alone setup (cancelledAt setup moment first) ∧
      (cancelledAt setup moment first).run.stop.requested = true ∧
      (cancelledAt setup moment first).run.decision? = none := by
  refine ⟨?_, ?_, ?_⟩
  · have early := watchable.early moment
    rw [cancelledAt, Nat.max_eq_right (clock_untilInterrupt_le setup early)]
    exact (alone_untilInterrupt setup early).cancel
  · -- Only an active run takes note of the request, and one with a report would have ended.
    have active : (untilInterrupt setup moment first).run.isActive = true := by
      rw [Run.isActive, Option.isNone_iff_eq_none, Option.eq_none_iff_forall_ne_some]
      intro report reported
      have reached := watchable.reaches (steps_untilInterrupt setup moment first).reaches
      simp [outcome?, (Reaches.reported reached reported).1] at goes
    simp [cancelledAt, Run.cancel, active]
  · rw [cancelledAt, Run.decision?, Run.phase_cancel]
    exact watchable.undecided_untilInterrupt goes

theorem stops_cancelledAt (watchable : Watchable setup commands limit throttle client first)
    {moment : Nat} (goes : (untilInterrupt setup moment first).outcome? = none) :
    ((cancelledAt setup moment first).runToEnd setup).run.phase = .ended .stopped ∧
      ((cancelledAt setup moment first).runToEnd setup).run.inFlight = [] ∧
      ∀ horizon, ((cancelledAt setup moment first).runToEnd setup).clock ≤ horizon →
        (cancelledAt setup moment first).runUntil setup horizon =
          (cancelledAt setup moment first).runToEnd setup := by
  obtain ⟨alone, asked, undecided⟩ := watchable.alone_cancelledAt goes
  exact stops_of_stopped (watchable.reaches alone.reaches) watchable.startable watchable.recovers
    asked undecided

/-! ## To the end -/

theorem heeds_runToEnd (watchable : Watchable setup commands limit throttle client first)
    {interruptAt : Option Nat} (quiet : ¬ Interrupted setup interruptAt first) :
    Accounts setup first (first.runToEnd setup) (reportOf (first.runToEnd setup)) ∧
      Heeds setup interruptAt first (first.runToEnd setup) := by
  obtain ⟨finish, toEnd, steps, ended, landed, done, -⟩ := watchable.completes
  have accounts := watchable.accounts steps.alone ended landed
  have sent : finish.run.sent.length = first.run.commands.length := by
    have all : finish.run.progress.done = finish.run.progress.total :=
      List.countP_eq_length.mpr fun command member => by simp [Command.isDone, done command member]
    exact accounts.done.symm.trans (all.trans accounts.total)
  rw [toEnd]
  refine ⟨accounts, fun noticed => absurd noticed quiet,
    fun _ => ⟨by rw [outcome?, ended], sent⟩, ?_, ?_⟩
  · rintro moment rfl
    obtain ⟨noticed, -⟩ | ⟨-, same⟩ := watchable.untilInterrupt_cases moment
    · exact absurd noticed quiet
    · rw [same, toEnd]
  · rintro moment rfl time index ref endsAt told
    have before : finish.clock ≤ moment := by
      rw [Interrupted, toEnd] at quiet
      simp only [Option.some.injEq, exists_eq_left'] at quiet
      omega
    exact Nat.le_trans ((watchable.reaches steps.reaches).dispatched_le told) before

theorem heeds_cancelledAt (watchable : Watchable setup commands limit throttle client first)
    {moment : Nat} (noticed : Interrupted setup (some moment) first)
    (goes : (untilInterrupt setup moment first).outcome? = none) :
    Accounts setup first ((cancelledAt setup moment first).runToEnd setup)
        (reportOf ((cancelledAt setup moment first).runToEnd setup)) ∧
      Heeds setup (some moment) first ((cancelledAt setup moment first).runToEnd setup) := by
  obtain ⟨alone, asked, -⟩ := watchable.alone_cancelledAt goes
  obtain ⟨ended, landed, -⟩ := watchable.stops_cancelledAt goes
  obtain ⟨steps, -⟩ := runToEnd_spec setup (cancelledAt setup moment first)
  have history : (cancelledAt setup moment first).run.history =
      (untilInterrupt setup moment first).run.history := (Run.alike_cancel _).history
  have soon := clock_untilInterrupt_le setup (watchable.early moment)
  have interrupted := watchable.reaches (steps_untilInterrupt setup moment first).reaches
  have reached := watchable.reaches alone.reaches
  -- From the request on flights land and nothing else, which leaves what was sent off alone.
  obtain ⟨-, landings, absorbed, -⟩ := steps.reaches.absorbed reached watchable.startable
    watchable.recovers asked
  refine ⟨watchable.accounts (alone.trans steps.alone) ended landed,
    fun _ => by rw [outcome?, ended], fun quiet => absurd noticed quiet, ?_, ?_⟩
  · rintro other ⟨⟩
    rw [absorbed.sent, Run.sent, history, Run.sent]
  · rintro other ⟨⟩ time index ref endsAt told
    have before := absorbed.dispatched told
    rw [history] at before
    exact Nat.le_trans (interrupted.dispatched_le before) soon

/-- However a batch is watched, its report accounts for it, and an interrupt is heeded. -/
theorem concludes (watchable : Watchable setup commands limit throttle client first)
    (interruptAt : Option Nat) :
    Accounts setup first (watch setup interruptAt first).machine
        (reportOf (watch setup interruptAt first).machine) ∧
      Heeds setup interruptAt first (watch setup interruptAt first).machine := by
  cases interruptAt with
  | none => exact watchable.heeds_runToEnd (by simp [Interrupted])
  | some moment =>
    obtain ⟨noticed, goes⟩ | ⟨quiet, finished⟩ := watchable.untilInterrupt_cases moment
    · rw [watch_of_goes setup goes]
      exact watchable.heeds_cancelledAt noticed goes
    · obtain ⟨finish, toEnd, -, ended, -⟩ := watchable.completes
      have same : (watch setup (some moment) first).machine = first.runToEnd setup := by
        simp [watch, finished, toEnd, outcome?, ended, watchToEnd]
      rw [same]
      exact watchable.heeds_runToEnd quiet

end Watchable

end CommandLine

end EditBatch
