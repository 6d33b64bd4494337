import EditBatch.Proofs.Run.Draining
import EditBatch.Proofs.Session.Stopping

/-! Runs whose dispatch loop has been aborted, and their reports.

Whatever has broken the loop off and wherever it has done so, nothing in flight is left behind: every
command that was sent off is done when the run has its report, with its result on record, and the
report counts it.
-/

set_option autoImplicit false

namespace EditBatch

namespace Run

variable {now : Nat} {flights : List Flight} {run next : Run}

theorem Drained.mem_failedIds (drained : Drained now flights run next) {flight : Flight}
    {command : Command} (aloft : flight ∈ flights) (none : flight.result = none)
    (found : run.commands[flight.index]? = some command) : command.id ∈ next.failedIds := by
  rw [drained.failedIds]
  refine List.mem_append_right _ (List.mem_filterMap.mpr ⟨flight, aloft, ?_⟩)
  rw [noted, found, Option.bind_some, Flight.outcome, none]
  rfl

theorem Drained.reportWith (drained : Drained now flights run next)
    (flying : Flying run.commands flights) (outcome : Outcome) :
    next.reportWith outcome =
      { outcome
        done := run.progress.done + flights.length
        total := run.progress.total
        createdIds := next.createdIds
        failedIds := next.failedIds } := by
  simp only [Run.reportWith, Run.progress, drained.commands, countP_isDone_absorb flying,
    length_absorb]

end Run

namespace Machine

variable {σ : Type}

/-- From whatever state the loop is aborted, as long as the commands in flight run on refs of their
own: when all that was sent off has ended, they are completed one after the other in the order of
their dispatch, each exactly once and as the loop completes it, a flight without a result as a
failure. Nothing is left in flight, no other command changes its status, and none that was done
changes at all. The run has stopped then, with the stop flag set, and its report counts what was in
flight as done. -/
theorem drained_when_aborted {setup : Setup σ} {machine : Machine σ}
    (aborted : machine.run.phase = .leaving .aborted) (active : machine.run.isActive = true)
    (flying : Run.Flying machine.run.commands machine.run.inFlight) :
    ∃ landed : Run,
      (machine.run.depart .aborted).completeAll? setup.listener
        (max machine.clock machine.run.lastEnd) machine.run.inFlight = some landed ∧
      Run.Drained (max machine.clock machine.run.lastEnd) machine.run.inFlight
        (machine.run.depart .aborted) landed ∧
      landed.stop.requested = true ∧
      (∀ index, landed.commands[index]? = machine.run.commands[index]?.map
        (Run.afterLandings machine.run.commands machine.run.inFlight index)) ∧
      (∀ flight ∈ machine.run.inFlight, flight.result = none → ∀ command,
        machine.run.commands[flight.index]? = some command → command.id ∈ landed.failedIds) ∧
      (∀ horizon, max machine.clock machine.run.lastEnd ≤ horizon →
        machine.runUntil setup horizon = ⟨max machine.clock machine.run.lastEnd,
          { landed with phase := .ended .stopped }, machine.client⟩) ∧
      ∀ (defaults : Limits) (session : Session σ) (past : List Run) (horizon : Nat),
        session.clock = machine.clock → session.client = machine.client →
        session.runs = machine.run :: past → max machine.clock machine.run.lastEnd ≤ horizon →
        ∃ run, (session.goOn { toSetup := setup, defaults } horizon).run? past.length = some run ∧
          run.finished = true ∧ run.stop.requested = true ∧ run.inFlight = [] ∧
          run.commands = landed.commands ∧
          run.report = some
            { outcome := .stopped
              done := machine.run.progress.done + machine.run.inFlight.length
              total := machine.run.progress.total
              createdIds := landed.createdIds
              failedIds := landed.failedIds } := by
  have aloft : (machine.run.depart .aborted).inFlight = machine.run.inFlight := rfl
  obtain ⟨landed, completes, drained⟩ := Run.exists_completeAll? setup.listener
    (max machine.clock machine.run.lastEnd) aloft flying
  have stopped : landed.stop.requested = true := drained.stopped rfl
  refine ⟨landed, completes, drained, stopped, fun index => ?_, ?_, ?_, ?_⟩
  · rw [drained.commands]
    exact Run.getElem?_absorb_of_flying flying index
  · exact fun flight aloft none command found => drained.mem_failedIds aloft none found
  · exact fun horizon late => runUntil_of_aborted aborted completes late
  · intro defaults session past horizon atClock withClient runs late
    have runsTo : Machine.runUntil setup horizon ⟨session.clock, machine.run, session.client⟩ =
        ⟨max machine.clock machine.run.lastEnd, { landed with phase := .ended .stopped },
          machine.client⟩ := by
      rw [atClock, withClient]
      exact runUntil_of_aborted aborted completes late
    have unreported : landed.isActive = true := by
      rw [Run.isActive, drained.report]
      exact active
    refine ⟨_, Session.run?_goOn_of_ended runs runsTo rfl unreported, rfl, stopped,
      drained.inFlight, rfl, ?_⟩
    exact congrArg some (drained.reportWith flying .stopped)

def breaking : Machine Rehearsal.ClientState :=
  start 5
    [{ id := 0, entityRef := "create_item_0", mode := .create, page := "Foo" },
     { id := 1, entityRef := "create_item_0", mode := .add, prop := "P31", value := some "Q5" },
     { id := 2, entityRef := "create_item_1", mode := .create, page := "Bar" },
     { id := 3, entityRef := "Q9", mode := .add, prop := "P31", value := some "Q5" }]
    3 0
    { rules :=
        [⟨{ call := "create_entity", newId := some "Q7" }, some 1⟩,
         ⟨{ call := "create_entity", failure := some (.remote "no answer") }, none⟩,
         ⟨{ call := "set_statement", failure := some .fatal }, none⟩]
      delay := 30 }

def broken : Machine Rehearsal.ClientState :=
  { breaking.steps rehearsed 100 5 with
    run := { (breaking.steps rehearsed 100 5).run with phase := .leaving .aborted } }

theorem drained_when_aborted_broken :
    broken.run.phase = .leaving .aborted ∧ broken.run.isActive = true ∧
      Run.Flying broken.run.commands broken.run.inFlight ∧
      broken.run.inFlight.map (fun flight => (flight.index, flight.result)) =
        [(0, some (.success (some "Q7"))), (2, some (.failure .remote "no answer" "")), (3, none)] ∧
      ∃ run, (Session.goOn { toSetup := rehearsed, defaults := ⟨1, 0⟩ } 100
          ⟨broken.clock, broken.client, [broken.run], []⟩).run? 0 = some run ∧
        run.commands.map (fun command => (command.entityRef, command.status)) =
          [("create_item_0", .done), ("Q7", .waiting), ("create_item_1", .done), ("Q9", .done)] ∧
        run.report = some ⟨.stopped, 3, 4, ["Q7"], [2, 3]⟩ := by
  have startable : Startable breaking.run.commands := by decide
  have reached : breaking.Reaches rehearsed broken :=
    .tail (reaches_steps rehearsed 100 5 breaking) (.fail (by decide +kernel))
  have flying := Reaches.flying reached startable
  have aborted : broken.run.phase = .leaving .aborted := rfl
  have active : broken.run.isActive = true := by decide +kernel
  obtain ⟨landed, -, drained, -, -, -, -, reported⟩ := drained_when_aborted aborted active flying
  obtain ⟨run, found, -, -, -, commands, report⟩ :=
    reported ⟨1, 0⟩ ⟨broken.clock, broken.client, [broken.run], []⟩ [] 100 (by simp only)
      (by simp only) (by simp only) (by decide +kernel)
  refine ⟨aborted, active, flying, by decide +kernel, run, found, ?_, ?_⟩
  · rw [commands, drained.commands]
    decide +kernel
  · rw [report, drained.createdIds, drained.failedIds]
    decide +kernel

end Machine

end EditBatch
