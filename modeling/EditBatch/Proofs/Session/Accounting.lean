import EditBatch.Proofs.Run.Accounting
import EditBatch.Proofs.Run.Propagation
import EditBatch.Proofs.Session.Attendance

/-! What the reports of a session say.

A report is given to a run when it has ended, and nothing that a script does changes the stop flag
of the run afterwards. So whoever reads the report can tell from the flag what has become of the
run.
-/

set_option autoImplicit false

namespace EditBatch

namespace Session

variable {σ : Type}

theorem Attended.judged_goOn {setup : SessionSetup σ} {session : Session σ} {horizon : Nat}
    (attended : session.Attended setup)
    (judged : session.Every fun run => run.isActive = false → run.Judged) :
    (session.goOn setup horizon).Every fun run => run.isActive = false → run.Judged := by
  refine judged.goOn (fun request inactive => by simp [newRun, Run.isActive] at inactive)
    fun run past runs next isNext => ?_
  have found := run?_latest runs
  -- The latest run had its report before, or it had not come to an outcome.
  have before : run.Judged := by
    cases active : run.isActive with
    | true =>
      intro outcome decided
      simp [attended.undecided _ run found active] at decided
    | false => exact judged _ run found active
  obtain ⟨clock, request, origin, reached⟩ := attended.granted _ run found
  have steps := Machine.steps_runUntil setup.toSetup horizon ⟨session.clock, run, session.client⟩
  have now : next.Judged := isNext ▸ Machine.Steps.judged reached steps before
  exact ⟨fun _ _ => now, fun outcome _ => ⟨fun _ => now, fun _ => now⟩⟩

theorem keeps_judged (setup : SessionSetup σ) :
    Keeps setup (Every fun run => run.isActive = false → run.Judged) where
  opens opens judged := opens.every judged fun request inactive => by
    simp [newRun, Run.isActive] at inactive
  goes attended _ judged := attended.judged_goOn judged
  runs same judged := judged.of_runs same
  cancels {session handle run} found judged := by
    refine judged.setRun found fun inactive => ?_
    rw [Run.isActive_cancel] at inactive
    rw [Run.cancel_of_inactive inactive]
    exact judged handle run found inactive
  registers callback found active judged :=
    judged.setRun found fun inactive => absurd inactive (by simpa [Run.isActive] using active)

/-- At every moment of a run the ids on record are those of the commands completed so far, in the
order of their completion, failures in one list and new items in the other; every command that is
done was completed once, and the progress counts the completions. A report says the same, and that
the run has completed if and only if it was not asked to stop by the moment at which it came to its
outcome. At the end of a script the stop flag still tells which. -/
theorem results_accounted (setup : SessionSetup σ) :
    (∀ (clock limit throttle : Nat) (client : σ) (commands : List Command) (machine : Machine σ),
      (∀ command ∈ commands, command.status = .waiting) →
      (Machine.start clock commands limit throttle client).Reaches setup.toSetup machine →
      machine.run.Balanced commands ∧
      ∀ report, machine.run.report = some report →
        ∃ before after : Machine σ,
          (Machine.start clock commands limit throttle client).Reaches setup.toSetup before ∧
          before.run.decision? = none ∧ before.Happens setup.toSetup after ∧
          after.run.decision? = some report.outcome ∧
          (report.outcome = .completed ↔ after.run.stop.requested = false) ∧
          after.Reaches setup.toSetup machine) ∧
    ∀ (client : σ) (steps : List (Step σ)),
      (∀ step ∈ steps, ∀ handle index status, step ≠ .mark handle index status) →
      ∀ (handle : Nat) (run : Run) (report : Report),
        (({ client } : Session σ).recordAll setup steps).2.run? handle = some run →
        run.report = some report →
        (report.outcome = .completed ↔ run.stop.requested = false) := by
  constructor
  · intro clock limit throttle client commands machine waiting reached
    refine ⟨reached.balanced waiting, fun report reported => ?_⟩
    obtain ⟨ended, -⟩ := reached.reported reported
    exact reached.decided (Run.decision?_eq_some_iff.mpr (.inr ended))
  · intro client steps unmarked handle run report found reported
    have inactive : run.isActive = false := by rw [Run.isActive, reported]; rfl
    have judged := ((keeps_judged setup).recordAll (attended_init setup client) unmarked
      (by simp [Every, run?])).2 handle run found inactive
    obtain ⟨clock, request, origin, reached⟩ := reaches_of_recordAll unmarked found
    obtain ⟨ended, -⟩ := reached.reported reported
    exact judged _ (Run.decision?_eq_some_iff.mpr (.inr ended))

def sparing : SessionSetup Unit where
  toSetup := Machine.sparing
  defaults := ⟨2, 0⟩

def twiceCreating : List (Step Unit) :=
  [.start { commands := Machine.twoCreations.commands }, .advance 100,
   .start { commands := Machine.twoCreations.commands }, .advance 5, .cancel none, .advance 100]

theorem results_accounted_twiceCreating :
    Machine.halfCreated.run.Balanced Machine.twoCreations.commands ∧
      (Machine.halfCreated.run.createdIds, Machine.halfCreated.run.failedIds) =
        (["Q7"], [2, 3]) ∧
      ∃ first second : Run,
        (({ client := () } : Session Unit).recordAll sparing twiceCreating).2.run? 0 =
          some first ∧
        (({ client := () } : Session Unit).recordAll sparing twiceCreating).2.run? 1 =
          some second ∧
        first.report = some
          { outcome := .completed, done := 4, total := 4, createdIds := ["Q7"]
            failedIds := [2, 3] } ∧
        second.report = some
          { outcome := .stopped, done := 2, total := 4, createdIds := ["Q7"], failedIds := [2] } ∧
        first.stop.requested = false ∧ second.stop.requested = true := by
  obtain ⟨always, atEnd⟩ := results_accounted sparing
  have waiting : ∀ command ∈ Machine.twoCreations.commands, command.status = .waiting := by decide
  have unmarked : ∀ step ∈ twiceCreating, ∀ handle index status,
      step ≠ .mark handle index status := by simp [twiceCreating]
  have one : ((({ client := () } : Session Unit).recordAll sparing twiceCreating).2.run? 0).map
      (·.report) = some (some { outcome := .completed, done := 4, total := 4, createdIds := ["Q7"]
                                failedIds := [2, 3] }) := by decide +kernel
  have other : ((({ client := () } : Session Unit).recordAll sparing twiceCreating).2.run? 1).map
      (·.report) = some (some { outcome := .stopped, done := 2, total := 4, createdIds := ["Q7"]
                                failedIds := [2] }) := by decide +kernel
  obtain ⟨first, isFirst, firstReport⟩ := Option.map_eq_some_iff.mp one
  obtain ⟨second, isSecond, secondReport⟩ := Option.map_eq_some_iff.mp other
  refine ⟨(always 5 2 0 () _ _ waiting (Machine.reaches_steps _ _ _ _)).1, by decide +kernel,
    first, second, isFirst, isSecond, firstReport, secondReport, ?_, ?_⟩
  · exact (atEnd () twiceCreating unmarked 0 first _ isFirst firstReport).mp rfl
  · have told := atEnd () twiceCreating unmarked 1 second _ isSecond secondReport
    simpa using told

end Session

end EditBatch
