import EditBatch.Proofs.Run.Polling
import EditBatch.Proofs.Session.Accounting

/-! Scripts do not show how often their runs are polled.

Nothing that a script does to a session reads until when a run waits, except for letting time pass.
And when time has passed, a run that waits has been left at some poll, but the session stands at the
moment up to which it went on.
-/

set_option autoImplicit false

namespace EditBatch

variable {σ : Type}

def SessionSetup.polling (setup : SessionSetup σ) (poll : Nat) (positive : 0 < poll) :
    SessionSetup σ :=
  { setup with toSetup := setup.toSetup.polling poll positive }

@[simp] theorem SessionSetup.defaults_polling (setup : SessionSetup σ) (poll : Nat)
    (positive : 0 < poll) : (setup.polling poll positive).defaults = setup.defaults := rfl

def StepAnswer.undated : StepAnswer → StepAnswer
  | .run handle shown => .run handle shown.undated
  | .done => .done
  | .started handle total concurrency throttle => .started handle total concurrency throttle
  | .finished inTime => .finished inTime
  | .progress told => .progress told

theorem Run.cancel_undated (run : Run) : run.undated.cancel = run.cancel.undated := by
  have same : run.undated.isActive = run.isActive := rfl
  rw [cancel, cancel, same]
  split <;> rfl

def Attempt.undated (attempt : Attempt) : Attempt := attempt.map StepAnswer.undated

namespace Session

def undated (session : Session σ) : Session σ :=
  { session with runs := session.runs.map Run.undated }

def StepRecord.undated (record : StepRecord σ) : StepRecord σ :=
  ⟨record.attempt.undated, record.before.undated, record.after.undated⟩

theorem undated_eq_iff {one other : Session σ} :
    other.undated = one.undated ↔
      other.clock = one.clock ∧ other.client = one.client ∧
        other.runs.map Run.undated = one.runs.map Run.undated ∧ other.notices = one.notices := by
  simp only [undated, mk.injEq]

/-! ## What does not read the end of a wait -/

theorem run?_undated (session : Session σ) (handle : Nat) :
    session.undated.run? handle = (session.run? handle).map Run.undated := by
  simp only [run?, undated, ← List.map_reverse, List.getElem?_map]

theorem setRun_undated (session : Session σ) (handle : Nat) (run : Run) :
    session.undated.setRun handle run.undated = (session.setRun handle run).undated := by
  simp only [setRun, undated, List.map_reverse, List.map_set]

theorem latest?_undated (session : Session σ) : session.undated.latest? = session.latest? := by
  simp [latest?, undated]

theorem isFinished_undated (session : Session σ) (handle : Nat) :
    session.undated.isFinished handle = session.isFinished handle := by
  rw [isFinished, run?_undated, Option.any_map]
  rfl

theorem start_undated (defaults : Limits) (request : StartRequest) (session : Session σ) :
    session.undated.start defaults request = (session.start defaults request).map undated := by
  have same : session.undated.refusal? defaults request = session.refusal? defaults request := by
    simp only [refusal?, undated, List.head?_map, List.length_map, Option.any_map]
    rfl
  rw [start, start, same]
  cases session.refusal? defaults request with
  | some refusal => rfl
  | none => rfl

theorem startStep_undated (setup : SessionSetup σ) (request : StartRequest) (session : Session σ) :
    session.undated.startStep setup request =
      ((session.startStep setup request).1, (session.startStep setup request).2.undated) := by
  have count : session.undated.runs.length = session.runs.length := List.length_map _
  rw [startStep, startStep, start_undated, count]
  cases session.start setup.defaults request with
  | ok started => rfl
  | error refusal => rfl

theorem observe_undated (report : Report) (session : Session σ) (observer : Observer) :
    session.undated.observe report observer =
      ((session.observe report observer).1, (session.observe report observer).2.undated) := by
  induction observer generalizing session with
  | note name | fail name => rfl
  | chain name next ih => exact ih (session.notice name report)

theorem call_undated (defaults : Limits) (report : Report) (session : Session σ)
    (callback : Callback) :
    session.undated.call defaults report callback =
      ((session.call defaults report callback).1,
        (session.call defaults report callback).2.undated) := by
  cases callback with
  | observe observer => exact observe_undated report session observer
  | restart name request =>
    have noticed : session.undated.notice name report = (session.notice name report).undated := rfl
    simp only [call, noticed, start_undated]
    cases (session.notice name report).start defaults request with
    | ok started => rfl
    | error refusal => rfl
  | restartInVain name reason => rfl

theorem callAll_undated (defaults : Limits) (report : Report) (callbacks : List Callback)
    (session : Session σ) :
    session.undated.callAll defaults report callbacks =
      (session.callAll defaults report callbacks).undated := by
  induction callbacks generalizing session with
  | nil => rfl
  | cons callback rest ih =>
    have called := congrArg Prod.snd (call_undated defaults report session callback)
    calc
      session.undated.callAll defaults report (callback :: rest) =
          (session.undated.call defaults report callback).2.callAll defaults report rest := rfl
      _ = (session.call defaults report callback).2.undated.callAll defaults report rest := by
        rw [called]
      _ = (session.callAll defaults report (callback :: rest)).undated := ih _

theorem markFinished_undated (handle : Nat) (session : Session σ) :
    session.undated.markFinished handle = (session.markFinished handle).undated := by
  rw [markFinished, markFinished, run?_undated]
  cases session.run? handle with
  | none => rfl
  | some run => exact setRun_undated session handle { run with finished := true }

theorem finishLatest_undated (defaults : Limits) (outcome : Outcome) (session : Session σ) :
    session.undated.finishLatest defaults outcome =
      (session.finishLatest defaults outcome).undated := by
  cases runs : session.runs with
  | nil => simp [finishLatest, undated, runs]
  | cons run past =>
    have shown : session.undated.runs = run.undated :: past.map Run.undated := by
      rw [undated, runs, List.map_cons]
    simp only [finishLatest, shown, runs, List.length_map]
    rw [← markFinished_undated, ← callAll_undated]
    simp only [undated, List.map_cons]
    rfl

theorem register_undated (defaults : Limits) (handle : Nat) (run : Run) (callback : Callback)
    (session : Session σ) :
    session.undated.register defaults handle run.undated callback =
      ((session.register defaults handle run callback).1,
        (session.register defaults handle run callback).2.undated) := by
  have same : run.undated.report = run.report := rfl
  rw [register, register, same]
  split
  next report _ => exact call_undated defaults report session callback
  next =>
    have registered := setRun_undated session handle
      { run with callbacks := run.callbacks ++ [callback] }
    exact congrArg (Prod.mk _) registered

theorem reportLatest_undated (defaults : Limits) (session : Session σ) :
    session.undated.reportLatest defaults = (session.reportLatest defaults).undated := by
  cases runs : session.runs with
  | nil => simp [reportLatest, undated, runs]
  | cons run past =>
    have shown : session.undated.runs = run.undated :: past.map Run.undated := by
      rw [undated, runs, List.map_cons]
    have active : run.undated.isActive = run.isActive := rfl
    cases phase : run.phase with
    | ended outcome =>
      have ended : run.undated.phase = .ended outcome := by
        rw [Run.undated, phase]
        rfl
      simp only [reportLatest, shown, ended, runs, phase, active, finishLatest_undated]
      split <;> rfl
    | created | dispatching | completing | blocked deadline | leaving departure | draining
      | crashed =>
      have other : run.undated.phase = run.phase.undated := rfl
      simp only [reportLatest, shown, other, runs, phase, Phase.undated]

/-! ## Letting time pass -/

def settle (horizon : Nat) (session : Session σ) : Session σ :=
  { session with clock := max session.clock horizon }

/-- A session whose latest run waits can go on no further. -/
structure Lulled (setup : SessionSetup σ) (horizon : Nat) (before after : Session σ) : Prop where
  again : after.goOn setup horizon = after
  soon : after.clock ≤ horizon
  finished : ∀ handle, after.isFinished handle = before.isFinished handle

theorem goOn_of_blocked (setup : SessionSetup σ) {horizon deadline : Nat} {session : Session σ}
    {run : Run} {past : List Run} {machine : Machine σ} (runs : session.runs = run :: past)
    (goes : Machine.runUntil setup.toSetup horizon ⟨session.clock, run, session.client⟩ = machine)
    (blocked : machine.run.phase = .blocked deadline) :
    session.goOn setup horizon =
      { session with
        clock := machine.clock, client := machine.client, runs := machine.run :: past } := by
  rw [goOn_eq setup horizon runs goes]
  simp only [reportLatest, blocked]

theorem lulled_of_blocked (setup : SessionSetup σ) {horizon deadline : Nat} {session : Session σ}
    {run : Run} {past : List Run} {machine : Machine σ} (runs : session.runs = run :: past)
    (later : session.clock ≤ horizon)
    (goes : Machine.runUntil setup.toSetup horizon ⟨session.clock, run, session.client⟩ = machine)
    (blocked : machine.run.phase = .blocked deadline) :
    Lulled setup horizon session (session.goOn setup horizon) := by
  rw [goOn_of_blocked setup runs goes blocked]
  have bound := Machine.clock_runUntil_le setup.toSetup horizon
    ⟨session.clock, run, session.client⟩
  have kept := (Machine.steps_runUntil setup.toSetup horizon
    ⟨session.clock, run, session.client⟩).registers.finished
  have rests : Machine.runUntil setup.toSetup horizon machine = machine := by
    rw [← goes]
    exact Machine.runUntil_eq_self (Machine.step?_runUntil setup.toSetup horizon _)
  rw [goes] at bound kept
  refine ⟨goOn_of_blocked setup rfl rests blocked,
    Nat.le_trans bound (Nat.max_le.mpr ⟨later, Nat.le_refl _⟩), fun handle => ?_⟩
  rw [isFinished, isFinished, run?_cons runs, run?_cons rfl]
  split
  · simpa using kept
  · rfl

section polling

variable {setup : SessionSetup σ} {poll horizon : Nat} (positive : 0 < poll)
  (short : setup.poll < Nat.pow 2 53) (brief : poll < Nat.pow 2 53) {one other : Session σ}

include short brief

/-- Sessions that look alike still do when they have gone on, or their latest runs wait, and only
the clocks may stand at different polls. -/
theorem Attended.goOn_polling (attended : one.Attended setup)
    (also : other.Attended (setup.polling poll positive)) (same : other.undated = one.undated)
    (later : one.clock ≤ horizon) :
    (other.goOn (setup.polling poll positive) horizon).undated =
        (one.goOn setup horizon).undated ∨
      Lulled setup horizon one (one.goOn setup horizon) ∧
        Lulled (setup.polling poll positive) horizon other
          (other.goOn (setup.polling poll positive) horizon) ∧
        ((other.goOn (setup.polling poll positive) horizon).settle horizon).undated =
          ((one.goOn setup horizon).settle horizon).undated := by
  obtain ⟨clock, client, shown, notices⟩ := undated_eq_iff.mp same
  cases runs : one.runs with
  | nil =>
    rw [runs, List.map_nil, List.map_eq_nil_iff] at shown
    rw [goOn_of_nil setup horizon runs, goOn_of_nil _ horizon shown]
    exact .inl same
  | cons run past =>
    rw [runs, List.map_cons] at shown
    obtain ⟨latest, earlier, runsToo, alike, before⟩ := List.map_eq_cons_iff.mp shown
    obtain ⟨_, _, _, reached⟩ := attended.granted _ run (run?_latest runs)
    obtain ⟨_, _, _, reachedToo⟩ := also.granted _ latest (run?_latest runsToo)
    have resembles : Machine.Resembles ⟨one.clock, run, one.client⟩
        ⟨other.clock, latest, other.client⟩ := ⟨clock, client, alike⟩
    obtain ⟨sharing, appearing, sooner⟩ :=
      resembles.runUntil positive short brief reached.waits reachedToo.waits later
    generalize goes : Machine.runUntil setup.toSetup horizon ⟨one.clock, run, one.client⟩ = machine
      at sharing appearing sooner
    generalize goesToo : Machine.runUntil (setup.toSetup.polling poll positive) horizon
      ⟨other.clock, latest, other.client⟩ = machineToo at sharing appearing sooner
    rcases sooner with sameClock | ⟨deadline, blocked⟩
    -- At the same moment the runs have the same outcome, so that the same callbacks are called.
    · left
      rw [goOn_eq setup horizon runs goes,
        goOn_eq (setup.polling poll positive) horizon runsToo goesToo,
        ← reportLatest_undated, ← reportLatest_undated]
      simp only [undated, List.map_cons, sameClock, sharing, appearing, before, notices]
      rfl
    -- At different polls no run has ended, and no callback is called.
    · right
      obtain ⟨otherwise, blockedToo⟩ := Run.blocked_of_undated appearing blocked
      have lulled := lulled_of_blocked setup runs later goes blocked
      have lulledToo := lulled_of_blocked (setup.polling poll positive) runsToo (clock ▸ later)
        goesToo blockedToo
      refine ⟨lulled, lulledToo, ?_⟩
      rw [settle, settle, Nat.max_eq_right lulled.soon, Nat.max_eq_right lulledToo.soon,
        goOn_of_blocked setup runs goes blocked,
        goOn_of_blocked (setup.polling poll positive) runsToo goesToo blockedToo]
      simp only [undated, List.map_cons, sharing, appearing, before, notices]

theorem Attended.settled_polling (attended : one.Attended setup)
    (also : other.Attended (setup.polling poll positive)) (same : other.undated = one.undated)
    (later : one.clock ≤ horizon) :
    ((other.goOn (setup.polling poll positive) horizon).settle horizon).undated =
      ((one.goOn setup horizon).settle horizon).undated := by
  rcases attended.goOn_polling positive short brief also same later with alike | ⟨-, -, alike⟩
  · exact congrArg (settle horizon) alike
  · exact alike

theorem Attended.passUntil_polling (attended : one.Attended setup)
    (also : other.Attended (setup.polling poll positive)) (same : other.undated = one.undated)
    (later : one.clock ≤ horizon) :
    (other.passUntil (setup.polling poll positive) horizon).undated =
      (one.passUntil setup horizon).undated := by
  have laterToo : other.clock ≤ horizon := (undated_eq_iff.mp same).1 ▸ later
  rcases attended.goOn_polling positive short brief also same later with
    alike | ⟨lulled, lulledToo, alike⟩
  · have bound : (one.goOn setup horizon).clock ≤ horizon := by
      have bound := clock_goOn_le setup horizon one
      rwa [Nat.max_eq_right later] at bound
    exact (attended.goOn later).settled_polling positive short brief (also.goOn laterToo) alike
      bound
  -- No run has been started on the way, and the one that waits has gone on as far as it can.
  · simp only [passUntil, lulled.again, lulledToo.again]
    exact alike

theorem Attended.waitUntil_polling (attended : one.Attended setup)
    (also : other.Attended (setup.polling poll positive)) (same : other.undated = one.undated)
    (later : one.clock ≤ horizon) (handle : Nat) :
    (other.waitUntil (setup.polling poll positive) handle horizon).1 =
        (one.waitUntil setup handle horizon).1 ∧
      (other.waitUntil (setup.polling poll positive) handle horizon).2.undated =
        (one.waitUntil setup handle horizon).2.undated := by
  have finished : other.isFinished handle = one.isFinished handle := by
    rw [← isFinished_undated, same, isFinished_undated]
  have settled := attended.settled_polling positive short brief also same later
  -- A session that has gone on to the end of the awaited run does not stand at a poll.
  have agreed : (other.goOn (setup.polling poll positive) horizon).isFinished handle =
        (one.goOn setup horizon).isFinished handle ∧
      ((one.goOn setup horizon).isFinished handle = true → one.isFinished handle = false →
        (other.goOn (setup.polling poll positive) horizon).undated =
          (one.goOn setup horizon).undated) := by
    rcases attended.goOn_polling positive short brief also same later with
      alike | ⟨lulled, lulledToo, -⟩
    · exact ⟨by rw [← isFinished_undated, alike, isFinished_undated], fun _ _ => alike⟩
    · refine ⟨by rw [lulled.finished, lulledToo.finished, finished], fun now before => ?_⟩
      rw [lulled.finished, before] at now
      simp at now
  obtain ⟨ends, alike⟩ := agreed
  simp only [waitUntil, finished, ends]
  split
  · exact ⟨rfl, same⟩
  next unfinished =>
    split
    next now => exact ⟨rfl, alike now (by simpa using unfinished)⟩
    next => exact ⟨rfl, settled⟩

end polling

/-! ## Scripts -/

/-- Two steps come to the same, as far as it shows. -/
structure Tallies (one other : Attempt × Session σ) : Prop where
  answer : other.1.undated = one.1.undated
  session : other.2.undated = one.2.undated

theorem tallies_withRun {one other : Session σ} (same : other.undated = one.undated)
    {act again : Nat → Run → Attempt × Session σ}
    (acts : ∀ (handle : Nat) (run latest : Run), latest.undated = run.undated →
      Tallies (act handle run) (again handle latest)) (handle : Option Nat) :
    Tallies (one.withRun handle act) (other.withRun handle again) := by
  have latest : other.latest? = one.latest? := by
    rw [← latest?_undated, same, latest?_undated]
  have found (handle : Nat) :
      (other.run? handle).map Run.undated = (one.run? handle).map Run.undated := by
    rw [← run?_undated, same, run?_undated]
  unfold withRun
  rw [latest]
  split
  · exact ⟨rfl, same⟩
  next handle _ =>
    have shown := found handle
    cases here : one.run? handle with
    | none =>
      rw [here, Option.map_none, Option.map_eq_none_iff] at shown
      rw [shown]
      exact ⟨rfl, same⟩
    | some run =>
      rw [here, Option.map_some] at shown
      obtain ⟨latest, there, alike⟩ := Option.map_eq_some_iff.mp shown
      rw [there]
      exact acts handle run latest alike

theorem tallies_progress {one other : Session σ} (same : other.undated = one.undated)
    (setup again : SessionSetup σ) (handle : Option Nat) :
    Tallies (one.perform setup (.progress handle)) (other.perform again (.progress handle)) := by
  obtain ⟨-, -, shown, -⟩ := undated_eq_iff.mp same
  have told : Tallies
      (one.withRun handle fun _ run => (.ok (.progress run.progress), one))
      (other.withRun handle fun _ run => (.ok (.progress run.progress), other)) := by
    refine tallies_withRun same (fun handle run latest alike => ⟨?_, same⟩) handle
    have progress : latest.undated.progress = run.undated.progress := congrArg _ alike
    exact congrArg (fun progress => Except.ok (StepAnswer.progress progress)) progress
  cases handle with
  | some handle => exact told
  | none =>
    cases runs : one.runs with
    | nil =>
      rw [runs, List.map_nil, List.map_eq_nil_iff] at shown
      simp only [Session.perform, runs, shown]
      exact ⟨rfl, same⟩
    | cons run past =>
      rw [runs, List.map_cons] at shown
      obtain ⟨_, _, runsToo, -, -⟩ := List.map_eq_cons_iff.mp shown
      simp only [Session.perform, runs, runsToo]
      exact told

theorem register_of_undated {one other : Session σ} (same : other.undated = one.undated)
    {run latest : Run} (alike : latest.undated = run.undated) (defaults : Limits) (handle : Nat)
    (callback : Callback) :
    ∃ (result : Except CallbackFailure Unit) (after again : Session σ),
      one.register defaults handle run callback = (result, after) ∧
        other.register defaults handle latest callback = (result, again) ∧
        again.undated = after.undated := by
  have registered := register_undated defaults handle latest callback other
  rw [same, alike, register_undated, Prod.mk.injEq] at registered
  exact ⟨(one.register defaults handle run callback).1,
    (one.register defaults handle run callback).2,
    (other.register defaults handle latest callback).2,
    rfl, Prod.ext registered.1.symm rfl, registered.2.symm⟩

theorem revise_undated (final : Session σ) (attempt : Attempt) :
    (final.revise attempt).undated = final.undated.revise attempt.undated := by
  cases attempt with
  | error failure => rfl
  | ok answer =>
    cases answer with
    | run handle run =>
      simp only [revise, Attempt.undated, Except.map, StepAnswer.undated, run?_undated]
      cases final.run? handle with
      | none => rfl
      | some last => rfl
    | done | started | finished | progress => rfl

theorem performAll_undated (setup : SessionSetup σ) (session : Session σ) (steps : List (Step σ)) :
    (session.performAll setup steps).map StepRecord.undated =
      ((session.recordAll setup steps).1.map StepRecord.undated).map fun record =>
        { record with
          attempt := (session.recordAll setup steps).2.undated.revise record.attempt } := by
  simp only [performAll, List.map_map, Function.comp_def, StepRecord.undated, revise_undated]

/-- Two steps answer the same, and leave the same to be seen at the same time. -/
structure StepRecord.LooksLike (one other : StepRecord σ) : Prop where
  answer : other.attempt.undated = one.attempt.undated
  clock : other.after.clock = one.after.clock
  client : other.after.client = one.after.client
  calls : other.after.callLog = one.after.callLog
  transitions : other.after.statusLog = one.after.statusLog
  notices : other.after.notices = one.after.notices
  reports : other.after.runs.map (·.report) = one.after.runs.map (·.report)
  progress : other.after.runs.map (·.progress) = one.after.runs.map (·.progress)

theorem StepRecord.looksLike_of_undated {one other : StepRecord σ}
    (same : other.undated = one.undated) : one.LooksLike other := by
  obtain ⟨attempt, before, after⟩ := one
  obtain ⟨attemptToo, beforeToo, afterToo⟩ := other
  simp only [undated, StepRecord.mk.injEq] at same
  obtain ⟨answer, -, alike⟩ := same
  obtain ⟨clock, client, shown, notices⟩ := undated_eq_iff.mp alike
  have read {α : Type} (field : Run → α) (visible : ∀ run : Run, field run.undated = field run) :
      afterToo.runs.map field = after.runs.map field := by
    have again := congrArg (List.map field) shown
    simpa only [List.map_map, Function.comp_def, visible] using again
  have logged {α : Type} (field : Run → List α)
      (visible : ∀ run : Run, field run.undated = field run) :
      afterToo.runs.reverse.flatMap field = after.runs.reverse.flatMap field := by
    rw [List.flatMap_def, List.flatMap_def, List.map_reverse, List.map_reverse, read field visible]
  exact
    { answer, clock, client, notices
      calls := logged Run.callLog fun _ => rfl
      transitions := logged Run.statusLog fun _ => rfl
      reports := read Run.report fun _ => rfl
      progress := read Run.progress fun _ => rfl }

section polling

variable {setup : SessionSetup σ} {poll : Nat} (positive : 0 < poll)
  (short : setup.poll < Nat.pow 2 53) (brief : poll < Nat.pow 2 53) {one other : Session σ}

include short brief

theorem Attended.perform_polling (attended : one.Attended setup)
    (also : other.Attended (setup.polling poll positive)) (same : other.undated = one.undated)
    {step : Step σ} (unmarked : ∀ handle index status, step ≠ .mark handle index status) :
    Tallies (one.perform setup step) (other.perform (setup.polling poll positive) step) := by
  obtain ⟨clock, client, shown, notices⟩ := undated_eq_iff.mp same
  have later (duration : Nat) : one.clock ≤ one.clock + duration := Nat.le_add_right _ _
  cases step with
  | start request =>
    have started := startStep_undated setup request other
    rw [same, startStep_undated, Prod.mk.injEq] at started
    exact ⟨congrArg _ started.1.symm, started.2.symm⟩
  | advance duration =>
    refine ⟨rfl, ?_⟩
    simp only [Session.perform, clock]
    exact attended.passUntil_polling positive short brief also same (later duration)
  | wait handle duration =>
    refine tallies_withRun same (fun handle _ _ _ => ?_) handle
    rw [clock]
    obtain ⟨inTime, alike⟩ :=
      attended.waitUntil_polling positive short brief also same (later duration) handle
    exact ⟨congrArg (fun inTime => Except.ok (StepAnswer.finished inTime)) inTime, alike⟩
  | cancel handle =>
    refine tallies_withRun same (fun handle run latest alike => ?_) handle
    refine ⟨rfl, ?_⟩
    simp only [← setRun_undated, same, ← Run.cancel_undated, alike]
  | progress handle => exact tallies_progress same setup (setup.polling poll positive) handle
  | inspect handle =>
    refine tallies_withRun same (fun handle run latest alike => ⟨?_, same⟩) handle
    exact congrArg (fun shown => Except.ok (StepAnswer.run handle shown)) alike
  | mark handle index status => exact absurd rfl (unmarked handle index status)
  | adjust change =>
    exact ⟨rfl, undated_eq_iff.mpr ⟨clock, congrArg change client, shown, notices⟩⟩
  | onComplete handle callback =>
    refine tallies_withRun same (fun handle run latest alike => ?_) handle
    obtain ⟨result, after, again, here, there, shown⟩ :=
      register_of_undated same alike setup.defaults handle callback
    simp only [SessionSetup.defaults_polling, here, there]
    cases result with
    | ok _ => exact ⟨rfl, shown⟩
    | error failure => exact ⟨rfl, shown⟩

theorem Attended.recordAll_polling (attended : one.Attended setup)
    (also : other.Attended (setup.polling poll positive)) (same : other.undated = one.undated)
    {steps : List (Step σ)}
    (unmarked : ∀ step ∈ steps, ∀ handle index status, step ≠ .mark handle index status) :
    (other.recordAll (setup.polling poll positive) steps).1.map StepRecord.undated =
        (one.recordAll setup steps).1.map StepRecord.undated ∧
      (other.recordAll (setup.polling poll positive) steps).2.undated =
        (one.recordAll setup steps).2.undated := by
  induction steps generalizing one other with
  | nil => exact ⟨rfl, same⟩
  | cons step rest ih =>
    have head := unmarked step List.mem_cons_self
    obtain ⟨answer, session⟩ := attended.perform_polling positive short brief also same head
    obtain ⟨records, final⟩ := ih (attended.perform head) (also.perform head) session
      fun other member => unmarked other (List.mem_cons_of_mem _ member)
    refine ⟨?_, final⟩
    simp only [recordAll, List.map_cons, StepRecord.undated, answer, same, session, records]

theorem Attended.performAll_polling (attended : one.Attended setup)
    (also : other.Attended (setup.polling poll positive)) (same : other.undated = one.undated)
    {steps : List (Step σ)}
    (unmarked : ∀ step ∈ steps, ∀ handle index status, step ≠ .mark handle index status) :
    (other.performAll (setup.polling poll positive) steps).map StepRecord.undated =
      (one.performAll setup steps).map StepRecord.undated := by
  obtain ⟨records, final⟩ :=
    attended.recordAll_polling positive short brief also same unmarked
  rw [performAll_undated, performAll_undated, records, final]

end polling

/-- Whatever a script does, nothing of it shows how often the runs are polled: with any two poll
intervals every step answers the same, at the same time, and leaves the same calls, status changes,
notices of completion, progress and reports. -/
theorem poll_unobservable (setup : SessionSetup σ) {poll : Nat} (positive : 0 < poll)
    (short : setup.poll < Nat.pow 2 53) (brief : poll < Nat.pow 2 53) (client : σ)
    {steps : List (Step σ)}
    (unmarked : ∀ step ∈ steps, ∀ handle index status, step ≠ .mark handle index status) :
    List.Forall₂ StepRecord.LooksLike
      (({ client } : Session σ).performAll setup steps)
      (({ client } : Session σ).performAll (setup.polling poll positive) steps) := by
  have alike := (attended_init setup client).performAll_polling positive short brief
    (attended_init _ client) rfl unmarked
  rw [← List.forall₂_eq_eq_eq, List.forall₂_map_left_iff, List.forall₂_map_right_iff] at alike
  exact alike.flip.imp fun _ _ same => StepRecord.looksLike_of_undated same

def slowlyCreating : List (Step Unit) :=
  [.start { commands := Machine.twoCreations.commands, throttle := some 30 },
   .onComplete none (.observe (.note "over")), .advance 40, .progress none, .advance 100]

/-- Halfway the run waits for another poll, and at the end it has its report at the same time. -/
theorem poll_unobservable_slowlyCreating :
    List.Forall₂ StepRecord.LooksLike
        (({ client := () } : Session Unit).performAll sparing slowlyCreating)
        (({ client := () } : Session Unit).performAll (sparing.polling 7 (by decide))
          slowlyCreating) ∧
      (({ client := () } : Session Unit).recordAll sparing (slowlyCreating.take 4)).2.runs.map
        (·.phase) = [.blocked 70] ∧
      (({ client := () } : Session Unit).recordAll (sparing.polling 7 (by decide))
        (slowlyCreating.take 4)).2.runs.map (·.phase) = [.blocked 47] ∧
      (({ client := () } : Session Unit).recordAll sparing slowlyCreating).2.notices.map
        (·.time) = [50] ∧
      (({ client := () } : Session Unit).recordAll (sparing.polling 7 (by decide))
        slowlyCreating).2.notices.map (·.time) = [50] := by
  refine ⟨?_, by decide +kernel, by decide +kernel, by decide +kernel, by decide +kernel⟩
  exact poll_unobservable sparing (by decide) (by decide) (by decide) ()
    (by simp [slowlyCreating])

end Session

end EditBatch
