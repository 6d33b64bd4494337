import EditBatch.Proofs.Session.Order

/-! The runs of a session take courses.

Whatever a script does to a session, short of marking commands behind the back of their run, each
run goes from one state of a course to a later one. So what holds of all reachable states of a
run holds in all sessions. Time passes by the runs that have their report, and it passes the
moment up to which a session goes on only when the latest run has nothing left to do by then.
-/

set_option autoImplicit false

namespace EditBatch

namespace Session

variable {σ : Type}

/-! ## Time -/

def Resting (horizon : Nat) (session : Session σ) : Prop :=
  ∀ (handle : Nat) (run : Run), session.run? handle = some run →
    ∀ time, run.readyAt? = some time → horizon < time

theorem Orderly.rests {session : Session σ} (orderly : session.Orderly) {handle time : Nat}
    {run : Run} (found : session.run? handle = some run) (inactive : run.isActive = false) :
    run.readyAt? ≠ some time := by
  obtain ⟨-, outcome, ended⟩ := orderly.ended found inactive
  simp [Run.readyAt?, ended]

theorem Resting.onward (setup : SessionSetup σ) {horizon : Nat} {session : Session σ}
    (resting : session.Resting horizon) :
    session.Onward setup { session with clock := max session.clock horizon } := by
  refine onward_of_goes rfl fun handle run found => ⟨run, found, ?_⟩
  by_cases later : session.clock ≤ horizon
  · rw [Nat.max_eq_right later]
    exact .single (.wait horizon later (Machine.step?_eq_none_iff.mpr (resting handle run found)))
  · rw [Nat.max_eq_left (by omega)]
    exact .refl

-- Only the latest run makes steps. The others see the clock and the client change.
theorem onward_moved {setup : SessionSetup σ} {session next : Session σ} {run : Run}
    {past : List Run} {machine : Machine σ} (orderly : session.Orderly)
    (runs : session.runs = run :: past)
    (steps : Machine.Steps setup.toSetup ⟨session.clock, run, session.client⟩ machine)
    (clock : next.clock = machine.clock) (client : next.client = machine.client)
    (moved : next.runs = machine.run :: past) : session.Onward setup next := by
  refine onward_of_goes (by rw [moved, runs, List.length_cons, List.length_cons]) ?_
  intro handle held found
  rw [clock, client]
  have length : session.runs.length = past.length + 1 := by rw [runs, List.length_cons]
  have bound := lt_of_run? found
  by_cases latest : handle = past.length
  · subst latest
    cases (run?_latest runs).symm.trans found
    exact ⟨machine.run, run?_latest moved, steps.reaches⟩
  · have inactive := orderly.past found (by omega)
    have idle : Machine.step? setup.toSetup machine.clock
        ⟨session.clock, held, session.client⟩ = none :=
      Machine.step?_eq_none_iff.mpr fun time ready => absurd ready (orderly.rests found inactive)
    exact ⟨held, (run?_past runs moved latest).trans found,
      .tail (.single (.wait machine.clock steps.clock_le idle)) (.share machine.client)⟩

theorem Orderly.moved {setup : SessionSetup σ} {session next : Session σ} {run : Run}
    {past : List Run} {machine : Machine σ} (orderly : session.Orderly)
    (runs : session.runs = run :: past)
    (steps : Machine.Steps setup.toSetup ⟨session.clock, run, session.client⟩ machine)
    (moved : next.runs = machine.run :: past) : next.Orderly := by
  have registers := steps.registers
  constructor
  · intro handle held found inactive
    by_cases latest : handle = past.length
    · subst latest
      cases (run?_latest moved).symm.trans found
      rw [Run.isActive, registers.report] at inactive
      obtain ⟨finished, outcome, ended⟩ := orderly.ended (run?_latest runs) inactive
      rw [steps.eq_of_ended ended]
      exact ⟨finished, outcome, ended⟩
    · rw [run?_past runs moved latest] at found
      exact orderly.ended found inactive
  · intro handle held found early
    rw [moved, List.length_cons] at early
    rw [run?_past runs moved (by omega)] at found
    exact orderly.past found (by rw [runs, List.length_cons]; exact early)

theorem goOn_of_nil (setup : SessionSetup σ) (horizon : Nat) {session : Session σ}
    (runs : session.runs = []) : session.goOn setup horizon = session := by
  simp only [goOn, runs]

def reportLatest (defaults : Limits) (session : Session σ) : Session σ :=
  match session.runs with
  | [] => session
  | run :: _ =>
    match run.phase with
    | .ended outcome => if run.isActive then session.finishLatest defaults outcome else session
    | _ => session

theorem goOn_eq (setup : SessionSetup σ) (horizon : Nat) {session : Session σ} {run : Run}
    {past : List Run} {machine : Machine σ} (runs : session.runs = run :: past)
    (goes : Machine.runUntil setup.toSetup horizon ⟨session.clock, run, session.client⟩ = machine) :
    session.goOn setup horizon =
      reportLatest setup.defaults
        { session with
          clock := machine.clock, client := machine.client, runs := machine.run :: past } := by
  subst goes
  simp only [goOn, runs]
  rfl

/-- The latest run makes its steps, and gets its report if it has ended. -/
theorem goOn_spec (setup : SessionSetup σ) (horizon : Nat) {session : Session σ} {run : Run}
    {past : List Run} (runs : session.runs = run :: past) :
    ∃ (machine : Machine σ) (moved : Session σ),
      machine = Machine.runUntil setup.toSetup horizon ⟨session.clock, run, session.client⟩ ∧
      moved.clock = machine.clock ∧ moved.client = machine.client ∧
      moved.runs = machine.run :: past ∧
      (session.goOn setup horizon = moved ∧
          (∀ outcome, machine.run.phase = .ended outcome → machine.run.isActive = false) ∨
        ∃ outcome, machine.run.phase = .ended outcome ∧ machine.run.isActive = true ∧
          session.goOn setup horizon = moved.finishLatest setup.defaults outcome) := by
  refine ⟨_, { session with clock := _, client := _, runs := _ :: past }, rfl, rfl, rfl, rfl, ?_⟩
  simp only [goOn, runs]
  split
  next outcome ended =>
    split
    next active => exact .inr ⟨outcome, ended, active, rfl⟩
    next inactive => exact .inl ⟨rfl, fun _ _ => Bool.eq_false_iff.mpr inactive⟩
  next unended => exact .inl ⟨rfl, fun outcome ended => absurd ended (unended outcome)⟩

theorem onward_goOn (setup : SessionSetup σ) {session : Session σ} (orderly : session.Orderly)
    (horizon : Nat) :
    session.Onward setup (session.goOn setup horizon) ∧ (session.goOn setup horizon).Orderly := by
  cases runs : session.runs with
  | nil =>
    rw [goOn_of_nil setup horizon runs]
    exact ⟨.refl setup session, orderly⟩
  | cons run past =>
    obtain ⟨machine, moved, rfl, clock, client, current, rest⟩ := goOn_spec setup horizon runs
    have steps := Machine.steps_runUntil setup.toSetup horizon
      ⟨session.clock, run, session.client⟩
    have onward := onward_moved orderly runs steps clock client current
    have kept := orderly.moved runs steps current
    rcases rest with ⟨same, -⟩ | ⟨outcome, ended, active, same⟩
    · rw [same]
      exact ⟨onward, kept⟩
    · rw [same]
      exact ⟨onward.trans (onward_finishLatest current ended active),
        kept.finishLatest current ended⟩

theorem Orderly.resting_moved {setup : SessionSetup σ} {horizon : Nat} {session next : Session σ}
    {run : Run} {past : List Run} (orderly : session.Orderly) (runs : session.runs = run :: past)
    (moved : next.runs = (Machine.runUntil setup.toSetup horizon
      ⟨session.clock, run, session.client⟩).run :: past) : next.Resting horizon := by
  intro handle held found
  have length : session.runs.length = past.length + 1 := by rw [runs, List.length_cons]
  have bound := lt_of_run? found
  rw [moved, List.length_cons] at bound
  by_cases latest : handle = past.length
  · subst latest
    cases (run?_latest moved).symm.trans found
    exact Machine.step?_eq_none_iff.mp (Machine.step?_runUntil setup.toSetup horizon _)
  · rw [run?_past runs moved latest] at found
    intro time ready
    exact absurd ready (orderly.rests found (orderly.past found (by omega)))

theorem Orderly.resting_goOn {setup : SessionSetup σ} {horizon : Nat} {session : Session σ}
    {run : Run} {past : List Run} (orderly : session.Orderly) (runs : session.runs = run :: past)
    (observed : run.callbacks = []) : (session.goOn setup horizon).Resting horizon := by
  obtain ⟨machine, moved, rfl, -, -, current, rest⟩ := goOn_spec setup horizon runs
  have steps := Machine.steps_runUntil setup.toSetup horizon ⟨session.clock, run, session.client⟩
  rcases rest with ⟨same, -⟩ | ⟨outcome, ended, -, same⟩
  · rw [same]
    exact orderly.resting_moved runs current
  · obtain ⟨observers, registered⟩ := steps.registers.callbacks
    obtain ⟨opened, -, found, final, unopened⟩ :=
      finishLatest_spec setup.defaults outcome current
    have length := unopened observers (by rw [registered, observed, List.nil_append])
    have finished : (moved.finishLatest setup.defaults outcome).Orderly :=
      (orderly.moved runs steps current).finishLatest current ended
    rw [same]
    intro handle held there time ready
    have bound := lt_of_run? there
    have size : (moved.finishLatest setup.defaults outcome).runs.length = past.length + 1 := by
      rw [final, length_setRun, length, current, List.length_cons]
    refine absurd ready (finished.rests there ?_)
    by_cases latest : handle = past.length
    · rw [final, run?_setRun found, if_pos latest] at there
      cases there
      rfl
    · exact finished.past there (by omega)

theorem callbacks_finishLatest {defaults : Limits} {outcome : Outcome} {session : Session σ}
    {run held : Run} {past rest : List Run} (runs : session.runs = run :: past)
    (after : (session.finishLatest defaults outcome).runs = held :: rest) :
    held.callbacks = [] := by
  obtain ⟨opened, opens, found, final, -⟩ := finishLatest_spec defaults outcome runs
  have size : opened.runs.length = rest.length + 1 := by
    rw [← List.length_cons, ← after, final, length_setRun]
  have bound := lt_of_run? found
  have there := run?_latest after
  rw [final, run?_setRun found] at there
  split at there
  · cases there
    rfl
  next elsewhere =>
    rcases opens.origin there with before | ⟨-, unregistered, -⟩
    · rw [run?_setRun (run?_latest runs), if_neg elsewhere] at before
      have early := lt_of_run? before
      rw [runs, List.length_cons] at early
      omega
    · exact unregistered

theorem Orderly.resting_again (setup : SessionSetup σ) {session : Session σ}
    (orderly : session.Orderly) (horizon : Nat) :
    ((session.goOn setup horizon).goOn setup horizon).Resting horizon := by
  have kept := (onward_goOn setup orderly horizon).2
  cases runs : session.runs with
  | nil =>
    rw [goOn_of_nil setup horizon runs, goOn_of_nil setup horizon runs]
    intro handle run found
    simp [run?, runs] at found
  | cons run past =>
    obtain ⟨machine, moved, isMachine, clock, client, current, rest⟩ :=
      goOn_spec setup horizon runs
    rcases rest with ⟨same, settled⟩ | ⟨outcome, ended, -, same⟩
    · rw [same] at kept ⊢
      obtain ⟨again, twice, isAgain, -, -, stays, rest⟩ := goOn_spec setup horizon current
      rcases rest with ⟨same, -⟩ | ⟨outcome, ended, active, -⟩
      · rw [same]
        exact kept.resting_moved current (by rw [stays, isAgain])
      · have rests : machine.step? setup.toSetup horizon = none := by
          rw [isMachine]
          exact Machine.step?_runUntil _ _ _
        have still : again = machine := by
          rw [isAgain, clock, client]
          exact Machine.runUntil_eq_self rests
        rw [still] at ended active
        simp [settled outcome ended] at active
    · rw [same] at kept ⊢
      cases after : (moved.finishLatest setup.defaults outcome).runs with
      | nil =>
        intro handle held found
        simp only [goOn, after] at found
        simp [run?, after] at found
      | cons latest rest => exact kept.resting_goOn after (callbacks_finishLatest current after)

-- If the latest run got its report, every run that was there has finished, and so has the awaited
-- one; a run that a callback started is then left for the next step of the script.
theorem Orderly.resting_of_unfinished {setup : SessionSetup σ} {horizon handle : Nat}
    {session : Session σ} {run : Run} (orderly : session.Orderly)
    (found : session.run? handle = some run)
    (unfinished : (session.goOn setup horizon).isFinished handle = false) :
    (session.goOn setup horizon).Resting horizon := by
  cases runs : session.runs with
  | nil => simp [run?, runs] at found
  | cons latest past =>
    obtain ⟨machine, moved, rfl, -, -, current, rest⟩ := goOn_spec setup horizon runs
    rcases rest with ⟨same, -⟩ | ⟨outcome, ended, -, same⟩
    · rw [same]
      exact orderly.resting_moved runs current
    · obtain ⟨opened, opens, reported, final, -⟩ :=
        finishLatest_spec setup.defaults outcome current
      have bound := lt_of_run? found
      rw [runs, List.length_cons] at bound
      rw [same, final, isFinished, run?_setRun reported] at unfinished
      split at unfinished
      · simp at unfinished
      next elsewhere =>
        have kept : opened.run? handle = some run := by
          apply opens.kept
          rw [run?_setRun (run?_latest current), if_neg elsewhere,
            run?_past runs current elsewhere]
          exact found
        have inactive := orderly.past found (by rw [runs, List.length_cons]; omega)
        simp [kept, (orderly.ended found inactive).1] at unfinished

theorem onward_passUntil {setup : SessionSetup σ} {session : Session σ}
    (orderly : session.Orderly) (horizon : Nat) :
    session.Onward setup (session.passUntil setup horizon) ∧
      (session.passUntil setup horizon).Orderly := by
  obtain ⟨once, orderlyOnce⟩ := onward_goOn setup orderly horizon
  obtain ⟨twice, orderlyTwice⟩ := onward_goOn setup orderlyOnce horizon
  have later := (orderly.resting_again setup horizon).onward setup
  exact ⟨(once.trans twice).trans later, ⟨orderlyTwice.ended, orderlyTwice.past⟩⟩

theorem onward_waitUntil {setup : SessionSetup σ} {session : Session σ} {handle : Nat} {run : Run}
    (orderly : session.Orderly) (found : session.run? handle = some run) (horizon : Nat) :
    session.Onward setup (session.waitUntil setup handle horizon).2 ∧
      (session.waitUntil setup handle horizon).2.Orderly := by
  obtain ⟨onward, kept⟩ := onward_goOn setup orderly horizon
  unfold waitUntil
  split
  · exact ⟨.refl setup session, orderly⟩
  · simp only
    split
    · exact ⟨onward, kept⟩
    next unfinished =>
      have resting := orderly.resting_of_unfinished found (Bool.eq_false_iff.mpr unfinished)
      exact ⟨onward.trans (resting.onward setup), ⟨kept.ended, kept.past⟩⟩

/-! ## Scripts -/

theorem onward_cancel {setup : SessionSetup σ} {session : Session σ} {handle : Nat} {run : Run}
    (orderly : session.Orderly) (found : session.run? handle = some run) :
    session.Onward setup (session.setRun handle run.cancel) ∧
      (session.setRun handle run.cancel).Orderly := by
  refine ⟨onward_setRun found (.single .cancel), orderly.setRun found run.isActive_cancel ?_⟩
  intro inactive
  rw [Run.isActive_cancel] at inactive
  rw [Run.cancel_of_inactive inactive]
  exact orderly.ended found inactive

theorem onward_register (setup : SessionSetup σ) {session : Session σ} {handle : Nat} {run : Run}
    (orderly : session.Orderly) (found : session.run? handle = some run) (callback : Callback) :
    session.Onward setup (session.register setup.defaults handle run callback).2 ∧
      (session.register setup.defaults handle run callback).2.Orderly := by
  unfold register
  split
  next report _ =>
    have opens := opens_call setup.defaults report session callback
    exact ⟨opens.onward, opens.orderly orderly⟩
  next unreported =>
    refine ⟨onward_setRun found (.single (.register callback)), orderly.setRun found rfl ?_⟩
    intro inactive
    simp [Run.isActive, unreported] at inactive

theorem withRun_of_forall {session : Session σ} {act : Nat → Run → Attempt × Session σ}
    (Holds : Session σ → Prop) (initially : Holds session)
    (acts : ∀ (handle : Nat) (run : Run), session.run? handle = some run →
      Holds (act handle run).2) (handle : Option Nat) : Holds (session.withRun handle act).2 := by
  unfold withRun
  split
  · exact initially
  · split
    · exact initially
    next run found => exact acts _ run found

theorem onward_perform {setup : SessionSetup σ} {session : Session σ} (orderly : session.Orderly)
    {step : Step σ} (unmarked : ∀ handle index status, step ≠ .mark handle index status) :
    session.Onward setup (session.perform setup step).2 ∧
      (session.perform setup step).2.Orderly := by
  have same : session.Onward setup session ∧ session.Orderly := ⟨.refl setup session, orderly⟩
  cases step with
  | start request =>
    cases started : session.start setup.defaults request with
    | error refusal => simpa only [perform, startStep, started] using same
    | ok next =>
      have opens := opens_of_start started
      simpa only [perform, startStep, started] using And.intro opens.onward (opens.orderly orderly)
  | advance duration => exact onward_passUntil orderly _
  | wait handle duration =>
    exact withRun_of_forall (fun next => session.Onward setup next ∧ next.Orderly) same
      (fun _ _ found => onward_waitUntil orderly found _) handle
  | cancel handle =>
    exact withRun_of_forall (fun next => session.Onward setup next ∧ next.Orderly) same
      (fun _ _ found => onward_cancel orderly found) handle
  | progress handle =>
    simp only [perform]
    split
    · exact same
    · exact withRun_of_forall (fun next => session.Onward setup next ∧ next.Orderly) same
        (fun _ _ _ => same) _
  | inspect handle =>
    exact withRun_of_forall (fun next => session.Onward setup next ∧ next.Orderly) same
      (fun _ _ _ => same) handle
  | mark handle index status => exact absurd rfl (unmarked handle index status)
  | adjust change =>
    refine ⟨?_, orderly.ended, orderly.past⟩
    exact onward_of_goes rfl fun _ run found => ⟨run, found, .single (.share _)⟩
  | onComplete handle callback =>
    refine withRun_of_forall (fun next => session.Onward setup next ∧ next.Orderly) same ?_ handle
    intro handle run found
    have registered := onward_register setup orderly found callback
    split
    next result next called => simpa only [called] using registered
    next failure next called => simpa only [called] using registered

theorem onward_recordAll {setup : SessionSetup σ} {session : Session σ} {steps : List (Step σ)}
    (orderly : session.Orderly)
    (unmarked : ∀ step ∈ steps, ∀ handle index status, step ≠ .mark handle index status) :
    session.Onward setup (session.recordAll setup steps).2 := by
  induction steps generalizing session with
  | nil => exact .refl setup session
  | cons step rest ih =>
    obtain ⟨onward, kept⟩ := onward_perform orderly (unmarked step List.mem_cons_self)
    exact onward.trans (ih kept fun other member => unmarked other (List.mem_cons_of_mem _ member))

/-- Every run of a session is in a state that its course reaches. -/
theorem reaches_of_recordAll {setup : SessionSetup σ} {client : σ} {steps : List (Step σ)}
    {handle : Nat} {run : Run}
    (unmarked : ∀ step ∈ steps, ∀ handle index status, step ≠ .mark handle index status)
    (found : (({ client } : Session σ).recordAll setup steps).2.run? handle = some run) :
    ∃ (clock : Nat) (request : StartRequest) (origin : σ),
      (Machine.start clock request.commands
        (requestedLimits setup.defaults request).concurrency.toNat
        (requestedLimits setup.defaults request).throttle.toNat origin).Reaches setup.toSetup
        ⟨(({ client } : Session σ).recordAll setup steps).2.clock, run,
          (({ client } : Session σ).recordAll setup steps).2.client⟩ := by
  have orderly : ({ client } : Session σ).Orderly := by
    constructor <;> simp [run?]
  rcases (onward_recordAll orderly unmarked).comes found with ⟨before, there⟩ | granted
  · simp [run?] at there
  · exact granted

end Session

end EditBatch
