import EditBatch.Proofs.Run.Flights
import EditBatch.Proofs.Session.Course

/-! The runs of a session between the steps of a script.

A run that has come to its outcome gets its report before anything else happens, so that every
moment at which a caller can do something to an active run comes before the decision of its loop.
What is kept by the few things that a script can do to a session holds after every script.
-/

set_option autoImplicit false

namespace EditBatch

namespace Machine

variable {σ : Type}

theorem clock_runUntil_le (setup : Setup σ) (horizon : Nat) (machine : Machine σ) :
    (machine.runUntil setup horizon).clock ≤ max machine.clock horizon := by
  fun_induction runUntil setup horizon machine with
  | case1 machine next due ih =>
    have soon := clock_step?_le due
    omega
  | case2 machine rests => exact Nat.le_max_left _ _

theorem ended_of_decision? {setup : Setup σ} {clock limit throttle : Nat} {client : σ}
    {commands : List Command} {machine : Machine σ} {horizon : Nat} {outcome : Outcome}
    (reached : (start clock commands limit throttle client).Reaches setup machine)
    (rests : machine.step? setup horizon = none) (passed : machine.clock ≤ horizon)
    (decided : machine.run.decision? = some outcome) : machine.run.phase = .ended outcome := by
  have aired := Reaches.aired reached
  have landed := aired.landed (by simp [decided])
  have spent : machine.run.lastEnd ≤ machine.clock := by simpa [landed] using aired.spent
  unfold Run.decision? at decided
  split at decided
  next former phase =>
    have late := step?_eq_none_iff.mp rests machine.run.lastEnd (by simp [Run.readyAt?, phase])
    omega
  next former phase =>
    cases decided
    exact phase
  next => simp at decided

end Machine

namespace Session

variable {σ : Type}

/-! ## All runs -/

def Every (Holds : Run → Prop) (session : Session σ) : Prop :=
  ∀ (handle : Nat) (run : Run), session.run? handle = some run → Holds run

theorem Opens.every {defaults : Limits} {session next : Session σ} {Holds : Run → Prop}
    (opens : session.Opens defaults next) (every : session.Every Holds)
    (fresh : ∀ request, Holds (newRun defaults request)) : next.Every Holds := by
  intro handle run found
  cases opens with
  | none clock client runs =>
    rw [run?, runs] at found
    exact every handle run found
  | start request idle clock client runs =>
    rw [run?_cons runs] at found
    split at found
    · cases found
      exact fresh request
    · exact every handle run found

theorem Every.setRun {session : Session σ} {Holds : Run → Prop} (every : session.Every Holds)
    {handle : Nat} {old run : Run} (found : session.run? handle = some old) (holds : Holds run) :
    (session.setRun handle run).Every Holds := by
  intro other held there
  rw [run?_setRun found] at there
  split at there
  · cases there
    exact holds
  · exact every other held there

theorem Every.of_runs {session next : Session σ} {Holds : Run → Prop} (every : session.Every Holds)
    (runs : next.runs = session.runs) : next.Every Holds := by
  intro handle run found
  rw [run?, runs] at found
  exact every handle run found

/-- What holds of the latest run where it stops, or once it has its report, holds of every run of a
session that has gone on. -/
theorem Every.goOn {setup : SessionSetup σ} {session : Session σ} {horizon : Nat}
    {Holds : Run → Prop} (every : session.Every Holds)
    (fresh : ∀ request, Holds (newRun setup.defaults request))
    (latest : ∀ (run : Run) (past : List Run), session.runs = run :: past → ∀ next : Run,
      next = (Machine.runUntil setup.toSetup horizon
        ⟨session.clock, run, session.client⟩).run →
      ((∀ outcome, next.phase = .ended outcome → next.isActive = false) → Holds next) ∧
      ∀ outcome, next.phase = .ended outcome →
        Holds (next.close outcome) ∧ Holds { next.close outcome with finished := true }) :
    (session.goOn setup horizon).Every Holds := by
  cases runs : session.runs with
  | nil =>
    rw [goOn_of_nil setup horizon runs]
    exact every
  | cons run past =>
    obtain ⟨machine, moved, isMachine, -, -, current, rest⟩ := goOn_spec setup horizon runs
    obtain ⟨stopped, closed⟩ := latest run past runs machine.run (congrArg Machine.run isMachine)
    have reset {next : Run} (holds : Holds next) : (moved.setRun past.length next).Every Holds := by
      intro handle held found
      rw [run?_setRun (run?_latest current)] at found
      split at found
      · cases found
        exact holds
      next earlier =>
        rw [run?_past runs current earlier] at found
        exact every handle held found
    rcases rest with ⟨same, settled⟩ | ⟨outcome, ended, -, same⟩
    · rw [same]
      refine (reset (stopped settled)).of_runs ?_
      rw [setRun_latest current, current]
    · obtain ⟨opened, opens, reported, final, -⟩ :=
        finishLatest_spec setup.defaults outcome current
      obtain ⟨holds, finished⟩ := closed outcome ended
      rw [same, final]
      exact (opens.every (reset holds) fresh).setRun reported finished

/-! ## Moments -/

/-- No run that still waits for its report has come to its outcome. -/
def Undecided (session : Session σ) : Prop :=
  ∀ (handle : Nat) (run : Run), session.run? handle = some run → run.isActive = true →
    run.decision? = none

theorem Opens.undecided {defaults : Limits} {session next : Session σ}
    (opens : session.Opens defaults next) (undecided : session.Undecided) : next.Undecided :=
  opens.every undecided fun _ _ => rfl

theorem Undecided.goOn {setup : SessionSetup σ} {session : Session σ} {horizon : Nat}
    (undecided : session.Undecided)
    (granted : ∀ (handle : Nat) (run : Run), session.run? handle = some run →
      session.Granted setup run)
    (later : session.clock ≤ horizon) : (session.goOn setup horizon).Undecided := by
  refine Every.goOn undecided (fun _ _ => rfl) fun run past runs next isNext => ?_
  constructor
  · intro settled active
    obtain ⟨clock, request, origin, reached⟩ := granted _ run (run?_latest runs)
    have steps := Machine.steps_runUntil setup.toSetup horizon
      ⟨session.clock, run, session.client⟩
    have bound := Machine.clock_runUntil_le setup.toSetup horizon
      ⟨session.clock, run, session.client⟩
    have rests := Machine.step?_runUntil setup.toSetup horizon
      ⟨session.clock, run, session.client⟩
    rw [Nat.max_eq_right later] at bound
    cases decision : next.decision? with
    | none => rfl
    | some outcome =>
      subst isNext
      have ended := Machine.ended_of_decision? (reached.trans steps.reaches) rests bound decision
      simp [settled outcome ended] at active
  · intro outcome _
    simp [Run.close, Run.isActive]

theorem clock_goOn_le (setup : SessionSetup σ) (horizon : Nat) (session : Session σ) :
    (session.goOn setup horizon).clock ≤ max session.clock horizon := by
  cases runs : session.runs with
  | nil =>
    rw [goOn_of_nil setup horizon runs]
    exact Nat.le_max_left _ _
  | cons run past =>
    obtain ⟨machine, moved, isMachine, clock, -, current, rest⟩ := goOn_spec setup horizon runs
    have bound := Machine.clock_runUntil_le setup.toSetup horizon
      ⟨session.clock, run, session.client⟩
    rw [← isMachine, ← clock] at bound
    rcases rest with ⟨same, -⟩ | ⟨outcome, -, -, same⟩
    · rw [same]
      exact bound
    · obtain ⟨opened, opens, -, final, -⟩ := finishLatest_spec setup.defaults outcome current
      rw [same, final]
      cases opens with
      | none clock => exact clock ▸ bound
      | start request idle clock => exact clock ▸ bound

/-- Between the steps of a script every run has been granted, and none is decided but unreported. -/
structure Attended (setup : SessionSetup σ) (session : Session σ) : Prop where
  orderly : session.Orderly
  granted : ∀ (handle : Nat) (run : Run), session.run? handle = some run →
    session.Granted setup run
  undecided : session.Undecided

theorem Onward.granted_all {setup : SessionSetup σ} {session next : Session σ}
    (onward : session.Onward setup next)
    (granted : ∀ (handle : Nat) (run : Run), session.run? handle = some run →
      session.Granted setup run) (handle : Nat) (run : Run)
    (found : next.run? handle = some run) : next.Granted setup run := by
  rcases onward.comes found with ⟨before, there⟩ | fresh
  · exact onward.granted there found (granted handle before there)
  · exact fresh

theorem Attended.goOn {setup : SessionSetup σ} {session : Session σ} {horizon : Nat}
    (attended : session.Attended setup) (later : session.clock ≤ horizon) :
    (session.goOn setup horizon).Attended setup := by
  obtain ⟨onward, orderly⟩ := onward_goOn setup attended.orderly horizon
  exact ⟨orderly, onward.granted_all attended.granted,
    attended.undecided.goOn attended.granted later⟩

/-! ## Steps -/

/-- What is kept by all that a step of a script does to a session, short of marking commands. -/
structure Keeps (setup : SessionSetup σ) (Holds : Session σ → Prop) : Prop where
  opens : ∀ {session next : Session σ}, session.Opens setup.defaults next → Holds session →
    Holds next
  goes : ∀ {session : Session σ} {horizon : Nat}, session.Attended setup →
    session.clock ≤ horizon → Holds session → Holds (session.goOn setup horizon)
  runs : ∀ {session next : Session σ}, next.runs = session.runs → Holds session → Holds next
  cancels : ∀ {session : Session σ} {handle : Nat} {run : Run},
    session.run? handle = some run → Holds session → Holds (session.setRun handle run.cancel)
  registers : ∀ {session : Session σ} {handle : Nat} {run : Run} (callback : Callback),
    session.run? handle = some run → run.isActive = true → Holds session →
    Holds (session.setRun handle { run with callbacks := run.callbacks ++ [callback] })

theorem Keeps.perform {setup : SessionSetup σ} {Holds : Session σ → Prop}
    (keeps : Keeps setup Holds) {session : Session σ} {step : Step σ}
    (attended : session.Attended setup)
    (unmarked : ∀ handle index status, step ≠ .mark handle index status) (holds : Holds session) :
    Holds (session.perform setup step).2 := by
  cases step with
  | start request =>
    cases started : session.start setup.defaults request with
    | error refusal => simpa only [Session.perform, startStep, started] using holds
    | ok next =>
      simpa only [Session.perform, startStep, started] using
        keeps.opens (opens_of_start started) holds
  | advance duration =>
    have later := Nat.le_add_right session.clock duration
    have once := keeps.goes attended later holds
    have bound := clock_goOn_le setup (session.clock + duration) session
    rw [Nat.max_eq_right later] at bound
    have twice := keeps.goes (attended.goOn later) bound once
    refine keeps.runs ?_ twice
    rfl
  | wait handle duration =>
    refine withRun_of_forall Holds holds ?_ handle
    intro handle run found
    have later : session.clock ≤ session.clock + duration := Nat.le_add_right _ _
    have once := keeps.goes attended later holds
    simp only [waitUntil]
    split
    · exact holds
    · split
      · exact once
      · refine keeps.runs ?_ once
        rfl
  | cancel handle =>
    exact withRun_of_forall Holds holds (fun _ _ found => keeps.cancels found holds) handle
  | progress handle =>
    simp only [Session.perform]
    split
    · exact holds
    · exact withRun_of_forall Holds holds (fun _ _ _ => holds) _
  | inspect handle => exact withRun_of_forall Holds holds (fun _ _ _ => holds) handle
  | mark handle index status => exact absurd rfl (unmarked handle index status)
  | adjust change =>
    refine keeps.runs ?_ holds
    rfl
  | onComplete handle callback =>
    refine withRun_of_forall Holds holds ?_ handle
    intro handle run found
    have registered : Holds (session.register setup.defaults handle run callback).2 := by
      unfold register
      split
      next report _ => exact keeps.opens (opens_call setup.defaults report session callback) holds
      next unreported =>
        exact keeps.registers callback found (by rw [Run.isActive, unreported]; rfl) holds
    split
    next result next called => simpa only [called] using registered
    next failure next called => simpa only [called] using registered

theorem keeps_undecided (setup : SessionSetup σ) : Keeps setup Undecided where
  opens opens undecided := opens.undecided undecided
  goes attended later _ := (attended.goOn later).undecided
  runs same undecided := Every.of_runs undecided same
  cancels {session handle run} found undecided := by
    refine Every.setRun undecided found ?_
    rw [Run.isActive_cancel, Run.decision?, Run.phase_cancel]
    exact undecided handle run found
  registers {session handle run} _ found _ undecided :=
    Every.setRun undecided found (undecided handle run found)

theorem Attended.perform {setup : SessionSetup σ} {session : Session σ} {step : Step σ}
    (attended : session.Attended setup)
    (unmarked : ∀ handle index status, step ≠ .mark handle index status) :
    (session.perform setup step).2.Attended setup := by
  obtain ⟨onward, orderly⟩ := onward_perform attended.orderly unmarked
  exact ⟨orderly, onward.granted_all attended.granted,
    (keeps_undecided setup).perform attended unmarked attended.undecided⟩

theorem attended_init (setup : SessionSetup σ) (client : σ) :
    ({ client } : Session σ).Attended setup := by
  refine ⟨?_, ?_, ?_⟩
  · constructor <;> simp [run?]
  · simp [run?]
  · simp [Undecided, run?]

theorem Keeps.recordAll {setup : SessionSetup σ} {Holds : Session σ → Prop}
    (keeps : Keeps setup Holds) {session : Session σ} {steps : List (Step σ)}
    (attended : session.Attended setup)
    (unmarked : ∀ step ∈ steps, ∀ handle index status, step ≠ .mark handle index status)
    (holds : Holds session) :
    (session.recordAll setup steps).2.Attended setup ∧
      Holds (session.recordAll setup steps).2 := by
  induction steps generalizing session with
  | nil => exact ⟨attended, holds⟩
  | cons step rest ih =>
    have head := unmarked step List.mem_cons_self
    exact ih (attended.perform head)
      (fun other member => unmarked other (List.mem_cons_of_mem _ member))
      (keeps.perform attended head holds)

/-- Whenever a script can ask an active run to stop, the loop of the run has not come to its
outcome. -/
theorem undecided_of_recordAll {setup : SessionSetup σ} {client : σ} {steps : List (Step σ)}
    {handle : Nat} {run : Run}
    (unmarked : ∀ step ∈ steps, ∀ handle index status, step ≠ .mark handle index status)
    (found : (({ client } : Session σ).recordAll setup steps).2.run? handle = some run)
    (active : run.isActive = true) : run.decision? = none := by
  have attended := attended_init setup client
  exact ((keeps_undecided setup).recordAll attended unmarked attended.undecided).2 handle run found
    active

end Session

end EditBatch
