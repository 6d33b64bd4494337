import EditBatch.Proofs.Run.Registration
import EditBatch.Session.Script

/-! The runs of a session, one after the other.

A run is started only when no other one is active, so that all but the latest one have their
report. What is done to a session lets its runs go on, each from where it is, and new runs begin
as their requests ask.
-/

set_option autoImplicit false

namespace EditBatch

namespace Session

variable {σ : Type}

/-! ## Handles -/

theorem run?_cons {session : Session σ} {run : Run} {past : List Run}
    (runs : session.runs = run :: past) (handle : Nat) :
    session.run? handle = if handle = past.length then some run else past.reverse[handle]? := by
  rw [run?, runs, List.reverse_cons, List.getElem?_append, List.length_reverse]
  split
  · rw [if_neg (by omega)]
  next beyond =>
    split
    next latest => simp [latest]
    next =>
      rw [List.getElem?_eq_none (by simp; omega), List.getElem?_eq_none (by simp; omega)]

theorem run?_latest {session : Session σ} {run : Run} {past : List Run}
    (runs : session.runs = run :: past) : session.run? past.length = some run := by
  rw [run?_cons runs, if_pos rfl]

theorem run?_past {session next : Session σ} {run later : Run} {past : List Run} {handle : Nat}
    (runs : session.runs = run :: past) (after : next.runs = later :: past)
    (elsewhere : handle ≠ past.length) : next.run? handle = session.run? handle := by
  rw [run?_cons runs, run?_cons after, if_neg elsewhere, if_neg elsewhere]

theorem lt_of_run? {session : Session σ} {handle : Nat} {run : Run}
    (found : session.run? handle = some run) : handle < session.runs.length := by
  have bound := (List.getElem?_eq_some_iff.mp found).1
  rwa [List.length_reverse] at bound

theorem length_setRun (session : Session σ) (handle : Nat) (run : Run) :
    (session.setRun handle run).runs.length = session.runs.length := by
  simp [setRun]

theorem run?_setRun {session : Session σ} {handle : Nat} {old : Run}
    (found : session.run? handle = some old) (run : Run) (other : Nat) :
    (session.setRun handle run).run? other =
      if other = handle then some run else session.run? other := by
  have bound := (List.getElem?_eq_some_iff.mp found).1
  simp only [run?, setRun, List.reverse_reverse, List.getElem?_set, if_pos bound, eq_comm]

/-! ## Order -/

-- This is between the steps of a script: while callbacks are called, the latest run has its report
-- and has not finished.
/-- Runs that have their report are over, and all but the latest one have it. -/
structure Orderly (session : Session σ) : Prop where
  ended : ∀ {handle : Nat} {run : Run}, session.run? handle = some run → run.isActive = false →
    run.finished = true ∧ ∃ outcome, run.phase = .ended outcome
  past : ∀ {handle : Nat} {run : Run}, session.run? handle = some run →
    handle + 1 < session.runs.length → run.isActive = false

/-- A run is in a state that it comes to when a request for it is granted. -/
def Granted (setup : SessionSetup σ) (session : Session σ) (run : Run) : Prop :=
  ∃ (clock : Nat) (request : StartRequest) (client : σ),
    Machine.Reaches setup.toSetup ⟨clock, newRun setup.defaults request, client⟩
      ⟨session.clock, run, session.client⟩

/-- Every run goes on from where it is, and all others have been granted. -/
structure Onward (setup : SessionSetup σ) (session next : Session σ) : Prop where
  goes : ∀ {handle : Nat} {run : Run}, session.run? handle = some run →
    ∃ later, next.run? handle = some later ∧
      Machine.Reaches setup.toSetup ⟨session.clock, run, session.client⟩
        ⟨next.clock, later, next.client⟩
  comes : ∀ {handle : Nat} {run : Run}, next.run? handle = some run →
    (∃ before, session.run? handle = some before) ∨ next.Granted setup run

theorem Onward.refl (setup : SessionSetup σ) (session : Session σ) :
    session.Onward setup session :=
  ⟨fun found => ⟨_, found, .refl⟩, fun found => .inl ⟨_, found⟩⟩

theorem Onward.granted {setup : SessionSetup σ} {session next : Session σ} {handle : Nat}
    {run later : Run} (onward : session.Onward setup next) (found : session.run? handle = some run)
    (there : next.run? handle = some later) (granted : session.Granted setup run) :
    next.Granted setup later := by
  obtain ⟨clock, request, client, reached⟩ := granted
  obtain ⟨current, isCurrent, goes⟩ := onward.goes found
  cases isCurrent.symm.trans there
  exact ⟨clock, request, client, reached.trans goes⟩

theorem Onward.trans {setup : SessionSetup σ} {first second third : Session σ}
    (one : first.Onward setup second) (two : second.Onward setup third) :
    first.Onward setup third := by
  constructor
  · intro handle run found
    obtain ⟨former, isFormer, here⟩ := one.goes found
    obtain ⟨latter, isLatter, there⟩ := two.goes isFormer
    exact ⟨latter, isLatter, here.trans there⟩
  · intro handle run found
    rcases two.comes found with ⟨middle, isMiddle⟩ | granted
    · rcases one.comes isMiddle with before | granted
      · exact .inl before
      · exact .inr (two.granted isMiddle found granted)
    · exact .inr granted

theorem onward_of_goes {setup : SessionSetup σ} {session next : Session σ}
    (size : next.runs.length = session.runs.length)
    (goes : ∀ (handle : Nat) (run : Run), session.run? handle = some run →
      ∃ later, next.run? handle = some later ∧
        Machine.Reaches setup.toSetup ⟨session.clock, run, session.client⟩
          ⟨next.clock, later, next.client⟩) : session.Onward setup next := by
  refine ⟨fun found => goes _ _ found, fun found => .inl ?_⟩
  have bound := lt_of_run? found
  rw [size, ← List.length_reverse] at bound
  exact ⟨_, List.getElem?_eq_getElem bound⟩

/-! ## Changing one run -/

theorem onward_setRun {setup : SessionSetup σ} {session : Session σ} {handle : Nat}
    {old run : Run} (found : session.run? handle = some old)
    (goes : Machine.Reaches setup.toSetup ⟨session.clock, old, session.client⟩
      ⟨session.clock, run, session.client⟩) :
    session.Onward setup (session.setRun handle run) := by
  refine onward_of_goes (length_setRun session handle run) fun other former there => ?_
  rw [run?_setRun found]
  split
  next same =>
    subst same
    cases found.symm.trans there
    exact ⟨run, rfl, goes⟩
  next => exact ⟨former, there, .refl⟩

theorem Orderly.setRun {session : Session σ} (orderly : session.Orderly) {handle : Nat}
    {old run : Run} (found : session.run? handle = some old)
    (same : run.isActive = old.isActive)
    (ended : run.isActive = false → run.finished = true ∧ ∃ outcome, run.phase = .ended outcome) :
    (session.setRun handle run).Orderly := by
  constructor
  · intro other former there inactive
    rw [run?_setRun found] at there
    split at there
    · cases there
      exact ended inactive
    · exact orderly.ended there inactive
  · intro other former there early
    rw [length_setRun] at early
    rw [run?_setRun found] at there
    split at there
    next here =>
      cases there
      subst here
      exact same.trans (orderly.past found early)
    next => exact orderly.past there early

theorem setRun_latest {session : Session σ} {run : Run} {past : List Run}
    (runs : session.runs = run :: past) (next : Run) :
    session.setRun past.length next = { session with runs := next :: past } := by
  have last : past.length = past.reverse.length := List.length_reverse.symm
  simp only [setRun, runs, List.reverse_cons]
  rw [last, List.set_append_right _ _ (Nat.le_refl _), Nat.sub_self]
  simp

/-! ## Starting -/

-- However many callbacks ask for a run, the first one to get it leaves an active run to the others,
-- so that the relation is transitive.
/-- Callbacks leave all runs alone, and may start one if none is active. -/
inductive Opens (defaults : Limits) (session next : Session σ) : Prop where
  | none (clock : next.clock = session.clock) (client : next.client = session.client)
      (runs : next.runs = session.runs)
  | start (request : StartRequest) (idle : session.runs.head?.any (·.isActive) = false)
      (clock : next.clock = session.clock) (client : next.client = session.client)
      (runs : next.runs = newRun defaults request :: session.runs)

theorem Opens.trans {defaults : Limits} {first second third : Session σ}
    (one : first.Opens defaults second) (two : second.Opens defaults third) :
    first.Opens defaults third := by
  cases one with
  | none clock client runs =>
    cases two with
    | none clock' client' runs' =>
      exact .none (clock'.trans clock) (client'.trans client) (runs'.trans runs)
    | start request idle clock' client' runs' =>
      rw [runs] at idle runs'
      exact .start request idle (clock'.trans clock) (client'.trans client) runs'
  | start request idle clock client runs =>
    cases two with
    | none clock' client' runs' =>
      exact .start request idle (clock'.trans clock) (client'.trans client) (runs'.trans runs)
    | start request' idle' clock' client' runs' =>
      -- The run that was started first is active.
      rw [runs] at idle'
      simp [newRun, Run.isActive] at idle'

theorem opens_of_start {defaults : Limits} {request : StartRequest} {session next : Session σ}
    (started : session.start defaults request = .ok next) : session.Opens defaults next := by
  unfold start at started
  split at started
  · simp at started
  next allowed =>
    simp only [Except.ok.injEq] at started
    subst started
    refine .start request ?_ rfl rfl rfl
    simp only [refusal?] at allowed
    split at allowed
    · simp at allowed
    · split at allowed
      · simp at allowed
      · split at allowed
        · simp at allowed
        next idle => exact Bool.eq_false_iff.mpr idle

theorem Opens.kept {defaults : Limits} {session next : Session σ} {handle : Nat} {run : Run}
    (opens : session.Opens defaults next) (found : session.run? handle = some run) :
    next.run? handle = some run := by
  cases opens with
  | none clock client runs =>
    rw [run?, runs]
    exact found
  | start request idle clock client runs =>
    rw [run?_cons runs, if_neg (Nat.ne_of_lt (lt_of_run? found))]
    exact found

theorem Opens.origin {defaults : Limits} {session next : Session σ} {handle : Nat} {run : Run}
    (opens : session.Opens defaults next) (found : next.run? handle = some run) :
    session.run? handle = some run ∨
      run.isActive = true ∧ run.callbacks = [] ∧ handle + 1 = next.runs.length := by
  cases opens with
  | none clock client runs =>
    rw [run?, runs] at found
    exact .inl found
  | start request idle clock client runs =>
    rw [run?_cons runs] at found
    split at found
    next latest =>
      cases found
      exact .inr ⟨rfl, rfl, by rw [latest, runs, List.length_cons]⟩
    next => exact .inl found

theorem Opens.onward {setup : SessionSetup σ} {session next : Session σ}
    (opens : session.Opens setup.defaults next) : session.Onward setup next := by
  constructor
  · intro handle run found
    refine ⟨run, opens.kept found, ?_⟩
    cases opens with
    | none clock client runs =>
      rw [clock, client]
      exact .refl
    | start request idle clock client runs =>
      rw [clock, client]
      exact .refl
  · intro handle run found
    cases opens with
    | none clock client runs =>
      rw [run?, runs] at found
      exact .inl ⟨run, found⟩
    | start request idle clock client runs =>
      rw [run?_cons runs] at found
      split at found
      · cases found
        exact .inr ⟨next.clock, request, next.client, .refl⟩
      · exact .inl ⟨run, found⟩

theorem Opens.orderly {defaults : Limits} {session next : Session σ}
    (opens : session.Opens defaults next) (orderly : session.Orderly) : next.Orderly := by
  constructor
  · intro handle run found inactive
    rcases opens.origin found with before | ⟨active, -⟩
    · exact orderly.ended before inactive
    · simp [active] at inactive
  · intro handle run found early
    rcases opens.origin found with before | ⟨-, -, latest⟩
    · cases opens with
      | none clock client runs =>
        rw [runs] at early
        exact orderly.past before early
      | start request idle clock client runs =>
        by_cases past : handle + 1 < session.runs.length
        · exact orderly.past before past
        · have bound := lt_of_run? before
          cases held : session.runs with
          | nil => simp [held] at bound
          | cons head rest =>
            rw [held, List.length_cons] at bound past
            have last : handle = rest.length := by omega
            rw [run?_cons held, if_pos last] at before
            cases before
            simpa [held] using idle
    · omega

/-! ## Callbacks -/

theorem opens_observe (defaults : Limits) (report : Report) (session : Session σ)
    (observer : Observer) : session.Opens defaults (session.observe report observer).2 := by
  induction observer generalizing session with
  | note name | fail name => exact .none rfl rfl rfl
  | chain name next ih =>
    have noticed : session.Opens defaults (session.notice name report) := .none rfl rfl rfl
    exact noticed.trans (ih _)

theorem opens_call (defaults : Limits) (report : Report) (session : Session σ)
    (callback : Callback) : session.Opens defaults (session.call defaults report callback).2 := by
  cases callback with
  | observe observer => exact opens_observe defaults report session observer
  | restart name request =>
    have noticed : session.Opens defaults (session.notice name report) := .none rfl rfl rfl
    cases started : (session.notice name report).start defaults request with
    | error refusal => simpa only [call, started] using noticed
    | ok next => simpa only [call, started] using noticed.trans (opens_of_start started)
  | restartInVain name reason => exact .none rfl rfl rfl

theorem opens_callAll (defaults : Limits) (report : Report) (callbacks : List Callback)
    (session : Session σ) : session.Opens defaults (session.callAll defaults report callbacks) := by
  induction callbacks generalizing session with
  | nil => exact .none rfl rfl rfl
  | cons callback rest ih =>
    exact (opens_call defaults report session callback).trans (ih _)

theorem runs_observe (report : Report) (session : Session σ) (observer : Observer) :
    (session.observe report observer).2.runs = session.runs := by
  induction observer generalizing session with
  | note name | fail name => rfl
  | chain name next ih => exact ih (session.notice name report)

theorem runs_callAll_observe (defaults : Limits) (report : Report) (observers : List Observer)
    (session : Session σ) :
    (session.callAll defaults report (observers.map .observe)).runs = session.runs := by
  induction observers generalizing session with
  | nil => rfl
  | cons observer rest ih => exact (ih _).trans (runs_observe report session observer)

/-! ## Reporting -/

theorem finishLatest_eq (defaults : Limits) (outcome : Outcome) {session : Session σ} {run : Run}
    {past : List Run} (runs : session.runs = run :: past) :
    session.finishLatest defaults outcome =
      ((session.setRun past.length (run.close outcome)).callAll defaults (run.reportWith outcome)
        run.callbacks).markFinished past.length := by
  rw [setRun_latest runs]
  simp only [finishLatest, runs, Run.close]

theorem markFinished_eq {session : Session σ} {handle : Nat} {run : Run}
    (found : session.run? handle = some run) :
    session.markFinished handle = session.setRun handle { run with finished := true } := by
  simp only [markFinished, found]

/-- The latest run gets its report, its callbacks are called, and then it has finished. -/
theorem finishLatest_spec (defaults : Limits) (outcome : Outcome) {session : Session σ} {run : Run}
    {past : List Run} (runs : session.runs = run :: past) :
    ∃ opened : Session σ,
      (session.setRun past.length (run.close outcome)).Opens defaults opened ∧
      opened.run? past.length = some (run.close outcome) ∧
      session.finishLatest defaults outcome =
        opened.setRun past.length { run.close outcome with finished := true } ∧
      ∀ observers : List Observer, run.callbacks = observers.map .observe →
        opened.runs.length = session.runs.length := by
  have opens := opens_callAll defaults (run.reportWith outcome) run.callbacks
    (session.setRun past.length (run.close outcome))
  have found : (session.setRun past.length (run.close outcome)).run? past.length =
      some (run.close outcome) := by
    rw [run?_setRun (run?_latest runs), if_pos rfl]
  have kept := opens.kept found
  refine ⟨_, opens, kept, ?_, ?_⟩
  · rw [finishLatest_eq defaults outcome runs, markFinished_eq kept]
  · intro observers same
    rw [same, runs_callAll_observe, setRun_latest runs, runs, List.length_cons, List.length_cons]

theorem onward_finishLatest {setup : SessionSetup σ} {outcome : Outcome} {session : Session σ}
    {run : Run} {past : List Run} (runs : session.runs = run :: past)
    (ended : run.phase = .ended outcome) (active : run.isActive = true) :
    session.Onward setup (session.finishLatest setup.defaults outcome) := by
  obtain ⟨opened, opens, found, final, -⟩ := finishLatest_spec setup.defaults outcome runs
  have reported : session.Onward setup (session.setRun past.length (run.close outcome)) :=
    onward_setRun (run?_latest runs) (.single (.report ended active))
  have finished : opened.Onward setup (session.finishLatest setup.defaults outcome) := by
    rw [final]
    exact onward_setRun found (.single (.finish rfl))
  exact (reported.trans opens.onward).trans finished

theorem Orderly.finishLatest {defaults : Limits} {outcome : Outcome} {session : Session σ}
    {run : Run} {past : List Run} (orderly : session.Orderly) (runs : session.runs = run :: past)
    (ended : run.phase = .ended outcome) : (session.finishLatest defaults outcome).Orderly := by
  obtain ⟨opened, opens, found, final, -⟩ := finishLatest_spec defaults outcome runs
  have length : session.runs.length = past.length + 1 := by rw [runs, List.length_cons]
  rw [final]
  -- Apart from the latest run, there are those from before and one that a callback has started.
  have other {handle : Nat} {held : Run} (there : opened.run? handle = some held)
      (elsewhere : handle ≠ past.length) :
      session.run? handle = some held ∨
        held.isActive = true ∧ held.callbacks = [] ∧ handle + 1 = opened.runs.length := by
    rcases opens.origin there with before | fresh
    · rw [run?_setRun (run?_latest runs), if_neg elsewhere] at before
      exact .inl before
    · exact .inr fresh
  constructor
  · intro handle held there inactive
    rw [run?_setRun found] at there
    split at there
    · cases there
      exact ⟨rfl, outcome, ended⟩
    next elsewhere =>
      rcases other there elsewhere with before | ⟨active, -⟩
      · exact orderly.ended before inactive
      · simp [active] at inactive
  · intro handle held there early
    rw [run?_setRun found] at there
    split at there
    · cases there
      rfl
    next elsewhere =>
      rw [length_setRun] at early
      rcases other there elsewhere with before | ⟨-, -, latest⟩
      · have bound := lt_of_run? before
        exact orderly.past before (by omega)
      · omega

end Session

end EditBatch
