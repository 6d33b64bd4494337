import EditBatch.Proofs.Run.Listening
import EditBatch.Proofs.Session.Course
import EditBatch.Rehearsal.Client

/-! The calls of completion callbacks.

Whoever registers a callback with a run before it has its report finds it called when the report is
there, after those that were registered before it; whoever registers one later finds it called at
once. What a callback does, and whether it fails, makes no difference to the others. So the notes
that callbacks leave can be told from what was registered, and nothing else.
-/

set_option autoImplicit false

namespace EditBatch

def Observer.names : Observer → List String
  | .note name | .fail name => [name]
  | .chain name next => name :: next.names

def Callback.names : Callback → List String
  | .observe observer => observer.names
  | .restart name _ | .restartInVain name _ => [name]

/-- Between the steps of a script, a run without a report keeps what was registered and has called
none of it, and one with a report has finished and has called all of it in order. -/
structure Run.Notified (registered : List Callback) (notes : List (String × Report)) (run : Run) :
    Prop where
  waiting : run.report = none →
    run.finished = false ∧ run.callbacks = registered ∧ notes = []
  reported : ∀ report, run.report = some report →
    run.finished = true ∧ run.callbacks = [] ∧
      notes = (registered.flatMap Callback.names).map fun name => (name, report)

namespace Session

variable {σ : Type}

/-! ## Registrations -/

/-- What the listener has registered with a run between two moments of a session. -/
def heard (listener : Listener) (handle : Nat) (session next : Session σ) : List Observer :=
  match next.run? handle with
  | none => []
  | some run =>
    Run.observers listener run.commands
      (run.history.drop ((session.run? handle).elim 0 (·.history.length)))

def asked (handle : Nat) (session : Session σ) : Step σ → List Callback
  | .onComplete given callback =>
    if (given <|> session.latest?) = some handle ∧ (session.run? handle).isSome then [callback]
    else []
  | _ => []

/-- The callbacks that are registered with a run in the course of a script, by the listener and by
the script, in order. -/
def registrations (setup : SessionSetup σ) (handle : Nat) (session : Session σ) :
    List (Step σ) → List Callback
  | [] => []
  | step :: rest =>
    let next := (session.perform setup step).2
    (heard setup.listener handle session next).map .observe ++ session.asked handle step ++
      next.registrations setup handle rest

/-- The notes about a run, each with the report that the callback was called with. -/
def notesFor (handle : Nat) (told : List (Nat × Notice)) : List (String × Report) :=
  told.filterMap fun entry =>
    if entry.1 = handle then some (entry.2.name, entry.2.report) else none

theorem notesFor_append (handle : Nat) (former latter : List (Nat × Notice)) :
    notesFor handle (former ++ latter) = notesFor handle former ++ notesFor handle latter :=
  List.filterMap_append ..

/-! ## Notices -/

theorem Opens.clock_eq {defaults : Limits} {session next : Session σ}
    (opens : session.Opens defaults next) : next.clock = session.clock := by
  cases opens with
  | none clock => exact clock
  | start request idle clock => exact clock

theorem notices_observe (report : Report) (session : Session σ) (observer : Observer) :
    (session.observe report observer).2.notices =
      session.notices ++ observer.names.map fun name => ⟨session.clock, name, report⟩ := by
  induction observer generalizing session with
  | note name | fail name => rfl
  | chain name next ih =>
    rw [observe, ih, Observer.names, List.map_cons, List.append_cons]
    rfl

theorem notices_call (defaults : Limits) (report : Report) (session : Session σ)
    (callback : Callback) :
    (session.call defaults report callback).2.notices =
      session.notices ++ callback.names.map fun name => ⟨session.clock, name, report⟩ := by
  cases callback with
  | observe observer => exact notices_observe report session observer
  | restart name request =>
    simp only [call, start]
    cases (session.notice name report).refusal? defaults request <;> rfl
  | restartInVain name reason => rfl

theorem notices_callAll (defaults : Limits) (report : Report) (callbacks : List Callback)
    (session : Session σ) :
    (session.callAll defaults report callbacks).notices =
      session.notices ++
        (callbacks.flatMap Callback.names).map fun name => ⟨session.clock, name, report⟩ := by
  induction callbacks generalizing session with
  | nil => simp [callAll]
  | cons callback rest ih =>
    have clock := (opens_call defaults report session callback).clock_eq
    have later := ih (session.call defaults report callback).2
    rw [notices_call, clock] at later
    rw [List.flatMap_cons, List.map_append, ← List.append_assoc]
    exact later

/-! ## New runs -/

/-- All runs are kept as they are, and those that are added are yet to begin. -/
structure Grown (session next : Session σ) : Prop where
  kept : ∀ {handle : Nat} {run : Run}, session.run? handle = some run →
    next.run? handle = some run
  fresh : ∀ {handle : Nat} {run : Run}, next.run? handle = some run →
    session.run? handle = some run ∨
      session.run? handle = none ∧ run.report = none ∧ run.finished = false ∧
        run.callbacks = [] ∧ run.history = []

theorem Opens.grown {defaults : Limits} {session next : Session σ}
    (opens : session.Opens defaults next) : session.Grown next := by
  refine ⟨opens.kept, fun {handle run} found => ?_⟩
  cases opens with
  | none clock client runs =>
    rw [run?, runs] at found
    exact .inl found
  | start request idle clock client runs =>
    rw [run?_cons runs] at found
    split at found
    next latest =>
      cases found
      refine .inr ⟨List.getElem?_eq_none ?_, rfl, rfl, rfl, rfl⟩
      exact Nat.le_of_eq (by rw [latest, List.length_reverse])
    next => exact .inl found

theorem Grown.heard_eq {session next : Session σ} (grown : session.Grown next)
    (listener : Listener) (handle : Nat) (before : Session σ) :
    heard listener handle before next = heard listener handle before session := by
  cases found : next.run? handle with
  | none =>
    cases former : session.run? handle with
    | none => simp only [heard, found, former]
    | some run => simp [grown.kept former] at found
  | some run =>
    rcases grown.fresh found with same | ⟨none, -, -, -, silent⟩
    · simp only [heard, found, same]
    · simp [heard, found, none, silent, Run.observers]

/-! ## What the listener registers -/

theorem heard_eq_nil {listener : Listener} {handle : Nat} {session next : Session σ}
    (still : ∀ run, next.run? handle = some run →
      run.history.length ≤ (session.run? handle).elim 0 (·.history.length)) :
    heard listener handle session next = [] := by
  unfold heard
  split
  · rfl
  next run found =>
    rw [List.drop_eq_nil_of_le (still run found)]
    rfl

theorem heard_of_runs {listener : Listener} {handle : Nat} {session next : Session σ}
    (runs : next.runs = session.runs) : heard listener handle session next = [] := by
  refine heard_eq_nil fun run found => ?_
  rw [run?, runs] at found
  rw [run?, found]
  exact Nat.le_refl _

def Prolongs (session next : Session σ) : Prop :=
  ∀ {handle : Nat} {run : Run}, session.run? handle = some run →
    ∃ later, next.run? handle = some later ∧
      (∃ events, later.history = run.history ++ events) ∧
      later.commands.map Command.bare = run.commands.map Command.bare

theorem Onward.prolongs {setup : SessionSetup σ} {session next : Session σ}
    (onward : session.Onward setup next) : session.Prolongs next := by
  intro handle run found
  obtain ⟨later, there, reached⟩ := onward.goes found
  exact ⟨later, there, reached.prolonged⟩

theorem heard_trans (listener : Listener) (handle : Nat) {first second third : Session σ}
    (one : first.Prolongs second) (two : second.Prolongs third) :
    heard listener handle first third =
      heard listener handle first second ++ heard listener handle second third := by
  cases middle : second.run? handle with
  | none =>
    have none : first.run? handle = none := by
      cases found : first.run? handle with
      | none => rfl
      | some run =>
        obtain ⟨later, there, -⟩ := one found
        simp [middle] at there
    simp only [heard, middle, none, List.nil_append]
  | some run =>
    obtain ⟨last, isLast, ⟨latter, further⟩, bare⟩ := two middle
    have length : (first.run? handle).elim 0 (·.history.length) ≤ run.history.length := by
      cases found : first.run? handle with
      | none => exact Nat.zero_le _
      | some former =>
        obtain ⟨later, there, ⟨events, history⟩, -⟩ := one found
        cases middle.symm.trans there
        simp [history]
    simp only [heard, middle, isLast, Option.elim_some, further, List.drop_append_of_le_length length,
      List.drop_left, Run.observers, List.filterMap_append, List.flatMap_append,
      Run.announced?_of_bare bare]

end Session

/-! ## Notes -/

namespace Run

theorem Notified.hears {listener : Listener} {events : List RunEvent} {run next : Run}
    {registered : List Callback} {notes : List (String × Report)}
    (notified : run.Notified registered notes) (hears : run.Hears listener events next)
    (registers : run.Registers next) (closed : run.report ≠ none → next = run ∧ events = []) :
    next.Notified
      (registered ++ (observers listener next.commands events).map .observe) notes := by
  cases former : run.report with
  | none =>
    obtain ⟨finished, callbacks, none⟩ := notified.waiting former
    have unreported := registers.report.trans former
    refine ⟨fun _ => ⟨registers.finished.trans finished, ?_, none⟩, ?_⟩
    · rw [hears.callbacks, callbacks]
    · simp [unreported]
  | some report =>
    obtain ⟨rfl, rfl⟩ := closed (by simp [former])
    simpa [observers] using notified

end Run

namespace Session

variable {σ : Type} {registered : Nat → List Callback} {told : List (Nat × Notice)}
  {session next : Session σ}

structure Notified (registered : Nat → List Callback) (told : List (Nat × Notice))
    (session : Session σ) : Prop where
  notices : told.map Prod.snd = session.notices
  known : ∀ entry ∈ told, ∃ run, session.run? entry.1 = some run
  runs : ∀ handle run, session.run? handle = some run →
    run.Notified (registered handle) (notesFor handle told)
  unborn : ∀ handle, session.run? handle = none → registered handle = []

theorem Notified.of_runs (notified : session.Notified registered told)
    (runs : next.runs = session.runs) (notices : next.notices = session.notices) :
    next.Notified registered told := by
  have same (handle : Nat) : next.run? handle = session.run? handle := by rw [run?, runs, run?]
  refine ⟨notified.notices.trans notices.symm, ?_, ?_, ?_⟩
  · simpa only [same] using notified.known
  · simpa only [same] using notified.runs
  · simpa only [same] using notified.unborn

theorem Notified.grown (notified : session.Notified registered told) (grown : session.Grown next)
    (notices : next.notices = session.notices) : next.Notified registered told := by
  refine ⟨notified.notices.trans notices.symm, ?_, ?_, ?_⟩
  · intro entry member
    obtain ⟨run, found⟩ := notified.known entry member
    exact ⟨run, grown.kept found⟩
  · intro handle run found
    rcases grown.fresh found with before | ⟨none, unreported, unfinished, unregistered, -⟩
    · exact notified.runs handle run before
    · have unnoted : notesFor handle told = [] := by
        refine List.filterMap_eq_nil_iff.mpr fun entry member => if_neg ?_
        rintro rfl
        obtain ⟨other, there⟩ := notified.known entry member
        simp [none] at there
      rw [notified.unborn handle none, unnoted]
      exact ⟨fun _ => ⟨unfinished, unregistered, rfl⟩, by simp [unreported]⟩
  · intro handle none
    refine notified.unborn handle ?_
    cases found : session.run? handle with
    | none => rfl
    | some run => simp [grown.kept found] at none

theorem notesFor_map (handle other : Nat) (notices : List Notice) :
    notesFor handle (notices.map (Prod.mk other)) =
      if other = handle then notices.map fun notice => (notice.name, notice.report) else [] := by
  by_cases same : other = handle <;> simp [notesFor, same, List.filterMap_map]

theorem Notified.setRun {handle : Nat} {old : Run} (notified : session.Notified registered told)
    (found : session.run? handle = some old) (run : Run) (added : List Callback)
    (notices : List Notice)
    (is : run.Notified (registered handle ++ added)
      (notesFor handle told ++ notices.map fun notice => (notice.name, notice.report))) :
    Notified (fun other => registered other ++ if other = handle then added else [])
      (told ++ notices.map (Prod.mk handle))
      { session.setRun handle run with notices := session.notices ++ notices } := by
  have there (other : Nat) : run? { session.setRun handle run with
      notices := session.notices ++ notices } other =
        if other = handle then some run else session.run? other :=
    run?_setRun found run other
  constructor
  · rw [List.map_append, notified.notices, List.map_map]
    simp [Function.comp_def]
  · intro entry member
    rw [there]
    rcases List.mem_append.mp member with before | new
    · obtain ⟨former, isFormer⟩ := notified.known entry before
      split
      · exact ⟨run, rfl⟩
      · exact ⟨former, isFormer⟩
    · obtain ⟨notice, -, rfl⟩ := List.mem_map.mp new
      exact ⟨run, if_pos rfl⟩
  · intro other held isHeld
    rw [there] at isHeld
    rw [notesFor_append, notesFor_map]
    split at isHeld
    next same =>
      cases isHeld
      rw [same, if_pos rfl, if_pos rfl]
      exact is
    next elsewhere =>
      rw [if_neg elsewhere, if_neg (Ne.symm elsewhere), List.append_nil, List.append_nil]
      exact notified.runs other held isHeld
  · intro other none
    rw [there] at none
    split at none
    · simp at none
    next elsewhere => rw [if_neg elsewhere, notified.unborn other none, List.append_nil]

/-! ## Reporting -/

/-- The latest run gets its report and finishes, and nothing else happens to a run that is there. In
between its callbacks are called, each of them, and in order. -/
theorem grown_finishLatest (defaults : Limits) (outcome : Outcome) {run : Run} {past : List Run}
    (runs : session.runs = run :: past) :
    (session.setRun past.length { run.close outcome with finished := true }).Grown
        (session.finishLatest defaults outcome) ∧
      (session.finishLatest defaults outcome).notices = session.notices ++
        (run.callbacks.flatMap Callback.names).map fun name =>
          ⟨session.clock, name, run.reportWith outcome⟩ := by
  have found := run?_latest runs
  have isClosed : (session.setRun past.length (run.close outcome)).run? past.length =
      some (run.close outcome) := by
    rw [run?_setRun found, if_pos rfl]
  have opens := opens_callAll defaults (run.reportWith outcome) run.callbacks
    (session.setRun past.length (run.close outcome))
  have reported := opens.kept isClosed
  rw [finishLatest_eq defaults outcome runs, markFinished_eq reported]
  refine ⟨⟨?_, ?_⟩, notices_callAll ..⟩
  · intro handle held there
    rw [run?_setRun found] at there
    rw [run?_setRun reported]
    split
    next latest => rwa [if_pos latest] at there
    next elsewhere =>
      rw [if_neg elsewhere] at there
      exact opens.kept (by rwa [run?_setRun found, if_neg elsewhere])
  · intro handle held there
    rw [run?_setRun reported] at there
    rw [run?_setRun found]
    split at there
    next latest => exact .inl (by rw [if_pos latest, there])
    next elsewhere =>
      rcases opens.grown.fresh there with before | fresh
      · rw [run?_setRun found, if_neg elsewhere] at before
        exact .inl (by rw [if_neg elsewhere, before])
      · rw [run?_setRun found, if_neg elsewhere] at fresh
        exact .inr (by rwa [if_neg elsewhere])

theorem Notified.finishLatest (defaults : Limits) (outcome : Outcome) {run : Run}
    {past : List Run} (notified : session.Notified registered told)
    (runs : session.runs = run :: past) (active : run.isActive = true) :
    ∃ entries, (session.finishLatest defaults outcome).Notified registered (told ++ entries) := by
  obtain ⟨grown, notices⟩ := grown_finishLatest defaults outcome runs
  have found := run?_latest runs
  obtain ⟨-, callbacks, unnoted⟩ :=
    (notified.runs _ run found).waiting (by simpa [Run.isActive] using active)
  have finished := notified.setRun found { run.close outcome with finished := true } []
    ((run.callbacks.flatMap Callback.names).map fun name =>
      ⟨session.clock, name, run.reportWith outcome⟩) ?_
  · simp only [ite_self, List.append_nil] at finished
    exact ⟨_, finished.grown ⟨grown.kept, grown.fresh⟩ notices⟩
  · refine ⟨by simp [Run.close], ?_⟩
    rintro report ⟨⟩
    refine ⟨rfl, rfl, ?_⟩
    rw [unnoted, List.append_nil, ← callbacks, List.nil_append, List.map_map]
    rfl

theorem heard_finishLatest (listener : Listener) (handle : Nat) (before : Session σ)
    (defaults : Limits) (outcome : Outcome) {run : Run} {past : List Run}
    (runs : session.runs = run :: past) :
    heard listener handle before (session.finishLatest defaults outcome) =
      heard listener handle before session := by
  rw [(grown_finishLatest defaults outcome runs).1.heard_eq]
  simp only [heard, run?_setRun (run?_latest runs)]
  by_cases latest : handle = past.length
  · simp only [latest, if_pos, run?_latest runs, Run.close]
  · simp only [latest, if_neg, not_false_eq_true]

/-! ## Going on -/

theorem reportLatest_cases (defaults : Limits) {run : Run} {past : List Run}
    (runs : session.runs = run :: past) :
    session.reportLatest defaults = session ∨ ∃ outcome, run.isActive = true ∧
      session.reportLatest defaults = session.finishLatest defaults outcome := by
  simp only [reportLatest, runs]
  split
  next outcome ended =>
    split
    next active => exact .inr ⟨outcome, active, rfl⟩
    next => exact .inl rfl
  next => exact .inl rfl

def registeredBy (listener : Listener) (registered : Nat → List Callback)
    (session next : Session σ) (handle : Nat) : List Callback :=
  registered handle ++ (heard listener handle session next).map .observe

theorem Notified.moved {setup : SessionSetup σ} {run : Run} {past : List Run}
    {machine : Machine σ} (notified : session.Notified registered told) (orderly : session.Orderly)
    (runs : session.runs = run :: past)
    (steps : Machine.Steps setup.toSetup ⟨session.clock, run, session.client⟩ machine)
    (moved : next.runs = machine.run :: past) (notices : next.notices = session.notices) :
    next.Notified (registeredBy setup.listener registered session next) told := by
  have found := run?_latest runs
  obtain ⟨events, hears⟩ := steps.hears
  have is := (notified.runs _ run found).hears hears steps.registers fun reported => by
    obtain ⟨-, outcome, ended⟩ := orderly.ended found
      (by rwa [Run.isActive, Option.isNone_eq_false_iff, Option.isSome_iff_ne_none])
    have same := steps.eq_of_ended ended
    have history := hears.history
    rw [same] at history ⊢
    simpa using history
  have set := notified.setRun found machine.run
    ((Run.observers setup.listener machine.run.commands events).map .observe) []
    (by simpa using is)
  simp only [List.map_nil, List.append_nil] at set
  have same : registeredBy setup.listener registered session next = fun other =>
      registered other ++ if other = past.length then
        (Run.observers setup.listener machine.run.commands events).map .observe else [] := by
    funext other
    rw [registeredBy]
    congr 1
    split
    next latest => simp [latest, heard, found, run?_latest moved, hears.history]
    next elsewhere =>
      rw [heard_eq_nil, List.map_nil]
      intro held there
      rw [run?_past runs moved elsewhere] at there
      simp [there]
  rw [same]
  refine set.of_runs ?_ notices
  rw [moved, setRun_latest runs]

theorem Notified.goOn (setup : SessionSetup σ) (horizon : Nat)
    (notified : session.Notified registered told) (orderly : session.Orderly) :
    ∃ entries, (session.goOn setup horizon).Notified
      (registeredBy setup.listener registered session (session.goOn setup horizon))
      (told ++ entries) := by
  cases runs : session.runs with
  | nil =>
    have same : registeredBy setup.listener registered session session = registered := by
      funext handle
      rw [registeredBy, heard_of_runs rfl, List.map_nil, List.append_nil]
    rw [goOn_of_nil setup horizon runs, same]
    exact ⟨[], by simpa using notified⟩
  | cons run past =>
    have steps := Machine.steps_runUntil setup.toSetup horizon ⟨session.clock, run, session.client⟩
    obtain ⟨moved, goes, current, notices⟩ : ∃ moved : Session σ,
        session.goOn setup horizon = moved.reportLatest setup.defaults ∧
          moved.runs = (Machine.runUntil setup.toSetup horizon
            ⟨session.clock, run, session.client⟩).run :: past ∧
          moved.notices = session.notices :=
      ⟨_, goOn_eq setup horizon runs rfl, rfl, rfl⟩
    have so := notified.moved orderly runs steps current notices
    rw [goes]
    rcases reportLatest_cases setup.defaults current with same | ⟨outcome, active, same⟩
    · rw [same]
      exact ⟨[], by rwa [List.append_nil]⟩
    · obtain ⟨entries, finished⟩ := so.finishLatest setup.defaults outcome current active
      have unheard : registeredBy setup.listener registered session
          (moved.finishLatest setup.defaults outcome) =
            registeredBy setup.listener registered session moved := by
        funext handle
        rw [registeredBy, heard_finishLatest _ _ _ _ _ current, registeredBy]
      rw [same, unheard]
      exact ⟨entries, finished⟩

theorem registeredBy_self (listener : Listener) (registered : Nat → List Callback)
    (runs : next.runs = session.runs) :
    registeredBy listener registered session next = registered := by
  funext handle
  rw [registeredBy, heard_of_runs runs, List.map_nil, List.append_nil]

theorem registeredBy_trans (listener : Listener) (registered : Nat → List Callback)
    {first second third : Session σ} (one : first.Prolongs second) (two : second.Prolongs third) :
    registeredBy listener (registeredBy listener registered first second) second third =
      registeredBy listener registered first third := by
  funext handle
  rw [registeredBy, registeredBy, registeredBy, heard_trans listener handle one two,
    List.map_append, List.append_assoc]

def Carries (listener : Listener) (registered : Nat → List Callback) (told : List (Nat × Notice))
    (session next : Session σ) : Prop :=
  ∃ entries, next.Notified (registeredBy listener registered session next) (told ++ entries)

theorem Notified.carries_of_runs (notified : session.Notified registered told)
    (listener : Listener) (runs : next.runs = session.runs)
    (notices : next.notices = session.notices) :
    Carries listener registered told session next := by
  refine ⟨[], ?_⟩
  rw [registeredBy_self listener registered runs, List.append_nil]
  exact notified.of_runs runs notices

theorem Notified.passUntil {setup : SessionSetup σ} (notified : session.Notified registered told)
    (orderly : session.Orderly) (horizon : Nat) :
    Carries setup.listener registered told session (session.passUntil setup horizon) := by
  obtain ⟨onward, orderlyOnce⟩ := onward_goOn setup orderly horizon
  obtain ⟨further, -⟩ := onward_goOn setup orderlyOnce horizon
  obtain ⟨former, once⟩ := notified.goOn setup horizon orderly
  obtain ⟨latter, twice⟩ := once.goOn setup horizon orderlyOnce
  rw [registeredBy_trans _ _ onward.prolongs further.prolongs, List.append_assoc] at twice
  exact ⟨former ++ latter, twice.of_runs rfl rfl⟩

theorem Notified.waitUntil {setup : SessionSetup σ} (notified : session.Notified registered told)
    (orderly : session.Orderly) (handle horizon : Nat) :
    Carries setup.listener registered told session
      (session.waitUntil setup handle horizon).2 := by
  obtain ⟨entries, once⟩ := notified.goOn setup horizon orderly
  unfold Session.waitUntil
  split
  · exact notified.carries_of_runs setup.listener rfl rfl
  · simp only
    split
    · exact ⟨entries, once⟩
    · exact ⟨entries, once.of_runs rfl rfl⟩

theorem Notified.carries_setRun {handle : Nat} {old run : Run}
    (notified : session.Notified registered told) (listener : Listener)
    (found : session.run? handle = some old) (history : run.history = old.history)
    (report : run.report = old.report) (finished : run.finished = old.finished)
    (callbacks : run.callbacks = old.callbacks) :
    Carries listener registered told session (session.setRun handle run) := by
  obtain ⟨waiting, reported⟩ := notified.runs handle old found
  have set := notified.setRun found run [] [] (by
    rw [← report, ← finished, ← callbacks] at waiting
    rw [← finished, ← callbacks, ← report] at reported
    simpa using ⟨waiting, reported⟩)
  simp only [List.map_nil, List.append_nil, ite_self] at set
  have same : registeredBy listener registered session (session.setRun handle run) =
      registered := by
    funext other
    rw [registeredBy, heard_eq_nil, List.map_nil, List.append_nil]
    intro held there
    rw [run?_setRun found] at there
    split at there
    next here =>
      cases there
      simp [here, found, history]
    next => simp [there]
  exact ⟨[], by rw [same, List.append_nil]; exact set.of_runs rfl rfl⟩

/-! ## Registering -/

theorem setRun_self {handle : Nat} {run : Run} (found : session.run? handle = some run) :
    session.setRun handle run = session := by
  obtain ⟨bound, is⟩ := List.getElem?_eq_some_iff.mp found
  rw [setRun, ← is, List.set_getElem_self, List.reverse_reverse]

theorem Notified.register (defaults : Limits) {handle : Nat} {run : Run} (callback : Callback)
    (notified : session.Notified registered told) (found : session.run? handle = some run) :
    ∃ entries, (session.register defaults handle run callback).2.Notified
      (fun other => registered other ++ if other = handle then [callback] else [])
      (told ++ entries) := by
  obtain ⟨waiting, reported⟩ := notified.runs handle run found
  unfold Session.register
  split
  next report isReport =>
    obtain ⟨finished, called, notes⟩ := reported report isReport
    have set := notified.setRun found run [callback]
      (callback.names.map fun name => ⟨session.clock, name, report⟩) (by
        refine ⟨by simp [isReport], ?_⟩
        intro other isOther
        cases isReport.symm.trans isOther
        refine ⟨finished, called, ?_⟩
        rw [notes, List.flatMap_append, List.map_append, List.map_map]
        simp)
    rw [setRun_self found] at set
    have grown := (opens_call defaults report session callback).grown
    exact ⟨_, set.grown ⟨grown.kept, grown.fresh⟩ (notices_call defaults report session callback)⟩
  next unreported =>
    obtain ⟨finished, callbacks, notes⟩ := waiting unreported
    have set := notified.setRun found { run with callbacks := run.callbacks ++ [callback] }
      [callback] [] (by
        refine ⟨fun _ => ⟨finished, by rw [callbacks], by simp [notes]⟩, ?_⟩
        simp [unreported])
    exact ⟨[], set.of_runs rfl (List.append_nil _).symm⟩

theorem asked_onComplete {given : Option Nat} {callback : Callback} {handle : Nat} {run : Run}
    (resolved : (given <|> session.latest?) = some handle)
    (found : session.run? handle = some run) (other : Nat) :
    session.asked other (.onComplete given callback) =
      if other = handle then [callback] else [] := by
  simp only [asked, resolved, Option.some.injEq]
  by_cases same : other = handle
  · simp [same, found]
  · rw [if_neg (by simp [Ne.symm same]), if_neg same]

theorem heard_register (defaults : Limits) (listener : Listener) {handle : Nat} {run : Run}
    (callback : Callback) (found : session.run? handle = some run) (other : Nat) :
    heard listener other session (session.register defaults handle run callback).2 = [] := by
  unfold Session.register
  split
  next report _ =>
    rw [(opens_call defaults report session callback).grown.heard_eq]
    exact heard_of_runs rfl
  next =>
    refine heard_eq_nil fun held there => ?_
    rw [run?_setRun found] at there
    split at there
    next here =>
      cases there
      simp [here, found]
    next => simp [there]

/-! ## Steps -/

/-- Each step of a script leaves the notes that it has to, be it that it marks commands. -/
theorem Notified.perform (setup : SessionSetup σ) (notified : session.Notified registered told)
    (orderly : session.Orderly) (step : Step σ) :
    ∃ entries, (session.perform setup step).2.Notified
      (fun handle => registeredBy setup.listener registered session (session.perform setup step).2
        handle ++ session.asked handle step) (told ++ entries) := by
  have unasked (silent : ∀ handle, session.asked handle step = [])
      (carries : Carries setup.listener registered told session (session.perform setup step).2) :
      ∃ entries, (session.perform setup step).2.Notified
        (fun handle => registeredBy setup.listener registered session
          (session.perform setup step).2 handle ++ session.asked handle step)
        (told ++ entries) := by
    simp only [silent, List.append_nil]
    exact carries
  have still : Carries setup.listener registered told session session :=
    notified.carries_of_runs setup.listener rfl rfl
  cases step with
  | start request =>
    refine unasked (fun _ => rfl) ?_
    cases started : session.start setup.defaults request with
    | error refusal => simpa only [Session.perform, startStep, started] using still
    | ok next =>
      have grown := (opens_of_start started).grown
      have notices : next.notices = session.notices := by
        unfold start at started
        split at started
        · simp at started
        · cases started
          rfl
      have same : registeredBy setup.listener registered session next = registered := by
        funext handle
        rw [registeredBy, grown.heard_eq, heard_of_runs rfl, List.map_nil, List.append_nil]
      simp only [Session.perform, startStep, started]
      exact ⟨[], by rw [same, List.append_nil]; exact notified.grown grown notices⟩
  | advance duration => exact unasked (fun _ => rfl) (notified.passUntil orderly _)
  | wait handle duration =>
    exact unasked (fun _ => rfl) (withRun_of_forall
      (Carries setup.listener registered told session) still
      (fun handle _ _ => notified.waitUntil orderly handle _) handle)
  | cancel handle =>
    refine unasked (fun _ => rfl) (withRun_of_forall
      (Carries setup.listener registered told session) still (fun handle run found => ?_) handle)
    refine notified.carries_setRun setup.listener found (Run.alike_cancel run).history ?_ ?_ ?_ <;>
      (unfold Run.cancel; split <;> rfl)
  | progress handle =>
    refine unasked (fun _ => rfl) ?_
    simp only [Session.perform]
    split
    · exact still
    · exact withRun_of_forall (Carries setup.listener registered told session) still
        (fun _ _ _ => still) _
  | inspect handle =>
    exact unasked (fun _ => rfl) (withRun_of_forall
      (Carries setup.listener registered told session) still (fun _ _ _ => still) handle)
  | mark handle index status =>
    refine unasked (fun _ => rfl) (withRun_of_forall
      (Carries setup.listener registered told session) still (fun handle run found => ?_) handle)
    unfold markStep
    split
    · exact still
    · split
      · exact still
      · exact notified.carries_setRun setup.listener found rfl rfl rfl rfl
  | adjust change => exact unasked (fun _ => rfl) (notified.carries_of_runs _ rfl rfl)
  | onComplete given callback =>
    cases resolved : (given <|> session.latest?) with
    | none =>
      refine unasked (fun other => by simp [asked, resolved]) ?_
      simpa only [Session.perform, withRun, resolved] using still
    | some handle =>
      cases found : session.run? handle with
      | none =>
        refine unasked (fun other => if_neg ?_) ?_
        · rintro ⟨same, there⟩
          cases resolved.symm.trans same
          simp [found] at there
        · simpa only [Session.perform, withRun, resolved, found] using still
      | some run =>
        obtain ⟨entries, registers⟩ := notified.register setup.defaults callback found
        have after : (session.perform setup (.onComplete given callback)).2 =
            (session.register setup.defaults handle run callback).2 := by
          simp only [Session.perform, withRun, resolved, found]
          split <;> simp only [*]
        refine ⟨entries, ?_⟩
        simp only [after, asked_onComplete resolved found, registeredBy,
          heard_register setup.defaults setup.listener callback found, List.map_nil,
          List.append_nil]
        exact registers

theorem Orderly.mark {handle : Nat} {run : Run} (orderly : session.Orderly)
    (found : session.run? handle = some run) (commands : List Command) :
    (session.setRun handle { run with commands }).Orderly := by
  refine orderly.setRun found rfl fun inactive => ?_
  have ended := orderly.ended found inactive
  exact ended

theorem Orderly.perform (setup : SessionSetup σ) (orderly : session.Orderly) (step : Step σ) :
    (session.perform setup step).2.Orderly := by
  by_cases marks : ∃ handle index status, step = .mark handle index status
  · obtain ⟨handle, index, status, rfl⟩ := marks
    refine withRun_of_forall Orderly orderly (fun handle run found => ?_) handle
    unfold markStep
    split
    · exact orderly
    · split
      · exact orderly
      · exact orderly.mark found _
  · exact (onward_perform orderly fun _ _ _ same => marks ⟨_, _, _, same⟩).2

theorem Orderly.report_perform (setup : SessionSetup σ) (orderly : session.Orderly)
    {handle : Nat} {run : Run} {report : Report} (found : session.run? handle = some run)
    (reported : run.report = some report) (step : Step σ) :
    ∃ later, (session.perform setup step).2.run? handle = some later ∧
      later.report = some report := by
  by_cases marks : ∃ handle index status, step = .mark handle index status
  · obtain ⟨given, index, status, rfl⟩ := marks
    refine withRun_of_forall (fun next => ∃ later, next.run? handle = some later ∧
      later.report = some report) ⟨run, found, reported⟩ (fun other held there => ?_) given
    unfold markStep
    split
    · exact ⟨run, found, reported⟩
    · split
      · exact ⟨run, found, reported⟩
      · rw [run?_setRun there]
        split
        next same =>
          cases (same ▸ found).symm.trans there
          exact ⟨_, rfl, reported⟩
        next => exact ⟨run, found, reported⟩
  · have onward : session.Onward setup (session.perform setup step).2 :=
      (onward_perform orderly fun _ _ _ same => marks ⟨_, _, _, same⟩).1
    obtain ⟨later, there, reached⟩ := onward.goes found
    exact ⟨later, there, reached.report_eq reported⟩

/-! ## Scripts -/

theorem Notified.recordAll (setup : SessionSetup σ) (notified : session.Notified registered told)
    (orderly : session.Orderly) (steps : List (Step σ)) :
    ∃ entries, (session.recordAll setup steps).2.Notified
      (fun handle => registered handle ++ session.registrations setup handle steps)
      (told ++ entries) := by
  induction steps generalizing session registered told with
  | nil =>
    refine ⟨[], ?_⟩
    simp only [registrations, List.append_nil]
    exact notified
  | cons step rest ih =>
    obtain ⟨former, once⟩ := notified.perform setup orderly step
    obtain ⟨latter, twice⟩ := ih once (orderly.perform setup step)
    refine ⟨former ++ latter, ?_⟩
    simp only [registeredBy, List.append_assoc] at twice
    simp only [registrations, List.append_assoc]
    exact twice

theorem Orderly.recordAll (setup : SessionSetup σ) (orderly : session.Orderly)
    (steps : List (Step σ)) : (session.recordAll setup steps).2.Orderly := by
  induction steps generalizing session with
  | nil => exact orderly
  | cons step rest ih => exact ih (orderly.perform setup step)

theorem Orderly.report_recordAll (setup : SessionSetup σ) (orderly : session.Orderly)
    {handle : Nat} {run : Run} {report : Report} (found : session.run? handle = some run)
    (reported : run.report = some report) (steps : List (Step σ)) :
    ∃ later, (session.recordAll setup steps).2.run? handle = some later ∧
      later.report = some report := by
  induction steps generalizing session run with
  | nil => exact ⟨run, found, reported⟩
  | cons step rest ih =>
    obtain ⟨later, there, stays⟩ := orderly.report_perform setup found reported step
    exact ih (orderly.perform setup step) there stays

theorem orderly_init (client : σ) : ({ client } : Session σ).Orderly := by
  constructor <;> simp [run?]

theorem notified_init (client : σ) : ({ client } : Session σ).Notified (fun _ => []) [] := by
  constructor <;> simp [run?]

/-- After any script the notes of a session are those that its runs have to leave: a run without a
report has called no callback and keeps all that were registered, and a run with one has finished
and has called all of them, once each, in the order of their registration and with this report. The
report never changes, and a callback that is registered from then on is called at once. A run is
marked as finished only when its callbacks have been called, whatever these did. -/
theorem callbacks_called_once (setup : SessionSetup σ) (client : σ) (steps : List (Step σ)) :
    let session := (({ client } : Session σ).recordAll setup steps).2
    (∃ told, session.Notified
      (fun handle => ({ client } : Session σ).registrations setup handle steps) told) ∧
    (∀ handle run report, session.run? handle = some run → run.report = some report →
      (∀ given callback, (given <|> session.latest?) = some handle →
        (session.perform setup (.onComplete given callback)).2.notices =
          session.notices ++ callback.names.map fun name => ⟨session.clock, name, report⟩) ∧
      ∀ more, ∃ later, (session.recordAll setup more).2.run? handle = some later ∧
        later.report = some report ∧ later.finished = true) ∧
    ∀ (ended : Session σ) (run : Run) (past : List Run) (outcome : Outcome),
      ended.runs = run :: past → ∃ called : Session σ,
        ended.finishLatest setup.defaults outcome = called.markFinished past.length ∧
        called.run? past.length = some (run.close outcome) ∧
        called.notices = ended.notices ++ (run.callbacks.flatMap Callback.names).map fun name =>
          ⟨ended.clock, name, run.reportWith outcome⟩ := by
  intro session
  have orderly : session.Orderly := (orderly_init client).recordAll setup steps
  refine ⟨?_, ?_, ?_⟩
  · obtain ⟨told, notified⟩ := (notified_init client).recordAll setup (orderly_init client) steps
    exact ⟨_, notified⟩
  · intro handle run report found reported
    constructor
    · intro given callback resolved
      rw [← notices_call setup.defaults report session callback]
      simp only [Session.perform, withRun, resolved, found, Session.register, reported]
      split <;> simp only [*]
    · intro more
      obtain ⟨later, there, stays⟩ := orderly.report_recordAll setup found reported more
      refine ⟨later, there, stays, ?_⟩
      exact ((orderly.recordAll setup more).ended there (by rw [Run.isActive, stays]; rfl)).1
  · intro ended run past outcome runs
    have found := run?_latest runs
    refine ⟨_, finishLatest_eq setup.defaults outcome runs, ?_, notices_callAll ..⟩
    exact (opens_callAll ..).kept (by rw [run?_setRun found, if_pos rfl])

def listening : SessionSetup Unit where
  toSetup :=
    { Machine.sparing with
      listener := fun command => { registers := if command.isDone then [.note "heard"] else [] } }
  defaults := ⟨2, 0⟩

def twoStatements : List Command :=
  [{ id := 0, entityRef := "Q8", mode := .add, prop := "P31", value := some "Q5" },
   { id := 1, entityRef := "Q9", mode := .add, prop := "P31", value := some "Q5" }]

/-- Callbacks are registered before a run begins, while it is busy and after its end, and by each
other; some fail, and one starts another run. -/
def observing : List (Step Unit) :=
  [.start { commands := twoStatements },
   .onComplete none (.observe (.note "early")), .advance 5,
   .onComplete none (.observe (.fail "failing")),
   .onComplete none (.restart "again" { commands := twoStatements }),
   .onComplete none (.observe (.chain "outer" (.fail "inner"))), .advance 100,
   .onComplete (some 0) (.observe (.note "late"))]

theorem callbacks_called_once_observing :
    let session := (({ client := () } : Session Unit).recordAll listening observing).2
    ∃ told run report, told.map Prod.snd = session.notices ∧ session.run? 0 = some run ∧
      run.report = some report ∧ run.finished = true ∧
      notesFor 0 told = ["early", "failing", "again", "outer", "inner", "heard", "heard",
        "late"].map fun name => (name, report) := by
  intro session
  obtain ⟨⟨told, notified⟩, -, -⟩ := callbacks_called_once listening () observing
  have ended : (session.run? 0).map (·.report.isSome) = some true := by decide +kernel
  obtain ⟨run, found, isSome⟩ := Option.map_eq_some_iff.mp ended
  obtain ⟨report, reported⟩ := Option.isSome_iff_exists.mp isSome
  obtain ⟨finished, -, notes⟩ := (notified.runs 0 run found).reported report reported
  refine ⟨told, run, report, notified.notices, found, reported, finished, notes.trans ?_⟩
  have names : ((({ client := () } : Session Unit).registrations listening 0 observing).flatMap
      Callback.names) = ["early", "failing", "again", "outer", "inner", "heard", "heard",
        "late"] := by decide +kernel
  rw [names]

end Session

end EditBatch
