import EditBatch.Proofs.Run.Flights
import EditBatch.Settings.Basic

/-! How many commands a run has in flight.

The status of a command and the list of flights tell the same: what runs is in flight, once, and
nothing else is. A command is sent off only while there is room for it, so that the limit of the
run is kept, and the settings give a limit that the account allows.
-/

set_option autoImplicit false

namespace EditBatch

open Execution

namespace Run

variable {σ : Type}

def runningPositions (commands : List Command) : List Nat :=
  (commands.zipIdx.filter fun placed => placed.1.status = .running).map (·.2)

theorem mem_runningPositions {commands : List Command} {index : Nat} :
    index ∈ runningPositions commands ↔
      ∃ command, commands[index]? = some command ∧ command.status = .running := by
  simp only [runningPositions, List.mem_map, List.mem_filter, decide_eq_true_eq]
  constructor
  · rintro ⟨⟨command, position⟩, ⟨placed, running⟩, rfl⟩
    exact ⟨command, List.mk_mem_zipIdx_iff_getElem?.mp placed, running⟩
  · rintro ⟨command, found, running⟩
    exact ⟨(command, index), ⟨List.mk_mem_zipIdx_iff_getElem?.mpr found, running⟩, rfl⟩

theorem nodup_runningPositions (commands : List Command) :
    (runningPositions commands).Nodup := by
  have positions : (commands.zipIdx.map (·.2)).Nodup := by
    rw [List.zipIdx_map_snd]
    exact List.nodup_range'
  exact (List.filter_sublist.map _).nodup positions

theorem length_runningPositions (commands : List Command) :
    (runningPositions commands).length = commands.countP (·.status = .running) := by
  rw [runningPositions, List.length_map, ← List.countP_eq_length_filter]
  conv => rhs; rw [← List.zipIdx_map_fst 0 commands, List.countP_map]
  rfl

/-- Each running command is in flight exactly once, and nothing else is. -/
structure Manned (run : Run) : Prop where
  once : (run.inFlight.map (·.index)).Nodup
  mem_iff : ∀ {index : Nat}, index ∈ run.inFlight.map (·.index) ↔
    ∃ command, run.commands[index]? = some command ∧ command.status = .running

theorem Manned.perm {run : Run} (manned : run.Manned) :
    (run.inFlight.map (·.index)).Perm (runningPositions run.commands) :=
  (List.perm_ext_iff_of_nodup manned.once (nodup_runningPositions run.commands)).mpr
    fun _ => manned.mem_iff.trans mem_runningPositions.symm

theorem Manned.running_eq {run : Run} (manned : run.Manned) :
    run.progress.running = run.inFlight.length := by
  have same := manned.perm.length_eq
  rw [List.length_map, length_runningPositions] at same
  exact same.symm

theorem Manned.idle {run : Run} (manned : run.Manned) (landed : run.inFlight = []) :
    ∀ command ∈ run.commands, command.status ≠ .running := by
  intro command member running
  obtain ⟨index, found⟩ := List.mem_iff_getElem?.mp member
  have aloft := manned.mem_iff.mpr ⟨command, found, running⟩
  simp [landed] at aloft

end Run

namespace Session

variable {σ : Type}

theorem refusal?_ne_concurrencyTooLow (settings : Settings) {request : StartRequest}
    (unlimited : request.concurrency = none) (session : Session σ) (given : Int) :
    session.refusal? settings.limits request ≠ some (.concurrencyTooLow given) := by
  have allowed : ¬ (requestedLimits settings.limits request).concurrency < 1 := by
    have bounds := settings.effectiveConcurrency_bounds
    simp only [requestedLimits, unlimited, Option.getD_none, Settings.limits]
    omega
  simp only [refusal?, if_neg allowed]
  split
  · simp
  · split <;> simp

theorem limit_newRun (settings : Settings) {request : StartRequest}
    (unlimited : request.concurrency = none) :
    ((newRun settings.limits request).limit : Int) = settings.effectiveConcurrency := by
  have bounds := settings.effectiveConcurrency_bounds
  simp only [newRun, requestedLimits, unlimited, Option.getD_none, Settings.limits]
  omega

theorem runs_of_start {defaults : Limits} {request : StartRequest} {session next : Session σ}
    (started : session.start defaults request = .ok next) :
    next.runs = newRun defaults request :: session.runs := by
  unfold start at started
  split at started
  · simp at started
  · rw [← Except.ok.inj started]

end Session

namespace Machine

variable {σ : Type}

section

variable {setup : Setup σ} {clock limit throttle : Nat} {client : σ} {commands : List Command}
  {machine : Machine σ}

theorem Reaches.manned
    (reached : (start clock commands limit throttle client).Reaches setup machine)
    (startable : Startable commands) (meets : setup.client.Meets Recovers) :
    machine.run.Manned := by
  refine ⟨reached.tracked.apart, ?_⟩
  intro index
  constructor
  · intro aloft
    obtain ⟨flight, member, rfl⟩ := List.mem_map.mp aloft
    exact (reached.tracked.aloft member).2
  · rintro ⟨command, found, running⟩
    exact List.mem_map.mpr ((reached.accounted startable meets).manned found running)

theorem Transition.within {next : Machine σ} (transition : machine.Transition setup next)
    (within : machine.run.inFlight.length ≤ machine.run.limit) :
    next.run.inFlight.length ≤ next.run.limit := by
  rw [transition.limits.1]
  have fewer (stays : next.run.inFlight.length ≤ machine.run.inFlight.length) :
      next.run.inFlight.length ≤ machine.run.limit := Nat.le_trans stays within
  cases transition with
  | dispatch phase allowed found clock sent =>
    have room := (Run.dispatchable?_eq_some_iff.mp allowed).1.2.1
    rw [sent, Run.inFlight_dispatch, List.length_append, List.length_singleton]
    exact room
  | land later popped known completion same paused left =>
    obtain ⟨before, after, flights, -, rfl⟩ := Run.popEnded?_spec popped
    apply fewer
    rw [flights, show next.run.inFlight = before ++ after from
      same.inFlight.trans completion.inFlight]
    exact (Run.sublist_of_leaves rfl).length_le
  | lose later popped lost same left =>
    obtain ⟨before, after, flights, -, rfl⟩ := Run.popEnded?_spec popped
    apply fewer
    rw [flights, same.inFlight]
    exact (Run.sublist_of_leaves rfl).length_le
  | drain phase clock first known completion =>
    apply fewer
    rw [first, completion.inFlight]
    exact Nat.le_succ _
  | skip phase clock first lost same =>
    apply fewer
    rw [first, same.inFlight]
    exact Nat.le_succ _
  | pass later same drained => exact fewer (Nat.le_of_eq (congrArg List.length same.inFlight))

theorem Reaches.within
    (reached : (start clock commands limit throttle client).Reaches setup machine) :
    machine.run.inFlight.length ≤ limit := by
  have within := reached.invariant
    (fun machine => machine.run.inFlight.length ≤ machine.run.limit) (Nat.zero_le _)
    fun happens => (transition_of_happens happens).within
  rwa [reached.limits.1] at within

theorem Reaches.landed_of_reported
    (reached : (start clock commands limit throttle client).Reaches setup machine)
    (reported : machine.run.isActive = false) : machine.run.inFlight = [] := by
  obtain ⟨outcome, ended⟩ := reached.aired.reported reported
  exact reached.aired.landed (by simp [Run.decision?, ended])

end

/-- Between any two steps of a run, what it has in flight are its running commands, each once, and
there are no more of them than its limit; when it has its report, there are none. A run that is
started without a limit of its own gets one that the account allows, whatever the settings say. -/
theorem in_flight_is_running {setup : Setup σ} {clock limit throttle : Nat} {client : σ}
    {commands : List Command} {machine : Machine σ} (startable : Startable commands)
    (meets : setup.client.Meets Recovers)
    (reached : (start clock commands limit throttle client).Reaches setup machine) :
    (machine.run.inFlight.map (·.index)).Nodup ∧
      (∀ index, index ∈ machine.run.inFlight.map (·.index) ↔
        ∃ command, machine.run.commands[index]? = some command ∧ command.status = .running) ∧
      machine.run.progress.running = machine.run.inFlight.length ∧
      machine.run.inFlight.length ≤ limit ∧
      (machine.run.isActive = false →
        ∀ command ∈ machine.run.commands, command.status ≠ .running) ∧
      ∀ (settings : Settings) (request : StartRequest) (session : Session σ),
        request.concurrency = none →
        (∀ given, session.refusal? settings.limits request ≠ some (.concurrencyTooLow given)) ∧
        ∀ next : Session σ, session.start settings.limits request = .ok next →
          ∃ run, next.runs = run :: session.runs ∧ run.commands = request.commands ∧
            1 ≤ run.limit ∧ run.limit ≤ if settings.botMode then 5 else 1 := by
  have manned := reached.manned startable meets
  refine ⟨manned.once, fun _ => manned.mem_iff, manned.running_eq, reached.within,
    fun reported => manned.idle (reached.landed_of_reported reported), ?_⟩
  intro settings request session unlimited
  refine ⟨Session.refusal?_ne_concurrencyTooLow settings unlimited session, ?_⟩
  intro next started
  have given := Session.limit_newRun settings unlimited
  have bounds := settings.effectiveConcurrency_bounds
  refine ⟨_, Session.runs_of_start started, rfl, by omega, ?_⟩
  unfold Settings.concurrencyLimit at bounds
  split at bounds <;> simp_all <;> omega

def crowded : Machine Unit :=
  start 5
    [{ id := 0, entityRef := "Q1", mode := .add, prop := "P31", value := some "Q5" },
     { id := 1, entityRef := "Q2", mode := .add, prop := "P31", value := some "Q5" },
     { id := 2, entityRef := "Q3", mode := .add, prop := "P31", value := some "Q5" }]
    2 0 ()

theorem in_flight_is_running_crowded :
    Startable crowded.run.commands ∧ sparing.client.Meets Recovers ∧
      ((crowded.steps sparing 100 4).run.commands.map (·.status)) =
        [.running, .running, .waiting] ∧
      (crowded.steps sparing 100 4).run.inFlight.length ≤ 2 ∧
      (crowded.steps sparing 100 4).run.progress.running =
        (crowded.steps sparing 100 4).run.inFlight.length ∧
      ∀ next : Session Unit,
        Session.start { botMode := true, concurrency := some 9 : Settings }.limits
          { commands := crowded.run.commands } { client := () } = .ok next →
        ∃ run, next.runs = [run] ∧ 1 ≤ run.limit ∧ run.limit ≤ 5 := by
  have startable : Startable crowded.run.commands := by decide
  obtain ⟨-, -, running, within, -, limited⟩ :=
    in_flight_is_running startable sparing_meets_recovers (reaches_steps sparing 100 4 crowded)
  refine ⟨startable, sparing_meets_recovers, by decide +kernel, within, running, ?_⟩
  intro next started
  obtain ⟨run, runs, -, atLeast, atMost⟩ := (limited _ _ _ rfl).2 next started
  exact ⟨run, runs, atLeast, atMost⟩

end Machine

end EditBatch
