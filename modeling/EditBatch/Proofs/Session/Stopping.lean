import EditBatch.Proofs.Run.Stopping
import EditBatch.Proofs.Session.Attendance
import EditBatch.Rehearsal.Listener

/-! Stopping the runs of a session.

A run is asked to stop within one of its steps, by another caller while its loop is on, or by a
script. None of these moments comes after the decision of the loop, for a script finds a run that
has decided with its report. From then on the run only sees to what is in flight.
-/

set_option autoImplicit false

namespace EditBatch

open Execution

namespace Run

/-! ## Counting -/

theorem countP_isDone_of_landed {before after : List Command}
    (length : after.length = before.length)
    (landed : ∀ (index : Nat) (command : Command), before[index]? = some command →
      ∃ other, after[index]? = some other ∧
        other.status = if command.status = .running then .done else command.status) :
    after.countP (·.isDone) =
      before.countP (·.isDone) + before.countP (·.status = .running) := by
  induction before generalizing after with
  | nil =>
    rw [List.length_eq_zero_iff.mp length]
    rfl
  | cons command rest ih =>
    cases after with
    | nil => simp at length
    | cons other others =>
      have tail := ih (Nat.succ.inj length) fun index found => landed (index + 1) found
      obtain ⟨_, ⟨⟩, status⟩ := landed 0 command rfl
      have head : (if other.isDone then 1 else 0) =
          (if command.isDone then 1 else 0) +
            if decide (command.status = .running) then 1 else 0 := by
        rw [Command.isDone, Command.isDone, status]
        cases command.status <;> simp
      rw [List.countP_cons, List.countP_cons, List.countP_cons, tail, head]
      omega

end Run

namespace Session

variable {σ : Type}

/-! ## Reports -/

theorem run?_goOn_of_ended {setup : SessionSetup σ} {session : Session σ} {run : Run}
    {past : List Run} {horizon : Nat} {finish : Machine σ} {outcome : Outcome}
    (runs : session.runs = run :: past)
    (finishes : Machine.runUntil setup.toSetup horizon ⟨session.clock, run, session.client⟩ =
      finish)
    (ended : finish.run.phase = .ended outcome) (active : finish.run.isActive = true) :
    (session.goOn setup horizon).run? past.length =
      some { finish.run.close outcome with finished := true } := by
  obtain ⟨machine, moved, isMachine, -, -, current, rest⟩ := goOn_spec setup horizon runs
  rw [finishes] at isMachine
  subst isMachine
  rcases rest with ⟨-, settled⟩ | ⟨other, isEnded, -, same⟩
  · simp [settled outcome ended] at active
  · cases ended.symm.trans isEnded
    obtain ⟨opened, -, found, final, -⟩ := finishLatest_spec setup.defaults outcome current
    rw [same, final, run?_setRun found, if_pos rfl]

end Session

namespace Machine

variable {σ : Type}

/-! ## Moments -/

section moments

variable {setup : SessionSetup σ} {machine next : Machine σ}

/-- A run is asked to stop within a step, by its listener or by a loop that is broken off; by another
caller while the loop is on; or by a script between two of its steps, for as long as the run has no
report. -/
inductive Asks (setup : SessionSetup σ) (machine : Machine σ) : Machine σ → Prop where
  | step {next : Machine σ} (horizon : Nat)
      (due : machine.step? setup.toSetup horizon = some next) : Asks setup machine next
  | cancel (looping : machine.run.isLooping = true) :
      Asks setup machine { machine with run := machine.run.cancel }
  | script {client : σ} {steps : List (Step σ)} {session : Session σ} {handle : Nat}
      (unmarked : ∀ step ∈ steps, ∀ handle index status, step ≠ .mark handle index status)
      (performed : (({ client } : Session σ).recordAll setup steps).2 = session)
      (clock : session.clock = machine.clock) (client : session.client = machine.client)
      (found : session.run? handle = some machine.run) (active : machine.run.isActive = true) :
      Asks setup machine { machine with run := machine.run.cancel }

theorem Asks.happens (asks : machine.Asks setup next) : machine.Happens setup.toSetup next := by
  cases asks with
  | step horizon due => exact .step horizon due
  | cancel | script => exact .cancel

/-- Whoever asks, the loop has not come to an outcome. -/
theorem Asks.undecided (asks : machine.Asks setup next)
    (unasked : machine.run.stop.requested = false) (asked : next.run.stop.requested = true) :
    next.run.decision? = none := by
  cases asks with
  | step horizon due => exact (move_of_step due).undecided_of_asked unasked asked
  | cancel looping =>
    rw [Run.decision?, Run.phase_cancel]
    exact Run.decision?_of_looping looping
  | script unmarked performed clock client found active =>
    subst performed
    rw [Run.decision?, Run.phase_cancel]
    exact Session.undecided_of_recordAll unmarked found active

end moments

section asked

variable {setup : Setup σ} {clock limit throttle : Nat} {client : σ} {commands : List Command}
  {machine next : Machine σ}

theorem clock_of_asked
    (reached : (start clock commands limit throttle client).Reaches setup machine)
    (startable : Startable commands) (meets : setup.client.Meets Recovers)
    (unasked : machine.run.stop.requested = false) (happens : machine.Happens setup next)
    (asked : next.run.stop.requested = true) (undecided : next.run.decision? = none) :
    (next.runToEnd setup).clock = (next.run.inFlight.map (·.endsAt)).max?.getD next.clock := by
  have after : (start clock commands limit throttle client).Reaches setup next :=
    reached.tail happens
  obtain ⟨-, landed, -⟩ := stops_of_stopped after startable meets asked undecided
  have steps := (runToEnd_spec setup next).1
  obtain ⟨-, landings, absorbed, past⟩ := steps.reaches.absorbed after startable meets asked
  have soon := (steps.stopping after startable meets asked undecided).1
  have later := steps.clock_le
  have spent := after.aired.spent
  generalize next.runToEnd setup = finish at *
  have flights := absorbed.flights
  rw [landed, List.append_nil] at flights
  cases ends : (next.run.inFlight.map (·.endsAt)).max? with
  | none =>
    rw [List.max?_eq_none_iff, List.map_eq_nil_iff] at ends
    have gone : next.run.lastEnd ≤ next.clock := by simpa [ends] using spent
    rw [Option.getD_none]
    omega
  | some last =>
    rw [List.max?_eq_some_iff] at ends
    obtain ⟨among, greatest⟩ := ends
    obtain ⟨flight, member, rfl⟩ := List.mem_map.mp among
    have bound {other : Flight} (aloft : other ∈ next.run.inFlight) :
        other.endsAt ≤ flight.endsAt := greatest _ (List.mem_map_of_mem aloft)
    have uncrashed := (after.accounted startable meets).uncrashed.1
    obtain ⟨late, isLate, beyond⟩ := reached.aired.aloft_of_asked after.aired unasked happens
      undecided uncrashed (List.ne_nil_of_mem member)
    have atLeast := past flight (flights.mem_iff.mpr member)
    have overall : next.run.lastEnd ≤ flight.endsAt := by
      rcases spent with gone | ⟨other, isOther, same⟩
      · exact Nat.le_trans gone (Nat.le_trans beyond (bound isLate))
      · exact same ▸ bound isOther
    have sooner := bound isLate
    rw [Option.getD_some]
    omega

theorem running_of_landing {landings : List Flight} {index : Nat} {command : Command}
    {first : List Command} (tracked : machine.run.Tracked first)
    (absorbed : machine.run.Absorbed landings next.run)
    (lands : index ∈ landings.map (·.index))
    (was : machine.run.commands[index]? = some command) : command.status = .running := by
  obtain ⟨flight, member, rfl⟩ := List.mem_map.mp lands
  have aloft := absorbed.flights.mem_iff.mp (List.mem_append_left _ member)
  obtain ⟨-, other, found, running⟩ := tracked.aloft aloft
  cases was.symm.trans found
  exact running

theorem getElem?_of_landed {finish : Machine σ} {landings : List Flight} {index : Nat}
    {command : Command}
    (reached : (start clock commands limit throttle client).Reaches setup next)
    (startable : Startable commands) (meets : setup.client.Meets Recovers)
    (absorbed : next.run.Absorbed landings finish.run) (landed : finish.run.inFlight = [])
    (later : next.Reaches setup finish) (was : next.run.commands[index]? = some command) :
    ∃ ref, finish.run.commands[index]? = some
      { command with
        status := if command.status = .running then .done else command.status
        entityRef := ref } := by
  have flights := absorbed.flights
  rw [landed, List.append_nil] at flights
  obtain ⟨after, is⟩ := later.current was
  refine ⟨after.entityRef, is.trans ?_⟩
  rw [absorbed.commands] at is
  obtain ⟨before, there, same⟩ := Run.getElem?_absorb is
  cases was.symm.trans there
  have runs : index ∈ landings.map (·.index) ↔ command.status = .running := by
    constructor
    · exact fun lands => running_of_landing reached.tracked absorbed lands was
    · intro running
      rw [(flights.map (·.index)).mem_iff, List.mem_map]
      exact (reached.accounted startable meets).manned was running
  simp only [runs] at same
  exact congrArg some same

theorem entityRef_of_running {index : Nat} {before after : Command}
    (reached : (start clock commands limit throttle client).Reaches setup machine)
    (startable : Startable commands) (later : machine.Reaches setup next)
    (told : ∃ events, next.run.history = machine.run.history ++ events)
    (was : machine.run.commands[index]? = some before) (running : before.status = .running)
    (is : next.run.commands[index]? = some after) : after.entityRef = before.entityRef := by
  obtain ⟨time, endsAt, sent⟩ := (reached.exclusive startable).sent was running
  obtain ⟨events, history⟩ := told
  have stillSent := List.mem_append_left events sent
  rw [← history] at stillSent
  have exclusive := Reaches.exclusive (Relation.ReflTransGen.trans reached later) startable
  obtain ⟨held, there, ref, -⟩ := exclusive.kept stillSent
  cases is.symm.trans there
  exact ref

theorem getElem?_of_waiting {index : Nat} {command : Command}
    (reached : (start clock commands limit throttle client).Reaches setup machine)
    (startable : Startable commands) (meets : setup.client.Meets Recovers)
    (asked : machine.run.stop.requested = true) (later : machine.Reaches setup next)
    (was : machine.run.commands[index]? = some command) (waits : command.status = .waiting) :
    ∃ ref, next.run.commands[index]? = some { command with entityRef := ref } := by
  obtain ⟨-, landings, absorbed, -⟩ := later.absorbed reached startable meets asked
  obtain ⟨held, is⟩ := later.current was
  refine ⟨held.entityRef, is.trans ?_⟩
  rw [absorbed.commands] at is
  obtain ⟨before, there, same⟩ := Run.getElem?_absorb is
  cases was.symm.trans there
  rw [if_neg] at same
  · exact congrArg some same
  · intro lands
    simp [running_of_landing reached.tracked absorbed lands was] at waits

theorem result_of_landing {finish : Machine σ} {landings : List Flight} {flight : Flight}
    (reached : (start clock commands limit throttle client).Reaches setup machine)
    (startable : Startable commands) (meets : setup.client.Meets Recovers)
    (absorbed : machine.run.Absorbed landings finish.run) (lands : flight ∈ landings) :
    flight.result = some flight.outcome := by
  have aloft := absorbed.flights.mem_iff.mp (List.mem_append_left _ lands)
  have known := (reached.accounted startable meets).recovers aloft
  obtain ⟨result, isResult⟩ := Option.ne_none_iff_exists'.mp known
  rw [Flight.outcome, isResult, Option.getD_some]

theorem isActive_of_undecided
    (reached : (start clock commands limit throttle client).Reaches setup machine)
    (undecided : machine.run.decision? = none) : machine.run.isActive = true := by
  cases active : machine.run.isActive with
  | true => rfl
  | false =>
    obtain ⟨outcome, ended⟩ := reached.aired.reported active
    simp [Run.decision?, ended] at undecided

theorem report_of_asked {finish : Machine σ} {landings : List Flight} {defaults : Limits}
    {session : Session σ} {past : List Run} {horizon : Nat}
    (reached : (start clock commands limit throttle client).Reaches setup next)
    (startable : Startable commands) (meets : setup.client.Meets Recovers)
    (undecided : next.run.decision? = none) (steps : next.Steps setup finish)
    (ended : finish.run.phase = .ended .stopped)
    (absorbed : next.run.Absorbed landings finish.run) (landed : finish.run.inFlight = [])
    (atClock : session.clock = next.clock) (withClient : session.client = next.client)
    (runs : session.runs = next.run :: past) (settled : next.runUntil setup horizon = finish) :
    ∃ run, (session.goOn { toSetup := setup, defaults } horizon).run? past.length = some run ∧
      run.finished = true ∧
      run.report = some
        { outcome := .stopped
          done := next.run.progress.done + next.run.progress.running
          total := commands.length
          createdIds := finish.run.createdIds
          failedIds := finish.run.failedIds } := by
  have reported : finish.run.isActive = true := by
    rw [Run.isActive, steps.registers.report]
    exact isActive_of_undecided reached undecided
  have runsTo :
      Machine.runUntil setup horizon ⟨session.clock, next.run, session.client⟩ = finish := by
    rw [atClock, withClient]
    exact settled
  refine ⟨_, Session.run?_goOn_of_ended runs runsTo ended reported, rfl, ?_⟩
  have later := steps.reaches
  have done := Run.countP_isDone_of_landed later.length fun index command was => by
    obtain ⟨ref, is⟩ := getElem?_of_landed reached startable meets absorbed landed later was
    exact ⟨_, is, rfl⟩
  have total : finish.run.commands.length = commands.length :=
    later.length.trans reached.length
  simp only [Run.close, Run.reportWith, Run.progress, done, total]

end asked

/-- Once a run has been asked to stop, by whomever and at whatever moment, no waiting command is
sent off and no call is made: all that happens is that commands in flight are completed. Left to
itself, the run ends stopped, and exactly when the last command ends that was in flight at that
moment. Until then every running command is done, its result recorded as at any other time, and the
report counts those that are done. -/
theorem stops_when_asked {setup : SessionSetup σ} {clock limit throttle : Nat} {client : σ}
    {commands : List Command} {machine next : Machine σ}
    (waiting : ∀ command ∈ commands, command.status = .waiting)
    (meets : setup.client.Meets Recovers)
    (reached : (start clock commands limit throttle client).Reaches setup.toSetup machine)
    (unasked : machine.run.stop.requested = false) (asks : machine.Asks setup next)
    (asked : next.run.stop.requested = true) :
    (∀ later : Machine σ, next.Reaches setup.toSetup later →
      (∀ (index : Nat) (command : Command), next.run.commands[index]? = some command →
        command.status = .waiting →
        ∃ ref, later.run.commands[index]? = some { command with entityRef := ref }) ∧
      ∃ events, later.run.history = next.run.history ++ events ∧
        ∀ event ∈ events, ∃ time index result ref, event = .completed time index result ref) ∧
    ∃ finish : Machine σ, next.runToEnd setup.toSetup = finish ∧
      (∀ horizon, finish.clock ≤ horizon → next.runUntil setup.toSetup horizon = finish) ∧
      finish.outcome? = some .stopped ∧
      finish.clock = (next.run.inFlight.map (·.endsAt)).max?.getD next.clock ∧
      (∀ (index : Nat) (command : Command), next.run.commands[index]? = some command →
        command.status = .running →
        finish.run.commands[index]? = some { command with status := .done }) ∧
      (∃ landings, landings.Perm next.run.inFlight ∧ next.run.Absorbed landings finish.run ∧
        ∀ flight ∈ landings, flight.result = some flight.outcome) ∧
      ∀ (session : Session σ) (past : List Run) (horizon : Nat),
        session.clock = next.clock → session.client = next.client →
        session.runs = next.run :: past → finish.clock ≤ horizon →
        ∃ run, (session.goOn setup horizon).run? past.length = some run ∧
          run.finished = true ∧
          run.report = some
            { outcome := .stopped
              done := next.run.progress.done + next.run.progress.running
              total := commands.length
              createdIds := finish.run.createdIds
              failedIds := finish.run.failedIds } := by
  have startable : Startable commands := fun command member => .inl (waiting command member)
  have happens := asks.happens
  have undecided := asks.undecided unasked asked
  have after : (start clock commands limit throttle client).Reaches setup.toSetup next :=
    reached.tail happens
  constructor
  · intro later reaches
    obtain ⟨-, landings, absorbed, -⟩ := reaches.absorbed after startable meets asked
    exact ⟨fun index command => getElem?_of_waiting after startable meets asked reaches,
      absorbed.completions⟩
  · have atEnd := clock_of_asked reached startable meets unasked happens asked undecided
    obtain ⟨ended, landed, settled⟩ := stops_of_stopped after startable meets asked undecided
    have steps := (runToEnd_spec setup.toSetup next).1
    have later := steps.reaches
    obtain ⟨-, landings, absorbed, -⟩ := later.absorbed after startable meets asked
    generalize next.runToEnd setup.toSetup = finish at *
    have flights := absorbed.flights
    rw [landed, List.append_nil] at flights
    refine ⟨finish, rfl, settled, by rw [outcome?, ended], atEnd, ?_, ?_, ?_⟩
    · intro index command was running
      obtain ⟨ref, is⟩ := getElem?_of_landed after startable meets absorbed landed later was
      obtain ⟨events, history, -⟩ := absorbed.told
      have same := entityRef_of_running after startable later ⟨events, history⟩ was running is
      simp only at same
      rw [is, if_pos running, same]
    · exact ⟨landings, flights, absorbed,
        fun flight => result_of_landing after startable meets absorbed⟩
    · intro session past horizon atClock withClient runs late
      exact report_of_asked after startable meets undecided steps ended absorbed landed atClock
        withClient runs (settled horizon late)

def halved : List Command :=
  [{ id := 0, entityRef := "create_item_0", mode := .create, page := "Foo" },
   { id := 1, entityRef := "create_item_0", mode := .add, prop := "P31", value := some "Q5" },
   { id := 2, entityRef := "create_item_1", mode := .create, page := "Bar" },
   { id := 3, entityRef := "create_item_1", mode := .add, prop := "P31", value := some "Q5" }]

/-- The listener asks for a stop as soon as the second creation is sent off. -/
def doubtful : SessionSetup Unit where
  toSetup := { sparing with listener := Rehearsal.ListenerRule.listener [⟨2, .running, .cancel⟩] }
  defaults := ⟨2, 50⟩

def interrupted (count : Nat) : Machine Unit :=
  (start 0 halved 2 50 ()).steps doubtful.toSetup 100 count

/-- The run is stopped by the listener while both creations are in flight, or by a script before
its thread has begun. -/
theorem stops_when_asked_interrupted :
    (∀ command ∈ halved, command.status = .waiting) ∧
      doubtful.client.Meets Recovers ∧
      ((interrupted 3).run.commands.map (·.status)) = [.running, .waiting, .running, .waiting] ∧
      (∃ finish : Machine Unit, (interrupted 3).runToEnd doubtful.toSetup = finish ∧
        finish.outcome? = some .stopped ∧ finish.clock = 10 ∧
        finish.run.commands[0]? = some
          { id := 0, entityRef := "create_item_0", mode := .create, page := "Foo"
            status := .done }) ∧
      ∃ finish : Machine Unit,
        Machine.runToEnd doubtful.toSetup
          { interrupted 0 with run := (interrupted 0).run.cancel } = finish ∧
        finish.outcome? = some .stopped ∧ finish.clock = 0 := by
  have waiting : ∀ command ∈ halved, command.status = .waiting := by decide
  have meets : doubtful.client.Meets Recovers := sparing_meets_recovers
  have reached (count : Nat) := reaches_steps doubtful.toSetup 100 count (start 0 halved 2 50 ())
  have dispatches : (interrupted 2).step? doubtful.toSetup 100 = some (interrupted 3) :=
    step?_steps (by decide +kernel)
  have started : (interrupted 0).Asks doubtful
      { interrupted 0 with run := (interrupted 0).run.cancel } :=
    @Asks.script Unit doubtful _ () [.start { commands := halved }] _ 0 (by simp) rfl rfl rfl rfl
      rfl
  obtain ⟨-, finish, toEnd, -, outcome, clock, done, -⟩ :=
    stops_when_asked waiting meets (reached 2) (by decide +kernel) (.step 100 dispatches)
      (by decide +kernel)
  obtain ⟨-, unbegun, atOnce, -, stopped, still, -⟩ :=
    stops_when_asked waiting meets (reached 0) rfl started rfl
  refine ⟨waiting, meets, by decide +kernel, ⟨finish, toEnd, outcome, ?_, ?_⟩, unbegun, atOnce,
    stopped, ?_⟩
  · rw [clock]
    decide +kernel
  · exact done 0
      { id := 0, entityRef := "create_item_0", mode := .create, page := "Foo", status := .running }
      (by decide +kernel) rfl
  · rw [still]
    rfl

end Machine

end EditBatch
