import EditBatch.Proofs.Run.Completion
import EditBatch.Proofs.Run.Ledger
import EditBatch.Proofs.Run.Registration
import EditBatch.Proofs.Run.Stopping

/-! Runs that take up what a stopped run has left.

Against a client that does not look at the time there is only one course that the ledger of a run
with one slot can take. So a run of the commands and with the client that a stopped one has left
writes the rest of the ledger that an uninterrupted run would have written.
-/

set_option autoImplicit false

namespace EditBatch

open Execution

variable {σ : Type}

/-- Neither the replies nor what the client remembers depends on the time of a call. -/
def EditClient.Timeless (client : EditClient σ) : Prop :=
  ∀ (now later : Nat) (call : EditCall) (state : σ),
    (client.perform later call state).1.outcome = (client.perform now call state).1.outcome ∧
      (client.perform later call state).2 = (client.perform now call state).2

theorem EditClient.Timeless.perform {α : Type} {client : EditClient σ} (timeless : client.Timeless)
    (plan : Plan α) (now later : Nat) (state : σ) :
    (plan.perform client later state).result = (plan.perform client now state).result ∧
      (plan.perform client later state).client = (plan.perform client now state).client ∧
      (plan.perform client later state).calls.map (·.call) =
        (plan.perform client now state).calls.map (·.call) := by
  induction plan generalizing now later state with
  | finish result => exact ⟨rfl, rfl, rfl⟩
  | call request next ih =>
    obtain ⟨sameReply, sameState⟩ := timeless now later request state
    simp only [Plan.perform, List.map_cons, sameReply, sameState]
    obtain ⟨result, remembered, calls⟩ := ih (client.perform now request state).1.outcome
      (now + (client.perform now request state).1.delay)
      (later + (client.perform later request state).1.delay) (client.perform now request state).2
    exact ⟨result, remembered, by rw [calls]⟩

/-- What two setups make of a command is the same. -/
structure Setup.EditsAs (one other : Setup σ) : Prop where
  client : one.client = other.client
  wiki : one.wiki = other.wiki

theorem Setup.EditsAs.performance {one other : Setup σ} (same : one.EditsAs other) (now : Nat)
    (command : Command) (client : σ) :
    Run.performance one now command client = Run.performance other now command client := by
  rw [Run.performance, Run.performance, same.client, same.wiki]

namespace Ledger

variable {setup other : Setup σ} {ledger first middle last : Ledger σ}

theorem enter_eq_of_timeless (timeless : setup.client.Timeless) (now later index : Nat)
    (command : Command) (ledger : Ledger σ) :
    ledger.enter setup later index command = ledger.enter setup now index command := by
  obtain ⟨result, remembered, calls⟩ := timeless.perform
    (command.execution command.entityRef setup.wiki) now later ledger.client
  have same : Run.entry setup later index command ledger.client =
      Run.entry setup now index command ledger.client := by
    simp only [Run.entry, Run.performance, Flight.outcome, Flight.result_ofPerformance, result,
      calls]
  simp only [enter, same, Run.performance, remembered]

theorem Turn.rightUnique (timeless : setup.client.Timeless) :
    Relator.RightUnique (Turn setup) := by
  rintro before one other ⟨now, eligible, found⟩ ⟨later, eligible', found'⟩
  cases eligible.symm.trans eligible'
  cases found.symm.trans found'
  exact enter_eq_of_timeless timeless later now _ _ before

theorem Turn.editsAs (turn : Turn other ledger last) (same : other.EditsAs setup) :
    Turn setup ledger last := by
  cases turn with
  | @enter index command now eligible found =>
    have entered : ledger.enter other now index command = ledger.enter setup now index command := by
      simp only [Ledger.enter, Run.entry, same.performance]
    rw [entered]
    exact .enter now eligible found

theorem Course.editsAs (course : Course other first last) (same : other.EditsAs setup) :
    Course setup first last :=
  Relation.ReflTransGen.mono (fun _ _ turn => turn.editsAs same) _ _ course

def behind (earlier : List Entry) (ledger : Ledger σ) : Ledger σ :=
  { ledger with entries := earlier ++ ledger.entries }

theorem Turn.behind (turn : Turn setup ledger last) (earlier : List Entry) :
    Turn setup (ledger.behind earlier) (last.behind earlier) := by
  cases turn with
  | @enter index command now eligible found =>
    have entered : (ledger.enter setup now index command).behind earlier =
        (ledger.behind earlier).enter setup now index command := by
      simp only [Ledger.behind, Ledger.enter, List.append_assoc]
    rw [entered]
    exact .enter now eligible found

theorem Course.resume (course : Course setup first middle)
    (rest : Course setup { commands := middle.commands, client := middle.client } last) :
    Course setup first (last.behind middle.entries) := by
  have onward : Course setup (Ledger.behind middle.entries
      { commands := middle.commands, client := middle.client }) (last.behind middle.entries) :=
    Relation.ReflTransGen.lift (Ledger.behind middle.entries)
      (fun _ _ turn => turn.behind middle.entries) _ _ rest
  rw [Ledger.behind, List.append_nil] at onward
  exact course.trans onward

theorem Turn.exists_waiting (turn : Turn setup ledger last) :
    ∃ command ∈ ledger.commands, command.status = .waiting := by
  cases turn with
  | enter now eligible found =>
    exact ⟨_, List.mem_of_getElem? found, (Command.nextEligible?_spec eligible found).1⟩

theorem Course.eq_of_done (timeless : setup.client.Timeless) (one : Course setup first middle)
    (other : Course setup first last) (done : ∀ command ∈ middle.commands, command.status = .done)
    (alsoDone : ∀ command ∈ last.commands, command.status = .done) : middle = last := by
  have stays {ledger next : Ledger σ} (course : Course setup ledger next)
      (done : ∀ command ∈ ledger.commands, command.status = .done) : ledger = next := by
    rcases Relation.ReflTransGen.cases_head course with same | ⟨between, turn, -⟩
    · exact same
    · obtain ⟨command, member, waiting⟩ := turn.exists_waiting
      simp [done command member] at waiting
  rcases Relation.ReflTransGen.total_of_right_unique (Turn.rightUnique timeless) one other with
    onward | back
  · exact stays onward done
  · exact (stays back alsoDone).symm

end Ledger

namespace Machine

variable {setup : Setup σ} {clock limit throttle : Nat} {client : σ} {commands : List Command}
  {machine : Machine σ}

theorem Reaches.reported {report : Report}
    (reached : (start clock commands limit throttle client).Reaches setup machine)
    (reported : machine.run.report = some report) :
    machine.run.phase = .ended report.outcome ∧
      report = machine.run.reportWith report.outcome := by
  refine reached.invariant (fun machine => ∀ report, machine.run.report = some report →
    machine.run.phase = .ended report.outcome ∧ report = machine.run.reportWith report.outcome)
    (by simp [start]) ?_ report reported
  intro machine next happens told report reported
  cases happens with
  | wait | share | register | finish => exact told report reported
  | cancel =>
    have same : machine.run.cancel.report = machine.run.report := by
      unfold Run.cancel
      split <;> rfl
    have settled := told report (same.symm.trans reported)
    unfold Run.cancel
    split <;> exact settled
  | fail looping =>
    obtain ⟨ended, -⟩ := told report reported
    simp [Run.isLooping, ended] at looping
  | report ended unreported =>
    cases reported
    exact ⟨ended, rfl⟩
  | step horizon due =>
    have kept := (move_of_step due).registers.report
    obtain ⟨ended, -⟩ := told report (kept.symm.trans reported)
    obtain ⟨time, ready, -⟩ := step?_eq_some_iff.mp due
    simp [Run.readyAt?, ended] at ready

/-- A run whose client nobody else uses comes to its report. -/
structure Closes (setup : Setup σ) (first last : Machine σ) (report : Report) : Prop where
  alone : first.Alone setup last
  reported : last.run.report = some report

theorem Closes.exists_ledger {report : Report}
    (closes : (start clock commands 1 throttle client).Closes setup machine report) :
    ∃ ledger : Ledger σ, Ledger.Course setup { commands, client } ledger ∧
      machine.run.commands = ledger.commands ∧ machine.client = ledger.client ∧
      machine.run.Tells ledger.entries ledger.entries ∧
      report.createdIds = machine.run.createdIds ∧ report.failedIds = machine.run.failedIds := by
  obtain ⟨ended, same⟩ := closes.alone.reaches.reported closes.reported
  obtain ⟨ledger, course, current, holder, tells⟩ := closes.alone.ledger_of_ended ended
  exact ⟨ledger, course, current, holder, tells, by rw [same]; rfl, by rw [same]; rfl⟩

theorem Closes.done {report : Report}
    (closes : (start clock commands limit throttle client).Closes setup machine report)
    (completed : report.outcome = .completed) :
    ∀ command ∈ machine.run.commands, command.status = .done :=
  closes.alone.reaches.done_of_completed
    (completed ▸ (closes.alone.reaches.reported closes.reported).1)

/-! ## Reports to come -/

theorem Alone.cancel {first : Machine σ} (alone : first.Alone setup machine) :
    first.Alone setup { machine with run := machine.run.cancel } :=
  .tail alone ⟨.cancel, .inr rfl⟩

def closed (outcome : Outcome) (machine : Machine σ) : Machine σ :=
  { machine with run := machine.run.close outcome }

theorem Alone.closes {first : Machine σ} {outcome : Outcome} (alone : first.Alone setup machine)
    (ended : machine.run.phase = .ended outcome) (active : machine.run.isActive = true) :
    first.Closes setup (machine.closed outcome) (machine.run.reportWith outcome) :=
  ⟨.tail alone ⟨.report ended active, .inr rfl⟩, rfl⟩

theorem Reaches.closes {outcome : Outcome}
    (reached : (start clock commands limit throttle client).Reaches setup machine)
    (ended : machine.run.phase = .ended outcome) :
    ∃ last report, machine.Closes setup last report ∧ report.outcome = outcome := by
  cases reported : machine.run.report with
  | some report =>
    refine ⟨machine, report, ⟨.refl, reported⟩, ?_⟩
    have settled := (reached.reported reported).1
    rw [ended] at settled
    exact (Phase.ended.inj settled).symm
  | none =>
    have active : machine.run.isActive = true := by rw [Run.isActive, reported]; rfl
    exact ⟨_, _, Alone.closes .refl ended active, rfl⟩

theorem steps_ended_of_decision? {outcome : Outcome}
    (decided : machine.run.decision? = some outcome) :
    ∃ last, machine.Steps setup last ∧ last.run.phase = .ended outcome := by
  unfold Run.decision? at decided
  split at decided
  next former phase =>
    cases decided
    have ready : machine.run.readyAt? = some machine.run.lastEnd := by
      simp only [Run.readyAt?, phase]
    refine ⟨_, .single ⟨machine.run.lastEnd,
      step?_eq_some_iff.mpr ⟨_, ready, Nat.le_refl _, rfl⟩⟩, ?_⟩
    simp [Run.step, phase, Run.depart]
  next former phase =>
    cases decided
    exact ⟨machine, .refl, phase⟩
  next => simp at decided

theorem Reaches.closes_of_cancelled
    (reached : (start clock commands limit throttle client).Reaches setup machine)
    (startable : Startable commands) (meets : setup.client.Meets Recovers)
    (active : machine.run.isActive = true) :
    ∃ last report, Closes setup { machine with run := machine.run.cancel } last report := by
  have asking : (start clock commands limit throttle client).Reaches setup
      { machine with run := machine.run.cancel } := .tail reached .cancel
  have requested : machine.run.cancel.stop.requested = true := by
    rw [Run.cancel, if_pos active]
    rfl
  obtain ⟨rest, outcome, steps, ended⟩ : ∃ rest outcome,
      Steps setup { machine with run := machine.run.cancel } rest ∧
        rest.run.phase = .ended outcome := by
    cases decided : machine.run.cancel.decision? with
    | none =>
      have stops := stops_of_stopped asking startable meets requested decided
      exact ⟨_, _, (runToEnd_spec setup _).1, stops.1⟩
    | some outcome =>
      obtain ⟨rest, steps, ended⟩ := @steps_ended_of_decision? _ setup
        { machine with run := machine.run.cancel } _ decided
      exact ⟨rest, outcome, steps, ended⟩
  obtain ⟨last, report, closes, -⟩ := Reaches.closes (asking.trans steps.reaches) ended
  exact ⟨last, report, steps.alone.trans closes.alone, closes.reported⟩

theorem exists_closes_completed (clock : Nat) (client : σ) (startable : Startable commands)
    (limited : 0 < limit) (representable : ¬ (pauseLimit ≤ throttle ∨ pauseLimit ≤ setup.poll))
    (uncancelled : ∀ command, (setup.listener command).cancels = false)
    (meets : setup.client.Meets Recovers) :
    ∃ last report, (start clock commands limit throttle client).Closes setup last report ∧
      report.outcome = .completed := by
  obtain ⟨rest, -, steps, ended, -⟩ :=
    runToEnd_completed clock client startable limited representable uncancelled meets
  obtain ⟨last, report, closes, completed⟩ := steps.reaches.closes ended
  exact ⟨last, report, ⟨steps.alone.trans closes.alone, closes.reported⟩, completed⟩

theorem Withheld.happens {next : Machine σ} (withheld : machine.Withheld commands)
    (long : pauseLimit ≤ machine.run.throttle ∨ pauseLimit ≤ setup.poll)
    (happens : machine.Happens setup next) : next.Withheld commands := by
  obtain ⟨unchanged, silent, landed, phase⟩ := withheld
  cases happens with
  | step horizon due =>
    exact Withheld.move ⟨unchanged, silent, landed, phase⟩ long (move_of_step due)
  | wait | share | register | report | finish => exact ⟨unchanged, silent, landed, phase⟩
  | cancel =>
    have same := Run.alike_cancel machine.run
    exact ⟨same.commands.trans unchanged, same.history.trans silent, same.inFlight.trans landed,
      by simpa using phase⟩
  | fail => exact ⟨unchanged, silent, landed, .inr (.inl rfl)⟩

theorem Reaches.withheld
    (reached : (start clock commands limit throttle client).Reaches setup machine)
    (long : pauseLimit ≤ throttle ∨ pauseLimit ≤ setup.poll) : machine.Withheld commands := by
  induction reached with
  | refl => exact ⟨rfl, rfl, rfl, .inl rfl⟩
  | tail before happens withheld =>
    have throttled := (Reaches.limits before).2
    exact withheld.happens (throttled ▸ long) happens

/-- A run that is stopped and another one that goes on with what it has left make, one after the
other, the calls of an uninterrupted run. The commands end as they do there, the reports together
name the same ids, and the client is left in the same state. -/
theorem Closes.resume {again whole : Setup σ} {clock later begins throttle pause spacing : Nat}
    {client : σ} {commands : List Command} {stopped resumed finished : Machine σ}
    {former latter report : Report}
    (timeless : setup.client.Timeless) (resumes : again.EditsAs setup)
    (persists : whole.EditsAs setup)
    (stops : (start clock commands 1 throttle client).Closes setup stopped former)
    (goesOn : (start later stopped.run.commands 1 pause stopped.client).Closes again resumed latter)
    (completes : latter.outcome = .completed)
    (uninterrupted : (start begins commands 1 spacing client).Closes whole finished report)
    (completed : report.outcome = .completed) :
    stopped.run.calls ++ resumed.run.calls = finished.run.calls ∧
      resumed.run.commands = finished.run.commands ∧
      former.createdIds ++ latter.createdIds = report.createdIds ∧
      former.failedIds ++ latter.failedIds = report.failedIds ∧
      resumed.client = finished.client := by
  obtain ⟨one, oneCourse, left, holder, told, created, failed⟩ := stops.exists_ledger
  rw [left, holder] at goesOn
  obtain ⟨two, twoCourse, done, keeper, tells, makes, fails⟩ := goesOn.exists_ledger
  obtain ⟨three, threeCourse, atEnd, owner, agrees, makesAll, failsAll⟩ :=
    uninterrupted.exists_ledger
  have twoDone := goesOn.done completes
  have threeDone := uninterrupted.done completed
  rw [done] at twoDone
  rw [atEnd] at threeDone
  obtain rfl : two.behind one.entries = three :=
    Ledger.Course.eq_of_done timeless (oneCourse.resume (twoCourse.editsAs resumes))
      (threeCourse.editsAs persists) twoDone threeDone
  refine ⟨?_, done.trans atEnd.symm, ?_, ?_, keeper.trans owner.symm⟩
  · rw [told.calls, tells.calls, agrees.calls, Ledger.behind, List.flatMap_append]
  · rw [created, makes, makesAll, told.createdIds, tells.createdIds, agrees.createdIds,
      Ledger.behind, List.flatMap_append]
  · rw [failed, fails, failsAll, told.failedIds, tells.failedIds, agrees.failedIds, Ledger.behind,
      List.flatMap_append]

/-- Stopping a run with one slot at any moment and going on with what it has left loses nothing and
repeats nothing, against a client that does not look at the time. A run that is asked to stop comes
to its report, and whatever it has left can be completed; the two runs together then make the calls
of an uninterrupted run, report the same ids, and leave commands and client as it does. If the
pauses cannot be represented, none of the runs does anything. -/
theorem resumes_where_stopped {setup again whole : Setup σ} {clock throttle : Nat} {client : σ}
    {commands : List Command} (waiting : ∀ command ∈ commands, command.status = .waiting)
    (timeless : setup.client.Timeless) (meets : setup.client.Meets Recovers)
    (resumes : again.EditsAs setup) (persists : whole.EditsAs setup) :
    (∀ machine : Machine σ, (start clock commands 1 throttle client).Alone setup machine →
      machine.run.isActive = true →
      ∃ stopped former, Closes setup { machine with run := machine.run.cancel } stopped former) ∧
    (∀ (stopped : Machine σ) (former : Report),
      (start clock commands 1 throttle client).Closes setup stopped former →
      ∀ later pause : Nat,
        (¬ (pauseLimit ≤ pause ∨ pauseLimit ≤ again.poll) →
          (∀ command, (again.listener command).cancels = false) →
          ∃ resumed latter,
            (start later stopped.run.commands 1 pause stopped.client).Closes again resumed
              latter ∧ latter.outcome = .completed) ∧
        ∀ (resumed : Machine σ) (latter : Report),
          (start later stopped.run.commands 1 pause stopped.client).Closes again resumed latter →
          latter.outcome = .completed →
          ∀ (begins spacing : Nat) (finished : Machine σ) (report : Report),
            (start begins commands 1 spacing client).Closes whole finished report →
            report.outcome = .completed →
            stopped.run.calls ++ resumed.run.calls = finished.run.calls ∧
              resumed.run.commands = finished.run.commands ∧
              former.createdIds ++ latter.createdIds = report.createdIds ∧
              former.failedIds ++ latter.failedIds = report.failedIds ∧
              resumed.client = finished.client) ∧
    (∀ begins spacing : Nat, ¬ (pauseLimit ≤ spacing ∨ pauseLimit ≤ whole.poll) →
      (∀ command, (whole.listener command).cancels = false) →
      ∃ finished report, (start begins commands 1 spacing client).Closes whole finished report ∧
        report.outcome = .completed) ∧
    ((pauseLimit ≤ throttle ∨ pauseLimit ≤ setup.poll) →
      ∀ (stopped : Machine σ) (report : Report),
        (start clock commands 1 throttle client).Closes setup stopped report →
        stopped.run.calls = [] ∧ stopped.run.commands = commands ∧ report.createdIds = [] ∧
          report.failedIds = []) := by
  have startable : Startable commands := fun command member => .inl (waiting command member)
  have recovers {other : Setup σ} (same : other.EditsAs setup) : other.client.Meets Recovers :=
    same.client ▸ meets
  refine ⟨?_, ?_, ?_, ?_⟩
  · exact fun machine alone active => alone.reaches.closes_of_cancelled startable meets active
  · intro stopped former stops later pause
    constructor
    · obtain ⟨ledger, course, left, -⟩ := stops.exists_ledger
      rw [left]
      exact fun representable uncancelled => exists_closes_completed later stopped.client
        (course.startable startable) Nat.one_pos representable uncancelled (recovers resumes)
    · exact fun resumed latter goesOn completes begins spacing finished report =>
        stops.resume timeless resumes persists goesOn completes
  · exact fun begins spacing representable uncancelled => exists_closes_completed begins client
      startable Nat.one_pos representable uncancelled (recovers persists)
  · intro long stopped report closes
    have withheld := closes.alone.reaches.withheld long
    obtain ⟨ledger, -, -, -, tells, created, failed⟩ := closes.exists_ledger
    have outcomes := tells.outcomes
    rw [Run.outcomes, withheld.history, List.filterMap_nil, eq_comm, List.map_eq_nil_iff]
      at outcomes
    rw [outcomes] at tells
    exact ⟨tells.calls, withheld.commands, created.trans tells.createdIds,
      failed.trans tells.failedIds⟩

theorem alone_steps (setup : Setup σ) (horizon count : Nat) (machine : Machine σ) :
    machine.Alone setup (machine.steps setup horizon count) :=
  (steps_steps setup horizon count machine).alone

def divided : List Command :=
  [{ id := 0, entityRef := "create_item_0", mode := .create, page := "Foo" },
   { id := 1, entityRef := "create_item_0", mode := .add, prop := "P31", value := some "Q5" },
   { id := 2, entityRef := "create_item_1", mode := .create, page := "Bar" },
   { id := 3, entityRef := "create_item_1", mode := .add, prop := "P31", value := some "Q5" }]

def halted : Machine Unit :=
  let creating := (start 5 divided 1 50 ()).steps sparing 5 3
  (({ creating with run := creating.run.cancel } : Machine Unit).steps sparing 100 20).closed
    .stopped

def carriedOn : Machine Unit :=
  ((start 200 halted.run.commands 1 0 halted.client).steps sparing 1000 40).closed .completed

def inOneGo : Machine Unit := ((start 0 divided 1 20 ()).steps sparing 1000 40).closed .completed

theorem sparing_timeless : sparing.client.Timeless := by
  intro now later call state
  cases call <;> exact ⟨rfl, rfl⟩

theorem resumes_where_stopped_creating :
    (∀ command ∈ divided, command.status = .waiting) ∧ sparing.client.Timeless ∧
      sparing.client.Meets Recovers ∧
      halted.run.sent = [0] ∧ halted.run.createdIds = ["Q7"] ∧
      carriedOn.run.sent = [1, 2, 3] ∧ carriedOn.run.failedIds = [2, 3] ∧
      halted.run.calls ++ carriedOn.run.calls = inOneGo.run.calls ∧
      carriedOn.run.commands = inOneGo.run.commands := by
  have waiting : ∀ command ∈ divided, command.status = .waiting := by decide
  have stops : ∃ report, (start 5 divided 1 50 ()).Closes sparing halted report := by
    have cancelled := (alone_steps sparing 5 3 (start 5 divided 1 50 ())).cancel
    exact ⟨_, Alone.closes (cancelled.trans (alone_steps sparing 100 20 _)) (by decide +kernel)
      (by decide +kernel)⟩
  have goesOn : ∃ report, (start 200 halted.run.commands 1 0 halted.client).Closes sparing
      carriedOn report ∧ report.outcome = .completed :=
    ⟨_, (alone_steps sparing 1000 40 _).closes (by decide +kernel) (by decide +kernel), rfl⟩
  have uninterrupted : ∃ report, (start 0 divided 1 20 ()).Closes sparing inOneGo report ∧
      report.outcome = .completed :=
    ⟨_, (alone_steps sparing 1000 40 _).closes (by decide +kernel) (by decide +kernel), rfl⟩
  obtain ⟨former, stops⟩ := stops
  obtain ⟨latter, goesOn, completes⟩ := goesOn
  obtain ⟨report, uninterrupted, completed⟩ := uninterrupted
  have same : sparing.EditsAs sparing := ⟨rfl, rfl⟩
  obtain ⟨calls, commands, -⟩ :=
    ((resumes_where_stopped waiting sparing_timeless sparing_meets_recovers same same).2.1 _ _
      stops 200 0).2 _ _ goesOn completes _ _ _ _ uninterrupted completed
  refine ⟨waiting, sparing_timeless, sparing_meets_recovers, by decide +kernel, by decide +kernel,
    by decide +kernel, by decide +kernel, calls, commands⟩

end Machine

end EditBatch
