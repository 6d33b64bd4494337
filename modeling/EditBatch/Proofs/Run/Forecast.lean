import EditBatch.Proofs.Command.Replies
import EditBatch.Proofs.Run.Completion
import EditBatch.Proofs.Run.Renaming

/-! What comes of a batch, however it is scheduled.

If replies depend on the call alone, and creations are kept apart, what is done for a command
depends on nothing but the command and the creation before it on its ref. How many commands are in
flight, how long the pauses are and how long the answers take decides only when it is done.
-/

set_option autoImplicit false

namespace EditBatch

open Execution

namespace Command

/-- The ref on which the command at a position is carried out: the item that the creation before it
on its ref makes, if there is one and it makes any. -/
def foretoldRef (replies : Replies) (wiki : String) (commands : List Command) (index : Nat)
    (command : Command) : String :=
  match (commands.take index).find? fun earlier =>
    earlier.mode = .create ∧ earlier.entityRef = command.entityRef with
  | some maker =>
    (Run.replacement? maker (maker.resultWith replies wiki)).getD command.entityRef
  | none => command.entityRef

def foretold (replies : Replies) (wiki : String) (commands : List Command) : List Command :=
  commands.mapIdx fun index command =>
    { command with entityRef := foretoldRef replies wiki commands index command, status := .done }

end Command

namespace Run

/-! ## The creation before a command -/

section maker

variable {commands : List Command} {index : Nat} {source : Command}

theorem makes_of_find? {maker : Command} (there : commands[index]? = some source)
    (found : (commands.take index).find? (fun earlier =>
      earlier.mode = .create ∧ earlier.entityRef = source.entityRef) = some maker) :
    ∃ creation, Makes commands creation index maker source := by
  have both := List.find?_some found
  simp only [decide_eq_true_eq] at both
  obtain ⟨creation, here⟩ := List.mem_iff_getElem?.mp (List.mem_of_find?_eq_some found)
  rw [List.getElem?_take] at here
  split at here
  next before => exact ⟨creation, here, there, before, both.1, both.2⟩
  next => simp at here

theorem not_makes_of_find? (none : (commands.take index).find? (fun earlier =>
      earlier.mode = .create ∧ earlier.entityRef = source.entityRef) = none)
    {creation : Nat} {maker : Command} : ¬ Makes commands creation index maker source := by
  intro makes
  have here : (commands.take index)[creation]? = some maker := by
    rw [List.getElem?_take, if_pos makes.before]
    exact makes.here
  have passed := List.find?_eq_none.mp none maker (List.mem_of_getElem? here)
  simp [makes.creates, makes.same] at passed

end maker

/-! ## Ids on record -/

def createdIn (commands : List Command) (told : Nat × CommandResult) : Option String :=
  commands[told.1]?.bind fun command => replacement? command told.2

def failedIn (commands : List Command) (told : Nat × CommandResult) : Option Int :=
  commands[told.1]?.bind fun command => failedId? command told.2

theorem completed_eq (run : Run) : run.completed = run.outcomes.map Prod.fst := by
  rw [completed, outcomes, List.map_filterMap]
  congr 1
  funext event
  cases event <;> rfl

structure Foretold (replies : Replies) (wiki : String) (first : List Command) (run : Run) :
    Prop where
  commands : run.commands = Command.foretold replies wiki first
  calls : ∀ {index : Nat} {command : Command}, run.commands[index]? = some command →
    run.callsFor index = command.callsWith replies wiki
  outcomes : ∀ {index : Nat} {result : CommandResult}, (index, result) ∈ run.outcomes ↔
    ∃ command, run.commands[index]? = some command ∧ result = command.resultWith replies wiki
  once : run.outcomes.Nodup
  createdIds : run.createdIds = run.outcomes.filterMap (createdIn first)
  failedIds : run.failedIds = run.outcomes.filterMap (failedIn first)

theorem Foretold.outcomes_perm {replies : Replies} {wiki : String} {first : List Command}
    {one other : Run} (foretold : one.Foretold replies wiki first)
    (also : other.Foretold replies wiki first) : one.outcomes.Perm other.outcomes := by
  refine (List.perm_ext_iff_of_nodup foretold.once also.once).mpr ?_
  rintro ⟨index, result⟩
  rw [foretold.outcomes, also.outcomes, foretold.commands, also.commands]

end Run

namespace Machine

variable {σ : Type} {setup : Setup σ} {clock limit throttle : Nat} {client : σ}
  {commands : List Command} {machine : Machine σ}

theorem Reaches.ids
    (reached : (start clock commands limit throttle client).Reaches setup machine) :
    machine.run.createdIds = machine.run.outcomes.filterMap (Run.createdIn commands) ∧
      machine.run.failedIds = machine.run.outcomes.filterMap (Run.failedIn commands) := by
  induction reached with
  | refl => exact ⟨rfl, rfl⟩
  | @tail machine next reached happens ih =>
    obtain ⟨created, failed⟩ := ih
    cases happens.change with
    | none after history flights createdIds failedIds =>
      rw [createdIds, failedIds, Run.outcomes, history]
      exact ⟨created, failed⟩
    | dispatch client eligible found after history flights createdIds failedIds =>
      rw [createdIds, failedIds, Run.outcomes_of_dispatched history]
      exact ⟨created, failed⟩
    | @complete flight before after command found running commands' history flights left createdIds
        failedIds =>
      obtain ⟨origin, source⟩ : ∃ origin, commands[flight.index]? = some origin :=
        Reaches.origin reached found
      have framed := Reaches.framed reached source found
      have outcomes := Run.outcomes_of_completed history
      have newCreated : (Run.createdIn commands (flight.index, flight.outcome)) =
          Run.replacement? command flight.outcome := by
        simp only [Run.createdIn, source, Option.bind_some]
        exact Run.replacement?_congr (Reaches.mode reached source found).symm _
      have newFailed : (Run.failedIn commands (flight.index, flight.outcome)) =
          Run.failedId? command flight.outcome := by
        simp only [Run.failedIn, source, Option.bind_some]
        exact Run.failedId?_congr (by rw [framed]) _
      constructor
      · rw [createdIds, created, outcomes, List.filterMap_append, List.filterMap_cons, newCreated]
        cases Run.replacement? command flight.outcome <;> rfl
      · rw [failedIds, failed, outcomes, List.filterMap_append, List.filterMap_cons, newFailed]
        cases Run.failedId? command flight.outcome <;> rfl

section foretold

variable {replies : Replies}

theorem Reaches.resultWith {index : Nat} {command : Command} {result : CommandResult}
    (reached : (start clock commands limit throttle client).Reaches setup machine)
    (startable : Startable commands) (given : setup.client.Meets replies.Given)
    (is : machine.run.commands[index]? = some command)
    (told : (index, result) ∈ machine.run.outcomes) :
    result = command.resultWith replies setup.wiki := by
  obtain ⟨time, ref, member⟩ := Run.mem_outcomes.mp told
  obtain ⟨now, client, stems⟩ :=
    reached.enacted startable index command is (reached.sentBefore _ member)
  have performed := (Plan.perform_given given (command.execution command.entityRef setup.wiki)
    now client).1
  rw [stems.completed member, Flight.outcome, Flight.result_ofPerformance, Run.performance,
    performed]
  rfl

theorem Reaches.callsWith {index : Nat} {command : Command}
    (reached : (start clock commands limit throttle client).Reaches setup machine)
    (startable : Startable commands) (given : setup.client.Meets replies.Given)
    (is : machine.run.commands[index]? = some command) (sent : index ∈ machine.run.sent) :
    machine.run.callsFor index = command.callsWith replies setup.wiki := by
  obtain ⟨now, client, stems⟩ := reached.enacted startable index command is sent
  rw [stems.calls]
  exact (Plan.perform_given given _ now client).2

/-- When everything is done, all commands are where the replies send them. -/
theorem Reaches.commands_foretold
    (reached : (start clock commands limit throttle client).Reaches setup machine)
    (waiting : ∀ command ∈ commands, command.status = .waiting) (apart : CreationsApart commands)
    (given : setup.client.Meets replies.Given)
    (avoids : ∀ call, AvoidsCreations commands call (replies call))
    (done : ∀ command ∈ machine.run.commands, command.status = .done) :
    machine.run.commands = Command.foretold replies setup.wiki commands := by
  have startable : Startable commands := fun command member => .inl (waiting command member)
  have placed := reached.placed waiting apart (given.of_given avoids)
  have length : machine.run.commands.length = commands.length := reached.length
  refine List.ext_getElem (by rw [length, Command.foretold, List.length_mapIdx]) ?_
  intro index bound otherBound
  have is := List.getElem?_eq_getElem bound
  have there := List.getElem?_eq_getElem (length ▸ bound : index < commands.length)
  have framed := reached.framed there is
  have ref : machine.run.commands[index].entityRef =
      commands[index].foretoldRef replies setup.wiki commands index := by
    unfold Command.foretoldRef
    split
    next maker found =>
      obtain ⟨creation, makes⟩ := Run.makes_of_find? there found
      -- The creation is done, too, so that its outcome is known, and it is that of the maker.
      obtain ⟨former, isFormer⟩ : ∃ former, machine.run.commands[creation]? = some former :=
        reached.current makes.here
      have completed : creation ∈ machine.run.completed := by
        rw [reached.tracked.completed_iff makes.here isFormer]
        exact ⟨waiting maker (List.mem_of_getElem? makes.here),
          done former (List.mem_of_getElem? isFormer)⟩
      obtain ⟨time, result, held, member⟩ := Run.mem_completed.mp completed
      have told := Run.mem_outcomes.mpr ⟨time, held, member⟩
      have same := reached.framed makes.here isFormer
      rw [placed.creation apart makes.here makes.creates isFormer] at same
      have outcome := reached.resultWith startable given isFormer told
      rw [same, Command.resultWith_status] at outcome
      rw [placed.made makes is told, outcome]
    next none => exact placed.unmade there is fun makes _ => Run.not_makes_of_find? none makes
  simp only [Command.foretold, List.getElem_mapIdx]
  rw [framed, ref, done _ (List.getElem_mem bound)]

theorem Reaches.foretold
    (reached : (start clock commands limit throttle client).Reaches setup machine)
    (waiting : ∀ command ∈ commands, command.status = .waiting) (apart : CreationsApart commands)
    (given : setup.client.Meets replies.Given)
    (avoids : ∀ call, AvoidsCreations commands call (replies call))
    (done : ∀ command ∈ machine.run.commands, command.status = .done) :
    machine.run.Foretold replies setup.wiki commands := by
  have startable : Startable commands := fun command member => .inl (waiting command member)
  have tracked := reached.tracked
  have finished {index : Nat} {command : Command}
      (is : machine.run.commands[index]? = some command) :
      index ∈ machine.run.sent ∧ index ∈ machine.run.completed := by
    obtain ⟨source, there⟩ : ∃ source, commands[index]? = some source := reached.origin is
    have waited := waiting source (List.mem_of_getElem? there)
    have isDone := done command (List.mem_of_getElem? is)
    rw [tracked.sent_iff there is, tracked.completed_iff there is]
    simp [waited, isDone]
  refine ⟨reached.commands_foretold waiting apart given avoids done, ?_, ?_, ?_, reached.ids.1,
    reached.ids.2⟩
  · exact fun is => reached.callsWith startable given is (finished is).1
  · intro index result
    constructor
    · intro told
      obtain ⟨time, ref, member⟩ := Run.mem_outcomes.mp told
      obtain ⟨command, is⟩ := reached.exists_of_told startable member
      exact ⟨command, is, reached.resultWith startable given is told⟩
    · rintro ⟨command, is, rfl⟩
      obtain ⟨time, result, held, member⟩ := Run.mem_completed.mp (finished is).2
      have told := Run.mem_outcomes.mpr ⟨time, held, member⟩
      rw [← reached.resultWith startable given is told]
      exact told
  · have once := tracked.completedOnce
    rw [Run.completed_eq] at once
    exact once.of_map

end foretold

end Machine

/-! ## Schedules -/

/-- All that decides when the commands of a batch are carried out: how many are in flight, how long
the pauses are, when the run begins, and a client that may take its time over replies. Pauses are
whole numbers of milliseconds that a float holds as they are, and nobody stops the run. -/
structure Schedule (σ : Type) (replies : Replies) (wiki : String) where
  setup : Setup σ
  client : σ
  clock : Nat
  limit : Nat
  throttle : Nat
  onWiki : setup.wiki = wiki
  given : setup.client.Meets replies.Given
  uncancelled : ∀ command, (setup.listener command).cancels = false
  limited : 1 ≤ limit
  throttled : throttle < Nat.pow 2 53
  polled : setup.poll < Nat.pow 2 53

namespace Schedule

variable {σ τ : Type} {replies : Replies} {wiki : String} {commands : List Command}

def finish (schedule : Schedule σ replies wiki) (commands : List Command) : Machine σ :=
  (Machine.start schedule.clock commands schedule.limit schedule.throttle
    schedule.client).runToEnd schedule.setup

theorem finish_foretold (schedule : Schedule σ replies wiki)
    (waiting : ∀ command ∈ commands, command.status = .waiting) (apart : CreationsApart commands)
    (recovers : ∀ call, replies call ≠ .error .fatal)
    (avoids : ∀ call, AvoidsCreations commands call (replies call)) :
    (schedule.finish commands).outcome? = some .completed ∧
      (schedule.finish commands).run.commands.length = commands.length ∧
      (schedule.finish commands).run.Foretold replies wiki commands := by
  have startable : Startable commands := fun command member => .inl (waiting command member)
  have representable : ¬ (pauseLimit ≤ schedule.throttle ∨ pauseLimit ≤ schedule.setup.poll) := by
    rintro (long | long)
    · exact lt_pauseLimit schedule.throttled long
    · exact lt_pauseLimit schedule.polled long
  obtain ⟨finish, toEnd, steps, ended, -, done, -⟩ :=
    Machine.runToEnd_completed schedule.clock schedule.client startable schedule.limited
      representable schedule.uncancelled (schedule.given.of_given recovers)
  rw [Schedule.finish, toEnd]
  refine ⟨by rw [Machine.outcome?, ended], steps.reaches.length, ?_⟩
  have foretold := steps.reaches.foretold waiting apart schedule.given avoids done
  rw [schedule.onWiki] at foretold
  exact foretold

/-- On any two schedules a batch comes to the same: every command makes the same calls in the same
order, has the same result, and ends with the same ref and status; the same ids are on record. -/
theorem same_on_every_schedule (one : Schedule σ replies wiki) (other : Schedule τ replies wiki)
    (waiting : ∀ command ∈ commands, command.status = .waiting) (apart : CreationsApart commands)
    (recovers : ∀ call, replies call ≠ .error .fatal)
    (avoids : ∀ call, AvoidsCreations commands call (replies call)) :
    (one.finish commands).outcome? = some .completed ∧
      (other.finish commands).outcome? = some .completed ∧
      (one.finish commands).run.commands = (other.finish commands).run.commands ∧
      (∀ index, index < commands.length →
        (one.finish commands).run.callsFor index = (other.finish commands).run.callsFor index ∧
        ∃ result, (index, result) ∈ (one.finish commands).run.outcomes ∧
          (index, result) ∈ (other.finish commands).run.outcomes) ∧
      (one.finish commands).run.outcomes.Perm (other.finish commands).run.outcomes ∧
      (one.finish commands).run.createdIds.Perm (other.finish commands).run.createdIds ∧
      (one.finish commands).run.failedIds.Perm (other.finish commands).run.failedIds := by
  obtain ⟨completed, length, foretold⟩ := one.finish_foretold waiting apart recovers avoids
  obtain ⟨also, -, otherwise⟩ := other.finish_foretold waiting apart recovers avoids
  have same := foretold.commands.trans otherwise.commands.symm
  have outcomes := foretold.outcomes_perm otherwise
  refine ⟨completed, also, same, ?_, outcomes, ?_, ?_⟩
  · intro index bound
    obtain ⟨command, is⟩ : ∃ command, (one.finish commands).run.commands[index]? = some command :=
      ⟨_, List.getElem?_eq_getElem (length ▸ bound)⟩
    have alsoIs := is
    rw [same] at alsoIs
    exact ⟨(foretold.calls is).trans (otherwise.calls alsoIs).symm, _,
      foretold.outcomes.mpr ⟨command, is, rfl⟩, otherwise.outcomes.mpr ⟨command, alsoIs, rfl⟩⟩
  · rw [foretold.createdIds, otherwise.createdIds]
    exact outcomes.filterMap _
  · rw [foretold.failedIds, otherwise.failedIds]
    exact outcomes.filterMap _

def sparingReplies : Replies
  | .createEntity _ page => if page = some "Foo" then .ok "Q7" else .error (.remote "no answer")
  | .readStatements _ _ => .ok []
  | .setLabel _ _ _ | .setStatement _ _ _ | .removeStatement _ => .ok ()

theorem sparing_given : Machine.sparing.client.Meets sparingReplies.Given := by
  intro now call state
  cases call <;> rfl

theorem sparingReplies_recovers (call : EditCall) : sparingReplies call ≠ .error .fatal := by
  cases call with
  | createEntity site page =>
    simp only [sparingReplies]
    split <;> simp
  | _ => simp [sparingReplies]

theorem sparingReplies_avoids {commands : List Command}
    (apart : ∀ command ∈ commands, command.mode = .create → command.entityRef ≠ "Q7")
    (call : EditCall) : AvoidsCreations commands call (sparingReplies call) := by
  cases call with
  | createEntity site page =>
    simp only [sparingReplies]
    split
    · exact apart
    · trivial
  | _ => trivial

def dawdling : Setup Nat where
  client :=
    { perform := fun _ call count => (⟨sparingReplies call, 5 + 40 * (count % 2)⟩, count + 1) }
  wiki := "enwiki"
  poll := 7
  poll_pos := by decide
  listener := fun _ => {}

def inOrder : Schedule Unit sparingReplies "enwiki" where
  setup := Machine.sparing
  client := ()
  clock := 0
  limit := 1
  throttle := 0
  onWiki := rfl
  given := sparing_given
  uncancelled := fun _ => rfl
  limited := by decide
  throttled := by decide
  polled := by decide

def interleaved : Schedule Nat sparingReplies "enwiki" where
  setup := dawdling
  client := 1
  clock := 5
  limit := 3
  throttle := 20
  onWiki := rfl
  given := fun _ _ _ => rfl
  uncancelled := fun _ => rfl
  limited := by decide
  throttled := by decide
  polled := by decide

def threeGroups : List Command :=
  [{ id := 0, entityRef := "create_item_0", mode := .create, page := "Foo" },
   { id := 1, entityRef := "create_item_0", mode := .add, prop := "P31", value := some "Q5" },
   { id := 2, entityRef := "create_item_1", mode := .create, page := "Bar" },
   { id := 3, entityRef := "create_item_1", mode := .add, prop := "P31", value := some "Q5" },
   { id := 4, entityRef := "Q7", mode := .delete, prop := "P31" }]

theorem same_on_every_schedule_threeGroups :
    (∀ command ∈ threeGroups, command.status = .waiting) ∧ CreationsApart threeGroups ∧
      (∀ call, sparingReplies call ≠ .error .fatal) ∧
      (∀ call, AvoidsCreations threeGroups call (sparingReplies call)) ∧
      (((Machine.start 0 threeGroups 1 0 ()).steps Machine.sparing 1000 60).run.sent =
        [0, 1, 2, 3, 4]) ∧
      (((Machine.start 5 threeGroups 3 20 1).steps dawdling 1000 60).run.sent =
        [0, 2, 4, 3, 1]) ∧
      (inOrder.finish threeGroups).run.commands = (interleaved.finish threeGroups).run.commands ∧
      (interleaved.finish threeGroups).run.commands.map (·.entityRef) =
        ["create_item_0", "Q7", "create_item_1", "create_item_1", "Q7"] ∧
      (inOrder.finish threeGroups).run.outcomes.Perm
        (interleaved.finish threeGroups).run.outcomes := by
  have waiting : ∀ command ∈ threeGroups, command.status = .waiting := by decide
  have apart : CreationsApart threeGroups := by decide
  have avoids (call : EditCall) : AvoidsCreations threeGroups call (sparingReplies call) :=
    sparingReplies_avoids (by decide) call
  obtain ⟨-, -, commands, -, outcomes, -, -⟩ :=
    same_on_every_schedule inOrder interleaved waiting apart sparingReplies_recovers avoids
  obtain ⟨-, -, foretold⟩ :=
    interleaved.finish_foretold waiting apart sparingReplies_recovers avoids
  refine ⟨waiting, apart, sparingReplies_recovers, avoids, by decide +kernel, by decide +kernel,
    commands, ?_, outcomes⟩
  rw [foretold.commands]
  decide +kernel

def lone : List Command :=
  [{ id := 0, entityRef := "Q1", mode := .add, prop := "P31", value := some "Q5" }]

/-- With a pause of which no float can be made nothing is done, and with none all is. -/
theorem schedules_differ_from_pauseLimit_on :
    (∀ command ∈ lone, command.status = .waiting) ∧ CreationsApart lone ∧
      (∀ call, sparingReplies call ≠ .error .fatal) ∧
      (∀ call, AvoidsCreations lone call (sparingReplies call)) ∧
      Machine.sparing.client.Meets sparingReplies.Given ∧
      (∀ command, (Machine.sparing.listener command).cancels = false) ∧
      (((Machine.start 0 lone 1 0 ()).runToEnd Machine.sparing).run.commands.map (·.status) =
        [.done]) ∧
      (((Machine.start 0 lone 1 pauseLimit ()).runToEnd Machine.sparing).run.commands.map
        (·.status) = [.waiting]) := by
  refine ⟨by decide, by decide, sparingReplies_recovers, sparingReplies_avoids (by decide),
    sparing_given, fun _ => rfl, ?_, ?_⟩
  · have short : ¬ (pauseLimit ≤ 0 ∨ pauseLimit ≤ Machine.sparing.poll) := by decide +kernel
    obtain ⟨finish, toEnd, steps, -, -, done, -⟩ := Machine.runToEnd_completed 0 ()
      (show Startable lone by decide) Nat.one_pos short (fun _ => rfl)
      (sparing_given.of_given sparingReplies_recovers)
    obtain ⟨command, only⟩ := List.length_eq_one_iff.mp
      (show finish.run.commands.length = 1 from steps.reaches.length)
    rw [toEnd, only, List.map_singleton, done command (by rw [only]; exact List.mem_cons_self)]
  · obtain ⟨finish, toEnd, -, unchanged, -⟩ :=
      @Machine.runToEnd_withheld Unit Machine.sparing 1 pauseLimit 0 lone ()
        (.inl (Nat.le_refl pauseLimit))
    rw [toEnd, unchanged]
    rfl

end Schedule

end EditBatch
