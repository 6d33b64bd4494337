import EditBatch.Proofs.Run.Completion
import EditBatch.Proofs.Run.Pace
import Mathlib.Algebra.GroupWithZero.Nat

/-! Runs that carry out one command at a time.

Such a run does what a plain loop over the commands does: carry out the next one on the ref that
it has by then, mark it as done, and let a created item take the place of its ref. The pauses
come to nothing but a shift of the times at which commands begin.
-/

set_option autoImplicit false

namespace EditBatch

open Execution

/-- A command that was carried out on its own, and what came of it. -/
structure Stint where
  index : Nat
  ref : String
  begins : Nat
  endsAt : Nat
  calls : List CallRecord
  result : CommandResult

namespace Stint

def duration (stint : Stint) : Nat := stint.endsAt - stint.begins

def events (stint : Stint) : List RunEvent :=
  (.dispatched stint.begins stint.index stint.ref stint.endsAt ::
      stint.calls.map fun record => .called record.time stint.index record.call) ++
    [.completed stint.endsAt stint.index stint.result stint.ref]

/-- When the next command begins after some: they have all taken their time, with a pause behind
each. -/
def nextBegin (clock throttle : Nat) (stints : List Stint) : Nat :=
  clock + (stints.map fun stint => stint.duration + throttle).sum

theorem nextBegin_concat {clock throttle : Nat} {stints : List Stint} {stint : Stint}
    (begins : stint.begins = nextBegin clock throttle stints)
    (forward : stint.begins ≤ stint.endsAt) :
    nextBegin clock throttle (stints ++ [stint]) = stint.endsAt + throttle := by
  unfold nextBegin at begins ⊢
  rw [List.map_append, List.sum_append, List.map_singleton, List.sum_singleton, duration]
  omega

end Stint

structure Sequence (σ : Type) where
  commands : List Command
  client : σ
  createdIds : List String := []
  failedIds : List Int := []
  stints : List Stint := []

namespace Sequence

variable {σ : Type}

def performance (setup : Setup σ) (clock throttle : Nat) (sequence : Sequence σ)
    (command : Command) : Performance σ (Except Escape CommandResult) :=
  Run.performance setup (Stint.nextBegin clock throttle sequence.stints) command sequence.client

/-- Carries out a command on its current ref and marks it as done; the id of a created item takes
the place of its ref in all unfinished commands. A fatal failure has no result. -/
def carryOut (setup : Setup σ) (clock throttle : Nat) (sequence : Sequence σ) (index : Nat) :
    Sequence σ :=
  match sequence.commands[index]? with
  | none => sequence
  | some command =>
    let begins := Stint.nextBegin clock throttle sequence.stints
    let done := sequence.performance setup clock throttle command
    match settle done.result with
    | none => sequence
    | some result =>
      let finished := sequence.commands.set index { command with status := .done }
      { commands :=
          match Run.replacement? command result with
          | some newId => Command.redirect command.entityRef newId finished
          | none => finished
        client := done.client
        createdIds := sequence.createdIds ++ (Run.replacement? command result).toList
        failedIds := sequence.failedIds ++ (Run.failedId? command result).toList
        stints := sequence.stints ++
          [⟨index, command.entityRef, begins, done.endsAt, done.calls, result⟩] }

def ofFirst (setup : Setup σ) (clock throttle : Nat) (commands : List Command) (client : σ)
    (count : Nat) : Sequence σ :=
  (List.range count).foldl (carryOut setup clock throttle) { commands, client }

end Sequence

namespace Run

/-! ## What is told of a sequence -/

section events

variable (stints : List Stint)

theorem completionTimes_events :
    completionTimes (stints.flatMap Stint.events) = stints.map (·.endsAt) := by
  rw [completionTimes, List.filterMap_flatMap, List.map_eq_flatMap]
  congr 1
  funext stint
  simp [Stint.events, List.filterMap_cons, RunEvent.completedAt?]

theorem sent_events :
    (stints.flatMap Stint.events).filterMap RunEvent.sentIndex? = stints.map (·.index) := by
  rw [List.filterMap_flatMap, List.map_eq_flatMap]
  congr 1
  funext stint
  simp [Stint.events, RunEvent.sentIndex?]

theorem outcomes_events :
    (stints.flatMap Stint.events).filterMap RunEvent.outcome? =
      stints.map fun stint => (stint.index, stint.result) := by
  rw [List.filterMap_flatMap, List.map_eq_flatMap]
  congr 1
  funext stint
  simp [Stint.events, List.filterMap_cons, RunEvent.outcome?]

theorem callLog_of_events {run : Run} {stints : List Stint}
    (history : run.history = stints.flatMap Stint.events) :
    run.callLog = stints.flatMap (·.calls) := by
  rw [callLog, history, List.filterMap_flatMap]
  congr 1
  funext stint
  simp [Stint.events, List.filterMap_map]

end events

end Run

namespace Sequence

variable {σ : Type}

section ofFirst

variable {setup : Setup σ} {clock throttle : Nat} {commands : List Command} {client : σ}
  {count : Nat}

theorem ofFirst_succ (setup : Setup σ) (clock throttle : Nat) (commands : List Command)
    (client : σ) (count : Nat) :
    ofFirst setup clock throttle commands client (count + 1) =
      (ofFirst setup clock throttle commands client count).carryOut setup clock throttle count := by
  rw [ofFirst, List.range_succ, List.foldl_append, List.foldl_cons, List.foldl_nil, ofFirst]

def stint (setup : Setup σ) (clock throttle : Nat) (sequence : Sequence σ) (index : Nat)
    (command : Command) (result : CommandResult) : Stint where
  index := index
  ref := command.entityRef
  begins := Stint.nextBegin clock throttle sequence.stints
  endsAt := (sequence.performance setup clock throttle command).endsAt
  calls := (sequence.performance setup clock throttle command).calls
  result := result

theorem carryOut_eq {sequence : Sequence σ} {index : Nat} {command : Command}
    {result : CommandResult} (found : sequence.commands[index]? = some command)
    (known : settle (sequence.performance setup clock throttle command).result = some result) :
    sequence.carryOut setup clock throttle index =
      { commands := Run.afterCompletion index command result sequence.commands
        client := (sequence.performance setup clock throttle command).client
        createdIds := sequence.createdIds ++ (Run.replacement? command result).toList
        failedIds := sequence.failedIds ++ (Run.failedId? command result).toList
        stints := sequence.stints ++
          [sequence.stint setup clock throttle index command result] } := by
  simp only [carryOut, found, known]
  rw [Run.afterCompletion, Run.map_redirected]
  cases Run.replacement? command result <;> rfl

theorem begin_le_endsAt (sequence : Sequence σ) (command : Command) :
    Stint.nextBegin clock throttle sequence.stints ≤
      (sequence.performance setup clock throttle command).endsAt :=
  Plan.now_le_endsAt _ _ _ _

theorem exists_result (meets : setup.client.Meets Recovers) (sequence : Sequence σ)
    (command : Command) :
    ∃ result, settle (sequence.performance setup clock throttle command).result = some result :=
  Option.ne_none_iff_exists'.mp (Run.settle_performance_ne_none meets _ _ _)

/-- The first so many commands have been carried out, and the others wait. -/
structure Sound (clock throttle : Nat) (first : List Command) (count : Nat)
    (sequence : Sequence σ) : Prop where
  length : sequence.commands.length = first.length
  status : ∀ {index : Nat} {command : Command}, sequence.commands[index]? = some command →
    command.status = if index < count then .done else .waiting
  size : sequence.stints.length = count
  order : ∀ {position : Nat} {stint : Stint}, sequence.stints[position]? = some stint →
    stint.index = position ∧
      stint.begins = Stint.nextBegin clock throttle (sequence.stints.take position)
  due : Stint.nextBegin clock throttle sequence.stints =
    match sequence.stints.getLast? with
    | none => clock
    | some stint => stint.endsAt + throttle

theorem sound_zero (waiting : ∀ command ∈ commands, command.status = .waiting) (client : σ) :
    Sound clock throttle commands 0 ({ commands, client } : Sequence σ) := by
  refine ⟨rfl, ?_, rfl, by simp, by simp [Stint.nextBegin]⟩
  intro index command found
  simpa using waiting command (List.mem_of_getElem? found)

theorem Sound.next {sequence : Sequence σ} (sound : Sound clock throttle commands count sequence)
    (more : count < commands.length) :
    ∃ command, sequence.commands[count]? = some command ∧ command.status = .waiting := by
  have found := List.getElem?_eq_getElem (sound.length ▸ more : count < sequence.commands.length)
  exact ⟨_, found, by simpa using sound.status found⟩

theorem Sound.carryOut {sequence : Sequence σ} {command : Command}
    (sound : Sound clock throttle commands count sequence)
    (meets : setup.client.Meets Recovers) (found : sequence.commands[count]? = some command) :
    Sound clock throttle commands (count + 1)
      (sequence.carryOut setup clock throttle count) := by
  have bound := (List.getElem?_eq_some_iff.mp found).1
  obtain ⟨result, known⟩ := sequence.exists_result meets command
  rw [carryOut_eq found known]
  refine ⟨?_, ?_, ?_, ?_, ?_⟩
  · simp only [Run.afterCompletion, List.length_map, List.length_set]
    exact sound.length
  · intro index after is
    rcases Run.cases_of_completed found is with ⟨rfl, rfl⟩ | ⟨elsewhere, before, was, rfl⟩
    · simp
    · rw [Run.status_redirected, sound.status was]
      split <;> split <;> first | rfl | omega
  · rw [List.length_append, sound.size, List.length_singleton]
  · intro position stint is
    simp only [List.getElem?_append] at is
    split at is
    next before =>
      rw [List.take_append_of_le_length (Nat.le_of_lt before)]
      exact sound.order is
    next beyond =>
      have last : position = sequence.stints.length := by
        have inside := (List.getElem?_eq_some_iff.mp is).1
        rw [List.length_singleton] at inside
        omega
      subst last
      rw [Nat.sub_self] at is
      cases is
      rw [List.take_left]
      exact ⟨sound.size.symm, rfl⟩
  · simp only [List.getLast?_concat]
    exact Stint.nextBegin_concat rfl (begin_le_endsAt sequence command)

theorem sound_ofFirst (clock throttle : Nat) (client : σ)
    (waiting : ∀ command ∈ commands, command.status = .waiting)
    (meets : setup.client.Meets Recovers) (within : count ≤ commands.length) :
    Sound clock throttle commands count (ofFirst setup clock throttle commands client count) := by
  induction count with
  | zero => exact sound_zero waiting client
  | succ count ih =>
    have sound := ih (Nat.le_of_succ_le within)
    obtain ⟨command, found, -⟩ := sound.next within
    rw [ofFirst_succ]
    exact sound.carryOut meets found

theorem Sound.idle {sequence : Sequence σ}
    (sound : Sound clock throttle commands count sequence) :
    ∀ other ∈ sequence.commands, other.status ≠ .running := by
  intro other member running
  obtain ⟨index, found⟩ := List.mem_iff_getElem?.mp member
  have known := sound.status found
  rw [running] at known
  split at known <;> simp at known

theorem Sound.latest_le {sequence : Sequence σ}
    (sound : Sound clock throttle commands count sequence) (command : Command) :
    (sequence.stints.getLast?.map (·.endsAt)).getD 0 ≤
      (sequence.performance setup clock throttle command).endsAt := by
  refine Nat.le_trans ?_ (begin_le_endsAt sequence command)
  rw [sound.due]
  cases sequence.stints.getLast? with
  | none => exact Nat.zero_le _
  | some stint => exact Nat.le_add_right _ _

theorem Sound.dueTime {sequence : Sequence σ}
    (sound : Sound clock throttle commands count sequence) :
    Run.dueTime clock throttle (sequence.stints.flatMap Stint.events) =
      Stint.nextBegin clock throttle sequence.stints := by
  rw [Run.dueTime, Run.completionTimes_events, List.getLast?_map, sound.due]
  cases sequence.stints.getLast? <;> rfl

end ofFirst

end Sequence

namespace Machine

variable {σ : Type}

/-- A run is where the loop is, or one command further on its way. -/
inductive Follows (setup : Setup σ) (clock : Nat) (sequence : Sequence σ) (machine : Machine σ) :
    Prop where
  | between (inFlight : machine.run.inFlight = [])
      (commands : machine.run.commands = sequence.commands)
      (client : machine.client = sequence.client)
      (createdIds : machine.run.createdIds = sequence.createdIds)
      (failedIds : machine.run.failedIds = sequence.failedIds)
      (history : machine.run.history = sequence.stints.flatMap Stint.events)
      (lastEnd : machine.run.lastEnd = (sequence.stints.getLast?.map (·.endsAt)).getD 0)
  /-- The next command is in flight. -/
  | during {command : Command}
      (found : sequence.commands[sequence.stints.length]? = some command)
      (inFlight : machine.run.inFlight = [.ofPerformance sequence.stints.length
        (sequence.performance setup clock machine.run.throttle command)])
      (commands : machine.run.commands =
        sequence.commands.set sequence.stints.length { command with status := .running })
      (client : machine.client =
        (sequence.performance setup clock machine.run.throttle command).client)
      (createdIds : machine.run.createdIds = sequence.createdIds)
      (failedIds : machine.run.failedIds = sequence.failedIds)
      (history : machine.run.history = sequence.stints.flatMap Stint.events ++
        Run.dispatchEvents (Stint.nextBegin clock machine.run.throttle sequence.stints)
          sequence.stints.length command.entityRef
          (sequence.performance setup clock machine.run.throttle command))
      (lastEnd : machine.run.lastEnd =
        (sequence.performance setup clock machine.run.throttle command).endsAt)

section follows

variable {setup : Setup σ} {clock count : Nat} {commands : List Command}
  {sequence : Sequence σ} {machine next : Machine σ}

theorem Follows.alike (follows : machine.Follows setup clock sequence)
    (alike : machine.run.Alike next.run) (client : next.client = machine.client) :
    next.Follows setup clock sequence := by
  cases follows with
  | between inFlight current holder createdIds failedIds history lastEnd =>
    exact .between (alike.inFlight.trans inFlight) (alike.commands.trans current)
      (client.trans holder) (alike.createdIds.trans createdIds) (alike.failedIds.trans failedIds)
      (alike.history.trans history) (alike.lastEnd.trans lastEnd)
  | during found inFlight current holder createdIds failedIds history lastEnd =>
    rw [← alike.throttle] at inFlight holder history lastEnd
    exact .during found (alike.inFlight.trans inFlight) (alike.commands.trans current)
      (client.trans holder) (alike.createdIds.trans createdIds) (alike.failedIds.trans failedIds)
      (alike.history.trans history) (alike.lastEnd.trans lastEnd)

theorem Follows.dispatch {index : Nat} {command : Command}
    (follows : machine.Follows setup clock sequence)
    (sound : sequence.Sound clock machine.run.throttle commands count)
    (paced : machine.Paced clock) (single : machine.run.limit = 1)
    (phase : machine.run.phase = .dispatching)
    (allowed : machine.run.dispatchable? machine.clock = some index)
    (found : machine.run.commands[index]? = some command) :
    Follows setup clock sequence
      ⟨machine.clock,
        (machine.run.dispatch setup machine.clock index command machine.client).1,
        (machine.run.dispatch setup machine.clock index command machine.client).2⟩ := by
  obtain ⟨⟨free, room, unstopped⟩, eligible⟩ := Run.dispatchable?_eq_some_iff.mp allowed
  cases follows with
  | during _ inFlight =>
    rw [inFlight, single] at room
    simp at room
  | between inFlight current holder createdIds failedIds history lastEnd =>
    have looping : machine.run.isLooping = true := by simp [Run.isLooping, phase]
    have candidate : machine.run.HasCandidate := ⟨room, unstopped, by rw [eligible]; rfl⟩
    have due := paced.clock_eq_dueTime looping candidate free
    rw [history, sound.dueTime] at due
    have performed : Run.performance setup machine.clock command machine.client =
        sequence.performance setup clock machine.run.throttle command := by
      rw [due, holder, Sequence.performance]
    have waiting := (Command.nextEligible?_spec eligible found).1
    rw [current] at found eligible
    have isNext : index = sequence.stints.length := by
      rw [sound.size]
      have known := sound.status found
      have notBefore : ¬ index < count := fun before => by simp [waiting, before] at known
      have bound := (List.getElem?_eq_some_iff.mp found).1
      rw [sound.length] at bound
      obtain ⟨other, there, waits⟩ := sound.next (by omega)
      have first := Command.nextEligible?_le sound.idle there waits eligible
      omega
    subst isNext
    refine .during found ?_ ?_ ?_ createdIds failedIds ?_ ?_
    · rw [Run.inFlight_dispatch, inFlight, performed]
      rfl
    · rw [Run.commands_dispatch, current]
    · exact congrArg Performance.client performed
    · rw [Run.history_dispatch, history, performed, due]
      rfl
    · rw [Run.lastEnd_dispatch, performed, lastEnd]
      exact Nat.max_eq_right (sound.latest_le command)

theorem Follows.land {time : Nat} {flight : Flight} {result : CommandResult} {rest landed : Run}
    (follows : machine.Follows setup clock sequence) (aired : machine.Aired)
    (ready : machine.run.readyAt? = some time) (looping : machine.run.isLooping = true)
    (popped : machine.run.popEnded? (max machine.clock time) = some (flight, rest))
    (known : flight.result = some result)
    (completed : rest.complete? setup.listener (max machine.clock time) flight.index result =
      some landed) :
    sequence.stints.length < sequence.commands.length ∧
      Follows setup clock
        (sequence.carryOut setup clock machine.run.throttle sequence.stints.length)
        ⟨max machine.clock time, landed.resumed (max machine.clock time), machine.client⟩ := by
  obtain ⟨before, after, flights, ended, rfl⟩ := Run.popEnded?_spec popped
  obtain ⟨running, completion⟩ := Run.completion_of_complete? completed
  cases follows with
  | between inFlight => simp [inFlight] at flights
  | @during command found inFlight current holder createdIds failedIds history lastEnd =>
    rw [inFlight] at flights
    obtain ⟨rfl, rfl, rfl⟩ : before = [] ∧ flight = .ofPerformance sequence.stints.length
        (sequence.performance setup clock machine.run.throttle command) ∧ after = [] := by
      cases before with
      | nil => simpa [eq_comm] using flights
      | cons other others => simp at flights
    have soon := aired.soon looping ready (.ofPerformance sequence.stints.length
      (sequence.performance setup clock machine.run.throttle command))
      (by rw [inFlight]; exact List.mem_cons_self)
    have now : max machine.clock time =
        (sequence.performance setup clock machine.run.throttle command).endsAt :=
      Nat.le_antisymm soon ended
    have isRunning : running = { command with status := .running } := by
      have runs : machine.run.commands[sequence.stints.length]? = some running := completion.found
      rw [current, Run.getElem?_sent found, if_pos rfl] at runs
      exact (Option.some.inj runs).symm
    subst isRunning
    refine ⟨(List.getElem?_eq_some_iff.mp found).1, ?_⟩
    rw [Sequence.carryOut_eq found known]
    refine .between completion.inFlight ?_ holder ?_ ?_ ?_ ?_
    · refine completion.commands.trans ?_
      simp only [current, Run.afterCompletion, Flight.index_ofPerformance, List.set_set]
      rfl
    · exact completion.createdIds.trans (by rw [createdIds]; rfl)
    · exact completion.failedIds.trans (by rw [failedIds]; rfl)
    · refine completion.history.trans ?_
      rw [history, now, List.flatMap_append, List.flatMap_singleton, Stint.events,
        List.append_assoc]
      rfl
    · refine completion.lastEnd.trans ?_
      rw [lastEnd, List.getLast?_concat]
      rfl

theorem Follows.move (follows : machine.Follows setup clock sequence)
    (sound : sequence.Sound clock machine.run.throttle commands count)
    (paced : machine.Paced clock) (aired : machine.Aired) (accounted : machine.Accounted)
    (tracked : machine.run.Tracked commands) (undrained : machine.run.phase ≠ .draining)
    (single : machine.run.limit = 1) (move : machine.Move setup next) :
    next.Follows setup clock sequence ∨
      count < commands.length ∧
        next.Follows setup clock (sequence.carryOut setup clock machine.run.throttle count) := by
  cases move with
  | begin | overflow | wake | quit =>
    exact .inl (follows.alike (Run.alike_update _ _ _ _ _ _) rfl)
  | dispatch phase allowed found =>
    exact .inl (follows.dispatch sound paced single phase allowed found)
  | turn => exact .inl (follows.alike (Run.alike_turn _ _ _) rfl)
  | land ready waits popped known completed =>
    right
    rw [← sound.size, ← sound.length]
    exact follows.land aired ready (isLooping_of_waits waits) popped known completed
  | lose ready waits popped lost => exact absurd lost (accounted.not_lost tracked popped)
  | depart => exact .inl (follows.alike (Run.alike_depart _ _) rfl)
  | drain phase | skip phase | finish phase => exact absurd phase undrained

end follows

/-- A run with one slot that nobody stops is always where the loop is. -/
theorem Steps.follows {setup : Setup σ} {clock throttle : Nat} {client : σ}
    {commands : List Command} {machine : Machine σ}
    (steps : (start clock commands 1 throttle client).Steps setup machine)
    (waiting : ∀ command ∈ commands, command.status = .waiting)
    (representable : ¬ (pauseLimit ≤ throttle ∨ pauseLimit ≤ setup.poll))
    (uncancelled : ∀ command, (setup.listener command).cancels = false)
    (meets : setup.client.Meets Recovers) :
    ∃ count, count ≤ commands.length ∧
      machine.Follows setup clock
        (Sequence.ofFirst setup clock throttle commands client count) := by
  have startable : Startable commands := fun command member => .inl (waiting command member)
  induction steps with
  | refl => exact ⟨0, Nat.zero_le _, .between rfl rfl rfl rfl rfl rfl rfl⟩
  | @tail machine next before due ih =>
    obtain ⟨count, within, follows⟩ := ih
    obtain ⟨horizon, due⟩ := due
    have reached := Steps.reaches before
    have steady := Steps.steady before startable Nat.one_pos representable uncancelled meets
    obtain ⟨single, throttled⟩ := Reaches.limits reached
    have throttled : machine.run.throttle = throttle := throttled
    have sound := Sequence.sound_ofFirst clock throttle client waiting meets within
    rw [← throttled] at sound follows
    rcases follows.move sound (Reaches.paced reached) (Reaches.aired reached)
        (Reaches.accounted reached startable meets) (Reaches.tracked reached) steady.undrained
        single (move_of_step due) with still | ⟨more, further⟩
    · rw [throttled] at still
      exact ⟨count, within, still⟩
    · rw [throttled, ← Sequence.ofFirst_succ] at further
      exact ⟨count + 1, more, further⟩

theorem Follows.finished {setup : Setup σ} {clock throttle count : Nat} {client : σ}
    {commands : List Command} {machine : Machine σ} {sequence : Sequence σ}
    (follows : machine.Follows setup clock sequence)
    (sound : sequence.Sound clock throttle commands count) (within : count ≤ commands.length)
    (landed : machine.run.inFlight = [])
    (done : ∀ command ∈ machine.run.commands, command.status = .done)
    (steps : (start clock commands 1 throttle client).Steps setup machine)
    (punctual : machine.Punctual clock) :
    count = commands.length ∧ machine.run.commands = sequence.commands ∧
      machine.client = sequence.client ∧ machine.run.createdIds = sequence.createdIds ∧
      machine.run.failedIds = sequence.failedIds ∧
      machine.run.history = sequence.stints.flatMap Stint.events ∧
      machine.clock = (sequence.stints.getLast?.map (·.endsAt)).getD clock := by
  cases follows with
  | during _ inFlight => simp [inFlight] at landed
  | between inFlight current holder createdIds failedIds history lastEnd =>
    refine ⟨?_, current, holder, createdIds, failedIds, history, ?_⟩
    · apply Decidable.byContradiction
      intro fewer
      obtain ⟨command, found, waits⟩ := sound.next (by omega)
      rw [← current] at found
      simp [done command (List.mem_of_getElem? found)] at waits
    · have noneWaits : Run.waitingCount machine.run.commands = 0 := by
        refine List.countP_eq_zero.mpr fun command member => ?_
        simp [done command member]
      have sent : machine.run.sent = sequence.stints.map (·.index) := by
        rw [Run.sent, history, Run.sent_events]
      cases latest : sequence.stints.getLast? with
      | none =>
        rw [List.getLast?_eq_none_iff] at latest
        rw [latest] at sent
        exact Nat.le_antisymm (punctual.clock_le_of_unsent sent) steps.clock_le
      | some stint =>
        have someSent : machine.run.sent ≠ [] := by
          rw [sent]
          intro none
          rw [List.map_eq_nil_iff] at none
          simp [none] at latest
        have settled := (punctual.settled.resolve_left (by omega)).resolve_left someSent
        have spent : machine.run.lastEnd ≤ machine.clock := by
          simpa [landed] using steps.reaches.aired.spent
        rw [latest] at lastEnd
        exact (Nat.le_antisymm settled spent).trans lastEnd

/-- With one slot, a run that nobody stops does exactly what the loop over the commands in list
order does: the same calls, results and ids, and the same commands at the end. Every command begins
when all earlier ones have taken their time, with a pause behind each, and the run ends when the
last one ends. -/
theorem single_slot_in_list_order {setup : Setup σ} {clock throttle : Nat} {client : σ}
    {commands : List Command} (waiting : ∀ command ∈ commands, command.status = .waiting)
    (throttled : throttle < Nat.pow 2 53) (polled : setup.poll < Nat.pow 2 53)
    (uncancelled : ∀ command, (setup.listener command).cancels = false)
    (meets : setup.client.Meets Recovers) :
    ∃ (finish : Machine σ) (sequence : Sequence σ),
      (start clock commands 1 throttle client).runToEnd setup = finish ∧
      (∀ horizon, finish.clock ≤ horizon →
        (start clock commands 1 throttle client).runUntil setup horizon = finish) ∧
      sequence = Sequence.ofFirst setup clock throttle commands client commands.length ∧
      finish.outcome? = some .completed ∧
      finish.run.callLog = sequence.stints.flatMap (·.calls) ∧
      finish.run.outcomes = sequence.stints.map (fun stint => (stint.index, stint.result)) ∧
      finish.run.commands = sequence.commands ∧ finish.client = sequence.client ∧
      finish.run.createdIds = sequence.createdIds ∧
      finish.run.failedIds = sequence.failedIds ∧
      (∀ position, position < commands.length → ∃ stint,
        sequence.stints[position]? = some stint ∧ stint.index = position ∧
        stint.begins = clock +
          ((sequence.stints.take position).map fun earlier => earlier.duration + throttle).sum) ∧
      finish.run.history = sequence.stints.flatMap Stint.events ∧
      finish.clock = (sequence.stints.getLast?.map (·.endsAt)).getD clock := by
  have startable : Startable commands := fun command member => .inl (waiting command member)
  have representable : ¬ (pauseLimit ≤ throttle ∨ pauseLimit ≤ setup.poll) := by
    rintro (long | long)
    · exact lt_pauseLimit throttled long
    · exact lt_pauseLimit polled long
  obtain ⟨finish, toEnd, steps, ended, landed, done, settled⟩ :=
    runToEnd_completed clock client startable Nat.one_pos representable uncancelled meets
  obtain ⟨count, within, follows⟩ := steps.follows waiting representable uncancelled meets
  have sound := Sequence.sound_ofFirst clock throttle client waiting meets within
  have punctual := steps.punctual startable Nat.one_pos representable uncancelled meets
  obtain ⟨rfl, current, holder, createdIds, failedIds, history, atEnd⟩ :=
    follows.finished sound within landed done steps punctual
  refine ⟨finish, _, toEnd, settled, rfl, by rw [outcome?, ended], Run.callLog_of_events history,
    ?_, current, holder, createdIds, failedIds, ?_, history, atEnd⟩
  · rw [Run.outcomes, history, Run.outcomes_events]
  · intro position before
    rw [← sound.size] at before
    have found := List.getElem?_eq_getElem before
    obtain ⟨isIndex, begins⟩ := sound.order found
    exact ⟨_, found, isIndex, begins⟩

def alone : Machine Unit :=
  start 5
    [{ id := 0, entityRef := "create_item_1", mode := .add, prop := "P31", value := some "Q5" },
     { id := 1, entityRef := "create_item_0", mode := .create, page := "Foo" },
     { id := 2, entityRef := "create_item_0", mode := .add, prop := "P31", value := some "Q5" }]
    1 50 ()

theorem single_slot_in_list_order_alone :
    (∀ command ∈ alone.run.commands, command.status = .waiting) ∧
      sparing.client.Meets Recovers ∧
      ∃ finish, alone.runToEnd sparing = finish ∧ finish.outcome? = some .completed ∧
        finish.run.createdIds = ["Q7"] ∧ finish.run.failedIds = [0] ∧
        (finish.run.commands.map (·.entityRef)) = ["create_item_1", "create_item_0", "Q7"] ∧
        finish.clock = 5 + (0 + 50) + (10 + 50) + 10 := by
  have waiting : ∀ command ∈ alone.run.commands, command.status = .waiting := by decide
  refine ⟨waiting, sparing_meets_recovers, ?_⟩
  obtain ⟨finish, sequence, toEnd, -, isSequence, outcome, -, -, current, -, createdIds, failedIds,
    -, -, atEnd⟩ :=
    @single_slot_in_list_order Unit sparing 5 50 () _ waiting (by decide) (by decide)
      (fun _ => rfl) sparing_meets_recovers
  refine ⟨finish, toEnd, outcome, ?_, ?_, ?_, ?_⟩
  · rw [createdIds, isSequence]
    decide +kernel
  · rw [failedIds, isSequence]
    decide +kernel
  · rw [current, isSequence]
    decide +kernel
  · rw [atEnd, isSequence]
    decide +kernel

end Machine

end EditBatch
