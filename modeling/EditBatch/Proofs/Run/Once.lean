import EditBatch.Proofs.Run.Change
import Mathlib.Data.List.Nodup

/-! Every command is sent off at most once, and completed at most once.

The history names a command as sent off if and only if it waited at first and does so no
longer, and as completed if and only if it waited at first and is done. What is in flight is
running, and no command is in flight twice.
-/

set_option autoImplicit false

namespace EditBatch

namespace RunEvent

def sentIndex? : RunEvent → Option Nat
  | .dispatched _ index _ _ => some index
  | .called _ _ _ | .completed _ _ _ _ => none

def doneIndex? : RunEvent → Option Nat
  | .completed _ index _ _ => some index
  | .called _ _ _ | .dispatched _ _ _ _ => none

def outcome? : RunEvent → Option (Nat × CommandResult)
  | .completed _ index result _ => some (index, result)
  | .called _ _ _ | .dispatched _ _ _ _ => none

end RunEvent

namespace Run

variable {σ : Type}

def sent (run : Run) : List Nat := run.history.filterMap RunEvent.sentIndex?

def completed (run : Run) : List Nat := run.history.filterMap RunEvent.doneIndex?

def outcomes (run : Run) : List (Nat × CommandResult) := run.history.filterMap RunEvent.outcome?

def waitingCount (commands : List Command) : Nat := commands.countP (·.status = .waiting)

theorem filterMap_sentIndex?_dispatchEvents (now index : Nat) (ref : String)
    (done : Performance σ (Except Escape CommandResult)) :
    (dispatchEvents now index ref done).filterMap RunEvent.sentIndex? = [index] := by
  simp [dispatchEvents, RunEvent.sentIndex?, List.filterMap_map, Function.comp_def]

theorem filterMap_doneIndex?_dispatchEvents (now index : Nat) (ref : String)
    (done : Performance σ (Except Escape CommandResult)) :
    (dispatchEvents now index ref done).filterMap RunEvent.doneIndex? = [] := by
  simp [dispatchEvents, RunEvent.doneIndex?]

theorem filterMap_outcome?_dispatchEvents (now index : Nat) (ref : String)
    (done : Performance σ (Except Escape CommandResult)) :
    (dispatchEvents now index ref done).filterMap RunEvent.outcome? = [] := by
  simp [dispatchEvents, RunEvent.outcome?]

section history

variable {run next : Run} {now index : Nat} {ref : String} {result : CommandResult}
  {done : Performance σ (Except Escape CommandResult)}

theorem sent_of_dispatched
    (history : next.history = run.history ++ dispatchEvents now index ref done) :
    next.sent = run.sent ++ [index] := by
  rw [sent, history, List.filterMap_append, filterMap_sentIndex?_dispatchEvents, sent]

theorem completed_of_dispatched
    (history : next.history = run.history ++ dispatchEvents now index ref done) :
    next.completed = run.completed := by
  rw [completed, history, List.filterMap_append, filterMap_doneIndex?_dispatchEvents,
    List.append_nil, completed]

theorem outcomes_of_dispatched
    (history : next.history = run.history ++ dispatchEvents now index ref done) :
    next.outcomes = run.outcomes := by
  rw [outcomes, history, List.filterMap_append, filterMap_outcome?_dispatchEvents,
    List.append_nil, outcomes]

theorem sent_of_completed
    (history : next.history = run.history ++ [.completed now index result ref]) :
    next.sent = run.sent := by
  rw [sent, history, List.filterMap_append]
  exact List.append_nil _

theorem completed_of_completed
    (history : next.history = run.history ++ [.completed now index result ref]) :
    next.completed = run.completed ++ [index] := by
  rw [completed, history, List.filterMap_append]
  rfl

theorem outcomes_of_completed
    (history : next.history = run.history ++ [.completed now index result ref]) :
    next.outcomes = run.outcomes ++ [(index, result)] := by
  rw [outcomes, history, List.filterMap_append]
  rfl

end history

theorem Change.tells {setup : Setup σ} {now : Nat} {run next : Run}
    (change : run.Change setup now next) : ∃ told, next.outcomes = run.outcomes ++ told := by
  cases change with
  | none commands history => exact ⟨[], by rw [Run.outcomes, history, List.append_nil, Run.outcomes]⟩
  | dispatch client eligible found commands history =>
    exact ⟨[], by rw [outcomes_of_dispatched history, List.append_nil]⟩
  | complete found running commands history => exact ⟨_, outcomes_of_completed history⟩

theorem mem_completed {run : Run} {index : Nat} :
    index ∈ run.completed ↔
      ∃ time result ref, .completed time index result ref ∈ run.history := by
  unfold completed
  rw [List.mem_filterMap]
  constructor
  · rintro ⟨event, member, is⟩
    cases event <;> simp [RunEvent.doneIndex?] at is
    subst is
    exact ⟨_, _, _, member⟩
  · rintro ⟨time, result, ref, member⟩
    exact ⟨_, member, rfl⟩

theorem mem_outcomes {run : Run} {index : Nat} {result : CommandResult} :
    (index, result) ∈ run.outcomes ↔
      ∃ time ref, .completed time index result ref ∈ run.history := by
  unfold outcomes
  rw [List.mem_filterMap]
  constructor
  · rintro ⟨event, member, is⟩
    cases event <;> simp [RunEvent.outcome?] at is
    obtain ⟨rfl, rfl⟩ := is
    exact ⟨_, _, member⟩
  · rintro ⟨time, ref, member⟩
    exact ⟨_, member, rfl⟩

theorem waitingCount_afterCompletion {commands : List Command} {index : Nat} {command : Command}
    {result : CommandResult} (found : commands[index]? = some command)
    (running : command.status = .running) :
    waitingCount (afterCompletion index command result commands) = waitingCount commands := by
  have same : ((fun other : Command => decide (other.status = .waiting)) ∘
      redirected command result) = fun other => decide (other.status = .waiting) := by
    funext other
    rw [Function.comp_apply, status_redirected]
  obtain ⟨bound, rfl⟩ := List.getElem?_eq_some_iff.mp found
  rw [waitingCount, afterCompletion, List.countP_map, same, List.countP_set bound]
  simp [running, waitingCount]

-- `apart` is what makes a completion the only one of its command: once its flight has left, there
-- is no other one to complete it again.
structure Tracked (first : List Command) (run : Run) : Prop where
  length : run.commands.length = first.length
  waited : ∀ {index : Nat} {before command : Command}, first[index]? = some before →
    run.commands[index]? = some command → command.status = .waiting → before.status = .waiting
  sentOnce : run.sent.Nodup
  sent_iff : ∀ {index : Nat} {before command : Command}, first[index]? = some before →
    run.commands[index]? = some command →
    (index ∈ run.sent ↔ before.status = .waiting ∧ command.status ≠ .waiting)
  completedOnce : run.completed.Nodup
  completed_iff : ∀ {index : Nat} {before command : Command}, first[index]? = some before →
    run.commands[index]? = some command →
    (index ∈ run.completed ↔ before.status = .waiting ∧ command.status = .done)
  apart : (run.inFlight.map (·.index)).Nodup
  aloft : ∀ {flight : Flight}, flight ∈ run.inFlight → flight.index ∈ run.sent ∧
    ∃ command, run.commands[flight.index]? = some command ∧ command.status = .running
  left : run.sent.length + waitingCount run.commands = waitingCount first

theorem Tracked.done_of_told {first : List Command} {run : Run} {index : Nat}
    {before command : Command} {result : CommandResult} (tracked : run.Tracked first)
    (was : first[index]? = some before) (is : run.commands[index]? = some command)
    (told : (index, result) ∈ run.outcomes) : command.status = .done := by
  obtain ⟨time, ref, member⟩ := mem_outcomes.mp told
  exact ((tracked.completed_iff was is).mp (mem_completed.mpr ⟨time, result, ref, member⟩)).2

theorem Tracked.dispatch {setup : Setup σ} {first : List Command} {now index : Nat}
    {run next : Run} {command : Command} {client : σ} (tracked : run.Tracked first)
    (waiting : command.status = .waiting) (found : run.commands[index]? = some command)
    (commands : next.commands = run.commands.set index { command with status := .running })
    (history : next.history = run.history ++
      dispatchEvents now index command.entityRef (performance setup now command client))
    (flights : next.inFlight =
      run.inFlight ++ [.ofPerformance index (performance setup now command client)]) :
    next.Tracked first := by
  have bound : index < first.length := by
    rw [← tracked.length]
    exact (List.getElem?_eq_some_iff.mp found).1
  have sent := sent_of_dispatched history
  have completed := completed_of_dispatched history
  have sentIff := tracked.sent_iff (List.getElem?_eq_getElem bound) found
  have completedIff := tracked.completed_iff (List.getElem?_eq_getElem bound) found
  have fresh : index ∉ run.sent := by
    rw [sentIff]
    exact fun both => both.2 waiting
  have started := tracked.waited (List.getElem?_eq_getElem bound) found waiting
  constructor
  · rw [commands, List.length_set]
    exact tracked.length
  · intro position before after was is stillWaiting
    rw [commands] at is
    rcases cases_of_sent found is with ⟨-, rfl⟩ | ⟨-, there⟩
    · simp at stillWaiting
    · exact tracked.waited was there stillWaiting
  · rw [sent, ← List.concat_eq_append]
    exact List.Nodup.concat fresh tracked.sentOnce
  · intro position before after was is
    rw [commands] at is
    rw [sent, List.mem_append, List.mem_singleton]
    rcases cases_of_sent found is with ⟨rfl, rfl⟩ | ⟨elsewhere, there⟩
    · cases (List.getElem?_eq_getElem bound).symm.trans was
      simp [started]
    · rw [tracked.sent_iff was there]
      simp [elsewhere]
  · rw [completed]
    exact tracked.completedOnce
  · intro position before after was is
    rw [commands] at is
    rw [completed]
    rcases cases_of_sent found is with ⟨rfl, rfl⟩ | ⟨-, there⟩
    · cases (List.getElem?_eq_getElem bound).symm.trans was
      simp [completedIff, waiting]
    · exact tracked.completed_iff was there
  · rw [flights, List.map_append, List.map_singleton, ← List.concat_eq_append]
    refine List.Nodup.concat ?_ tracked.apart
    intro member
    obtain ⟨flight, aloft, same⟩ := List.mem_map.mp member
    rw [Flight.index_ofPerformance] at same
    exact fresh (same ▸ (tracked.aloft aloft).1)
  · intro flight member
    rw [flights, List.mem_append, List.mem_singleton] at member
    rw [sent, List.mem_append, commands, getElem?_sent found]
    rcases member with old | rfl
    · obtain ⟨before, other, there, running⟩ := tracked.aloft old
      refine ⟨.inl before, other, ?_, running⟩
      rw [if_neg]
      · exact there
      · intro here
        rw [here, found] at there
        cases there
        simp [waiting] at running
    · exact ⟨.inr List.mem_cons_self, _, if_pos rfl, rfl⟩
  · have fewer := countP_set_lt (fun c : Command => decide (c.status = .waiting)) run.commands index
      command { command with status := .running } found (by simp [waiting]) (by simp)
    have left := tracked.left
    rw [sent, commands, List.length_append, List.length_singleton]
    unfold waitingCount at left ⊢
    omega

theorem Tracked.complete {first : List Command} {now : Nat} {run next : Run} {flight : Flight}
    {before after : List Flight} {command : Command} (tracked : run.Tracked first)
    (found : run.commands[flight.index]? = some command) (running : command.status = .running)
    (commands :
      next.commands = afterCompletion flight.index command flight.outcome run.commands)
    (history : next.history = run.history ++
      [.completed now flight.index flight.outcome command.entityRef])
    (flights : run.inFlight = before ++ flight :: after)
    (left : next.inFlight = before ++ after) : next.Tracked first := by
  have bound : flight.index < first.length := by
    rw [← tracked.length]
    exact (List.getElem?_eq_some_iff.mp found).1
  have sent := sent_of_completed history
  have completed := completed_of_completed history
  have fresh : flight.index ∉ run.completed := by
    rw [tracked.completed_iff (List.getElem?_eq_getElem bound) found]
    simp [running]
  have wasSent := (tracked.aloft (mem_of_leaves flights)).1
  have started : first[flight.index].status = .waiting :=
    ((tracked.sent_iff (List.getElem?_eq_getElem bound) found).mp wasSent).1
  have stays := sublist_of_leaves flights
  constructor
  · rw [commands, afterCompletion, List.length_map, List.length_set]
    exact tracked.length
  · intro position earlier later was is waiting
    rw [commands] at is
    rcases cases_of_completed found is with ⟨-, rfl⟩ | ⟨-, other, there, rfl⟩
    · simp at waiting
    · rw [status_redirected] at waiting
      exact tracked.waited was there waiting
  · rw [sent]
    exact tracked.sentOnce
  · intro position earlier later was is
    rw [commands] at is
    rw [sent]
    rcases cases_of_completed found is with ⟨rfl, rfl⟩ | ⟨-, other, there, rfl⟩
    · rw [tracked.sent_iff was found]
      simp [running]
    · rw [tracked.sent_iff was there, status_redirected]
  · rw [completed, ← List.concat_eq_append]
    exact List.Nodup.concat fresh tracked.completedOnce
  · intro position earlier later was is
    rw [commands] at is
    rw [completed, List.mem_append, List.mem_singleton]
    rcases cases_of_completed found is with ⟨rfl, rfl⟩ | ⟨elsewhere, other, there, rfl⟩
    · cases (List.getElem?_eq_getElem bound).symm.trans was
      simp [started]
    · rw [tracked.completed_iff was there, status_redirected]
      simp [elsewhere]
  · rw [left]
    exact (stays.map _).nodup tracked.apart
  · intro other aloft
    rw [left] at aloft
    rw [sent, commands, getElem?_afterCompletion found]
    obtain ⟨wasSent, held, there, isRunning⟩ := tracked.aloft (stays.subset aloft)
    -- The flight that left was the only one of its command.
    have elsewhere : other.index ≠ flight.index := by
      have apart := tracked.apart
      rw [flights, List.map_append, List.map_cons, List.nodup_middle, List.nodup_cons,
        ← List.map_append] at apart
      intro same
      exact apart.1 (same ▸ List.mem_map_of_mem aloft)
    refine ⟨wasSent, redirected command flight.outcome held, ?_, ?_⟩
    · rw [if_neg elsewhere, there, Option.map_some]
    · rw [status_redirected]
      exact isRunning
  · rw [sent, commands, waitingCount_afterCompletion found running]
    exact tracked.left

theorem Tracked.change {setup : Setup σ} {first : List Command} {now : Nat} {run next : Run}
    (tracked : run.Tracked first) (change : run.Change setup now next) : next.Tracked first := by
  cases change with
  | none commands history flights =>
    have sent : next.sent = run.sent := by rw [Run.sent, history, Run.sent]
    have completed : next.completed = run.completed := by
      rw [Run.completed, history, Run.completed]
    constructor
    · rw [commands]; exact tracked.length
    · rw [commands]; exact tracked.waited
    · rw [sent]; exact tracked.sentOnce
    · rw [commands, sent]; exact tracked.sent_iff
    · rw [completed]; exact tracked.completedOnce
    · rw [commands, completed]; exact tracked.completed_iff
    · exact (flights.map _).nodup tracked.apart
    · rw [commands, sent]
      exact fun aloft => tracked.aloft (flights.subset aloft)
    · rw [commands, sent]; exact tracked.left
  | dispatch client eligible found commands history flights =>
    have waiting := (Command.nextEligible?_spec eligible found).1
    exact tracked.dispatch waiting found commands history flights
  | complete found running commands history flights left =>
    exact tracked.complete found running commands history flights left

end Run

namespace Machine

variable {σ : Type}

theorem tracked_start (clock limit throttle : Nat) (client : σ) (commands : List Command) :
    (start clock commands limit throttle client).run.Tracked commands := by
  have sent : (start clock commands limit throttle client).run.sent = [] := rfl
  have completed : (start clock commands limit throttle client).run.completed = [] := rfl
  constructor
  · rfl
  · intro index before command was is waiting
    cases was.symm.trans is
    exact waiting
  · simp [sent]
  · intro index before command was is
    cases was.symm.trans is
    simp [sent]
  · simp [completed]
  · intro index before command was is
    cases was.symm.trans is
    rw [completed]
    constructor
    · simp
    · rintro ⟨waiting, done⟩
      simp [waiting] at done
  · exact List.nodup_nil
  · intro flight aloft
    simp [start] at aloft
  · rw [sent, List.length_nil, Nat.zero_add]
    rfl

theorem Reaches.tracked {setup : Setup σ} {clock limit throttle : Nat} {client : σ}
    {commands : List Command} {machine : Machine σ}
    (reached : (start clock commands limit throttle client).Reaches setup machine) :
    machine.run.Tracked commands :=
  reached.invariant (fun machine => machine.run.Tracked commands)
    (tracked_start clock limit throttle client commands)
    fun happens tracked => tracked.change happens.change

theorem Reaches.outcomes_subset {setup : Setup σ} {first last : Machine σ}
    (reached : first.Reaches setup last) : first.run.outcomes ⊆ last.run.outcomes := by
  refine reached.invariant (fun machine => first.run.outcomes ⊆ machine.run.outcomes)
    (List.Subset.refl _) fun happens kept outcome member => ?_
  obtain ⟨told, more⟩ := happens.change.tells
  rw [more]
  exact List.mem_append_left told (kept member)

end Machine

end EditBatch
