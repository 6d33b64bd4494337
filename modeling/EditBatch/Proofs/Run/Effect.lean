import EditBatch.Run.Advance

/-! What the parts of a step amount to.

Sending a command off, completing one, and letting one leave the flight are each described by what
they do to a run, so that nothing behind this has to open them again.
-/

set_option autoImplicit false

namespace EditBatch

def Flight.ofPerformance {σ : Type} (index : Nat)
    (done : Performance σ (Except Escape CommandResult)) : Flight :=
  ⟨index, settle done.result, done.endsAt⟩

section ofPerformance

variable {σ : Type} (index : Nat) (done : Performance σ (Except Escape CommandResult))

@[simp] theorem Flight.index_ofPerformance :
    (Flight.ofPerformance index done).index = index := rfl

@[simp] theorem Flight.result_ofPerformance :
    (Flight.ofPerformance index done).result = settle done.result := rfl

@[simp] theorem Flight.endsAt_ofPerformance :
    (Flight.ofPerformance index done).endsAt = done.endsAt := rfl

end ofPerformance

/-- What a flight is completed with. Only an aborted run completes one that has no result. -/
def Flight.outcome (flight : Flight) : CommandResult :=
  flight.result.getD (.failure .remote "run aborted" "")

namespace Run

variable {σ : Type}

/-! ## Sending off -/

section dispatch

variable (setup : Setup σ) (now index : Nat) (command : Command) (run : Run) (client : σ)

@[simp] theorem commands_dispatch :
    (run.dispatch setup now index command client).1.commands =
      run.commands.set index { command with status := .running } := rfl

theorem history_dispatch :
    (run.dispatch setup now index command client).1.history =
      run.history ++
        dispatchEvents now index command.entityRef (performance setup now command client) := rfl

theorem inFlight_dispatch :
    (run.dispatch setup now index command client).1.inFlight =
      run.inFlight ++ [.ofPerformance index (performance setup now command client)] := rfl

theorem lastEnd_dispatch :
    (run.dispatch setup now index command client).1.lastEnd =
      max run.lastEnd (performance setup now command client).endsAt := rfl

theorem createdIds_dispatch :
    (run.dispatch setup now index command client).1.createdIds = run.createdIds := rfl

theorem failedIds_dispatch :
    (run.dispatch setup now index command client).1.failedIds = run.failedIds := rfl

@[simp] theorem notBefore_dispatch :
    (run.dispatch setup now index command client).1.notBefore = run.notBefore := rfl

@[simp] theorem limit_dispatch :
    (run.dispatch setup now index command client).1.limit = run.limit := rfl

@[simp] theorem throttle_dispatch :
    (run.dispatch setup now index command client).1.throttle = run.throttle := rfl

end dispatch

/-! ## Completing -/

/-- The id that takes the place of the ref of a command, if the command created an item. -/
def replacement? (command : Command) : CommandResult → Option String
  | .success (some newId) => if command.mode = .create ∧ newId ≠ "" then some newId else none
  | .success none | .failure _ _ _ => none

def failedId? (command : Command) : CommandResult → Option Int
  | .failure _ _ _ => some command.id
  | .success _ => none

theorem replacement?_congr {one other : Command} (mode : one.mode = other.mode)
    (result : CommandResult) : replacement? one result = replacement? other result := by
  unfold replacement?
  rw [mode]

theorem replacement?_eq_some_iff {command : Command} {result : CommandResult} {newId : String} :
    replacement? command result = some newId ↔
      command.mode = .create ∧ newId ≠ "" ∧ result = .success (some newId) := by
  unfold replacement?
  split
  next id =>
    by_cases created : command.mode = .create ∧ id ≠ ""
    · rw [if_pos created]
      constructor
      · rintro ⟨⟩
        exact ⟨created.1, created.2, rfl⟩
      · rintro ⟨-, -, ⟨⟩⟩
        rfl
    · rw [if_neg created]
      constructor
      · simp
      · rintro ⟨creates, named, ⟨⟩⟩
        exact absurd ⟨creates, named⟩ created
  · simp
  · simp

theorem failedId?_congr {one other : Command} (id : one.id = other.id) (result : CommandResult) :
    failedId? one result = failedId? other result := by
  unfold failedId?
  rw [id]

/-- What the completion of a command makes of another one: an unfinished one on the same ref
goes over to the item that was created. -/
def redirected (command : Command) (result : CommandResult) (other : Command) : Command :=
  match replacement? command result with
  | some newId =>
    if other.follows command.entityRef then { other with entityRef := newId } else other
  | none => other

def afterCompletion (index : Nat) (command : Command) (result : CommandResult)
    (commands : List Command) : List Command :=
  (commands.set index { command with status := .done }).map (redirected command result)

/-- All that completing the command at a position amounts to. -/
structure Completion (now index : Nat) (command : Command) (result : CommandResult)
    (run next : Run) : Prop where
  found : run.commands[index]? = some command
  running : command.status = .running
  commands : next.commands = afterCompletion index command result run.commands
  history : next.history = run.history ++ [.completed now index result command.entityRef]
  createdIds : next.createdIds = run.createdIds ++ (replacement? command result).toList
  failedIds : next.failedIds = run.failedIds ++ (failedId? command result).toList
  inFlight : next.inFlight = run.inFlight
  notBefore : next.notBefore = run.notBefore
  lastEnd : next.lastEnd = run.lastEnd
  limit : next.limit = run.limit
  throttle : next.throttle = run.throttle
  phase : next.phase = run.phase

theorem map_redirected (command : Command) (result : CommandResult) (commands : List Command) :
    commands.map (redirected command result) =
      match replacement? command result with
      | some newId => Command.redirect command.entityRef newId commands
      | none => commands := by
  cases created : replacement? command result with
  | none =>
    have same : redirected command result = id := by
      funext other
      simp only [redirected, created, id]
    simp only [same, List.map_id]
  | some newId =>
    have same : redirected command result = fun other =>
        if other.follows command.entityRef then { other with entityRef := newId } else other := by
      funext other
      simp only [redirected, created]
    simp only [same, Command.redirect]

/-- Recording a result sends those who wait for an item to it, and notes the ids. -/
theorem record_eq (command : Command) (result : CommandResult) (run : Run) :
    run.record command result =
      { run with
        commands := run.commands.map (redirected command result)
        createdIds := run.createdIds ++ (replacement? command result).toList
        failedIds := run.failedIds ++ (failedId? command result).toList } := by
  rw [map_redirected]
  cases result with
  | failure kind message code => simp [record, replacement?, failedId?]
  | success newId? =>
    cases newId? with
    | none => simp [record, replacement?, failedId?]
    | some newId =>
      by_cases created : command.mode = .create ∧ newId ≠ ""
      · simp [record, replacement?, failedId?, if_pos created]
      · simp [record, replacement?, failedId?, if_neg created]

theorem complete?_eq_some {listener : Listener} {now index : Nat} {result : CommandResult}
    {run next : Run} (completed : run.complete? listener now index result = some next) :
    ∃ command, run.commands[index]? = some command ∧ command.status = .running ∧
      next = notify listener { command with status := .done }
        { run with
          commands := afterCompletion index command result run.commands
          history := run.history ++ [.completed now index result command.entityRef]
          createdIds := run.createdIds ++ (replacement? command result).toList
          failedIds := run.failedIds ++ (failedId? command result).toList } := by
  unfold complete? at completed
  split at completed
  next => simp at completed
  next command found =>
    split at completed
    next => simp at completed
    next done advanced =>
      obtain ⟨step, rfl⟩ := (Command.advance_eq_ok_iff _ _ _).mp advanced
      have running : command.status = .running := by
        cases status : command.status <;> simp [status, Status.next?] at step ⊢
      simp only [record_eq, Option.some.injEq] at completed
      exact ⟨command, found, running, completed.symm⟩

theorem completion_of_complete? {listener : Listener} {now index : Nat} {result : CommandResult}
    {run next : Run} (completed : run.complete? listener now index result = some next) :
    ∃ command, Completion now index command result run next := by
  obtain ⟨command, found, running, rfl⟩ := complete?_eq_some completed
  exact ⟨command, ⟨found, running, rfl, rfl, rfl, rfl, rfl, rfl, rfl, rfl, rfl, rfl⟩⟩

theorem complete?_isSome (listener : Listener) (now : Nat) (result : CommandResult) (run : Run)
    {index : Nat} {command : Command} (found : run.commands[index]? = some command)
    (running : command.status = .running) :
    (run.complete? listener now index result).isSome := by
  have advanced : command.advance .done = .ok { command with status := .done } :=
    (Command.advance_eq_ok_iff _ _ _).mpr ⟨by simp [running, Status.next?], rfl⟩
  simp only [complete?, found, advanced, Option.isSome_some]

theorem not_running_of_complete? {listener : Listener} {now index : Nat}
    {result : CommandResult} {run : Run} (failed : run.complete? listener now index result = none)
    {command : Command} (found : run.commands[index]? = some command) :
    command.status ≠ .running := by
  intro running
  have done := run.complete?_isSome listener now result found running
  simp [failed] at done

/-! ## Leaving the flight -/

theorem popEnded?_spec {now : Nat} {run rest : Run} {flight : Flight}
    (popped : run.popEnded? now = some (flight, rest)) :
    ∃ before after, run.inFlight = before ++ flight :: after ∧ flight.endsAt ≤ now ∧
      rest = { run with inFlight := before ++ after } := by
  obtain ⟨found, isFound, pair⟩ := Option.map_eq_some_iff.mp popped
  simp only [Prod.mk.injEq] at pair
  obtain ⟨rfl, rfl⟩ := pair
  obtain ⟨ended, before, after, split, none⟩ := List.find?_eq_some_iff_append.mp isFound
  refine ⟨before, after, split, by simpa [hasEnded] using ended, ?_⟩
  have unended : ∀ other ∈ before, ¬ hasEnded now other = true := by simpa using none
  rw [split, List.eraseP_append_right _ unended, List.eraseP_cons_of_pos ended]

theorem mem_of_leaves {flights before after : List Flight} {flight : Flight}
    (leaves : flights = before ++ flight :: after) : flight ∈ flights := by
  rw [leaves]
  exact List.mem_append_cons_self

theorem sublist_of_leaves {flights before after : List Flight} {flight : Flight}
    (leaves : flights = before ++ flight :: after) : (before ++ after).Sublist flights := by
  rw [leaves]
  exact (List.sublist_cons_self flight after).append_left before

/-- Two runs that differ in nothing but their phase, stop flag, callbacks and report. -/
structure Alike (run next : Run) : Prop where
  commands : next.commands = run.commands
  history : next.history = run.history
  createdIds : next.createdIds = run.createdIds
  failedIds : next.failedIds = run.failedIds
  inFlight : next.inFlight = run.inFlight
  notBefore : next.notBefore = run.notBefore
  lastEnd : next.lastEnd = run.lastEnd
  limit : next.limit = run.limit
  throttle : next.throttle = run.throttle

theorem Alike.refl (run : Run) : run.Alike run := ⟨rfl, rfl, rfl, rfl, rfl, rfl, rfl, rfl, rfl⟩

theorem alike_update (run : Run) (phase : Phase) (stop : StopFlag) (callbacks : List Callback)
    (report : Option Report) (finished : Bool) :
    run.Alike { run with phase, stop, callbacks, report, finished } :=
  ⟨rfl, rfl, rfl, rfl, rfl, rfl, rfl, rfl, rfl⟩

theorem alike_cancel (run : Run) : run.Alike run.cancel := by
  unfold cancel
  split <;> exact alike_update _ _ _ _ _ _

@[simp] theorem phase_cancel (run : Run) : run.cancel.phase = run.phase := by
  unfold cancel
  split <;> rfl

@[simp] theorem isActive_cancel (run : Run) : run.cancel.isActive = run.isActive := by
  unfold cancel
  split <;> rfl

theorem cancel_of_inactive {run : Run} (inactive : run.isActive = false) : run.cancel = run := by
  simp [cancel, inactive]

theorem alike_turn (setup : Setup σ) (now : Nat) (run : Run) : run.Alike (run.turn setup now) := by
  unfold turn
  split
  · exact alike_update _ _ _ _ _ _
  · split <;> exact alike_update _ _ _ _ _ _

theorem phase_turn_ne (setup : Setup σ) (now : Nat) (run : Run) :
    (run.turn setup now).phase ≠ .draining := by
  unfold turn
  split
  · simp
  · split <;> simp

theorem alike_depart (run : Run) (departure : Departure) : run.Alike (run.depart departure) := by
  cases departure <;> exact alike_update _ _ _ _ _ _

end Run

end EditBatch
