import EditBatch.Proofs.Run.Transition

/-! What happens at once to the commands and the history of a run.

A command is sent off when its item is free, and then the history tells its calls. A running
command is completed, and then the unfinished commands on its ref may go over to a new item.
Invariants of commands and history need to be kept by these two changes only.
-/

set_option autoImplicit false

namespace EditBatch

namespace Command

/-- The command that is next is waiting, its item is free, and no earlier command waits for
the same item. -/
theorem nextEligible?_spec {commands : List Command} {index : Nat} {command : Command}
    (eligible : nextEligible? commands = some index) (found : commands[index]? = some command) :
    command.status = .waiting ∧
      (∀ other ∈ commands, other.status = .running → other.entityRef ≠ command.entityRef) ∧
      ∀ earlier other, earlier < index → commands[earlier]? = some other →
        other.status = .waiting → other.entityRef ≠ command.entityRef := by
  obtain ⟨bound, holds, first⟩ := List.findIdx?_eq_some_iff_getElem.mp eligible
  obtain ⟨_, rfl⟩ := List.getElem?_eq_some_iff.mp found
  have open_ : commands[index].status = .waiting ∧
      commands[index].entityRef ∉ busyRefs commands := by
    simpa [isEligible] using holds
  refine ⟨open_.1, ?_, ?_⟩
  · intro other member running same
    apply open_.2
    rw [← same]
    exact List.mem_map.mpr ⟨other, List.mem_filter.mpr ⟨member, by simpa using running⟩, rfl⟩
  · intro earlier other before there waiting same
    obtain ⟨_, rfl⟩ := List.getElem?_eq_some_iff.mp there
    apply first earlier before
    simp [isEligible, waiting, same, open_.2]

theorem busyRefs_of_idle {commands : List Command}
    (idle : ∀ other ∈ commands, other.status ≠ .running) : busyRefs commands = [] := by
  simp only [busyRefs, List.map_eq_nil_iff, List.filter_eq_nil_iff]
  intro other there
  simpa using idle other there

theorem nextEligible?_le {commands : List Command} {command : Command} {index position : Nat}
    (idle : ∀ other ∈ commands, other.status ≠ .running)
    (found : commands[position]? = some command) (waiting : command.status = .waiting)
    (eligible : nextEligible? commands = some index) : index ≤ position := by
  obtain ⟨bound, -, first⟩ := List.findIdx?_eq_some_iff_getElem.mp eligible
  obtain ⟨_, rfl⟩ := List.getElem?_eq_some_iff.mp found
  apply Decidable.byContradiction
  intro before
  have passed := first position (by omega)
  simp [isEligible, waiting, busyRefs_of_idle idle] at passed

theorem nextEligible?_isSome {commands : List Command} {command : Command}
    (idle : ∀ other ∈ commands, other.status ≠ .running) (member : command ∈ commands)
    (waiting : command.status = .waiting) : (nextEligible? commands).isSome := by
  rw [nextEligible?, List.findIdx?_isSome, List.any_eq_true]
  exact ⟨command, member, by simp [isEligible, waiting, busyRefs_of_idle idle]⟩

end Command

namespace Run

variable {σ : Type}

/-! ## Redirection -/

theorem redirected_eq (command : Command) (result : CommandResult) (other : Command) :
    redirected command result other =
      { other with entityRef := (redirected command result other).entityRef } := by
  unfold redirected
  split
  · split <;> rfl
  · rfl

theorem status_redirected (command : Command) (result : CommandResult) (other : Command) :
    (redirected command result other).status = other.status := by
  rw [redirected_eq]

theorem redirected_of_done (command : Command) (result : CommandResult) {other : Command}
    (done : other.status = .done) : redirected command result other = other := by
  unfold redirected
  split
  · rw [if_neg (by simp [Command.follows, Command.isDone, done])]
  · rfl

theorem redirected_of_ne (command : Command) (result : CommandResult) {other : Command}
    (apart : other.entityRef ≠ command.entityRef) : redirected command result other = other := by
  unfold redirected
  split
  · rw [if_neg (by simp [Command.follows, apart])]
  · rfl

theorem entityRef_redirected (command : Command) (result : CommandResult) {other : Command}
    (unfinished : other.status ≠ .done) (same : other.entityRef = command.entityRef) :
    (redirected command result other).entityRef =
      (replacement? command result).getD other.entityRef := by
  unfold redirected
  split
  next newId created =>
    rw [if_pos (by simp [Command.follows, Command.isDone, unfinished, same])]
    simp [created]
  next noId => simp [noId]

theorem entityRef_redirected_congr (command : Command) (result : CommandResult)
    {one other : Command} (oneOpen : one.status ≠ .done) (otherOpen : other.status ≠ .done)
    (same : other.entityRef = one.entityRef) :
    (redirected command result other).entityRef = (redirected command result one).entityRef := by
  by_cases affected : one.entityRef = command.entityRef
  · rw [entityRef_redirected command result oneOpen affected,
      entityRef_redirected command result otherOpen (same.trans affected), same]
  · rw [redirected_of_ne command result affected,
      redirected_of_ne command result (by rwa [same]), same]

/-! ## Positions -/

theorem getElem?_sent {commands : List Command} {index : Nat} {command : Command}
    (found : commands[index]? = some command) (sent : Command) (position : Nat) :
    (commands.set index sent)[position]? =
      if position = index then some sent else commands[position]? := by
  have bound := (List.getElem?_eq_some_iff.mp found).1
  by_cases here : position = index
  · subst here
    simp [bound]
  · rw [if_neg here, List.getElem?_set_ne (Ne.symm here)]

theorem getElem?_afterCompletion {commands : List Command} {index : Nat} {command : Command}
    (found : commands[index]? = some command) (result : CommandResult) (position : Nat) :
    (afterCompletion index command result commands)[position]? =
      if position = index then some { command with status := .done }
      else commands[position]?.map (redirected command result) := by
  rw [afterCompletion, List.getElem?_map, getElem?_sent found]
  split
  · rw [Option.map_some, redirected_of_done command result rfl]
  · rfl

theorem cases_of_sent {commands : List Command} {index position : Nat}
    {command sent after : Command} (found : commands[index]? = some command)
    (is : (commands.set index sent)[position]? = some after) :
    position = index ∧ after = sent ∨ position ≠ index ∧ commands[position]? = some after := by
  rw [getElem?_sent found] at is
  split at is
  next here => exact .inl ⟨here, (Option.some.inj is).symm⟩
  next elsewhere => exact .inr ⟨elsewhere, is⟩

theorem cases_of_completed {commands : List Command} {index position : Nat}
    {command after : Command} {result : CommandResult} (found : commands[index]? = some command)
    (is : (afterCompletion index command result commands)[position]? = some after) :
    position = index ∧ after = { command with status := .done } ∨
      position ≠ index ∧ ∃ before, commands[position]? = some before ∧
        after = redirected command result before := by
  rw [getElem?_afterCompletion found] at is
  split at is
  next here => exact .inl ⟨here, (Option.some.inj is).symm⟩
  next elsewhere =>
    obtain ⟨before, was, same⟩ := Option.map_eq_some_iff.mp is
    exact .inr ⟨elsewhere, before, was, same.symm⟩

/-! ## Changes -/

-- Redirection is part of a completion, for in no other way does a ref change. The flights are
-- there because a completion has the outcome of its flight and nothing else.
inductive Change (setup : Setup σ) (now : Nat) (run next : Run) : Prop where
  /-- A flight may get lost. -/
  | none (commands : next.commands = run.commands) (history : next.history = run.history)
      (flights : next.inFlight.Sublist run.inFlight) (createdIds : next.createdIds = run.createdIds)
      (failedIds : next.failedIds = run.failedIds)
  | dispatch {index : Nat} {command : Command} (client : σ)
      (eligible : Command.nextEligible? run.commands = some index)
      (found : run.commands[index]? = some command)
      (commands : next.commands = run.commands.set index { command with status := .running })
      (history : next.history = run.history ++
        dispatchEvents now index command.entityRef (performance setup now command client))
      (flights : next.inFlight =
        run.inFlight ++ [.ofPerformance index (performance setup now command client)])
      (createdIds : next.createdIds = run.createdIds) (failedIds : next.failedIds = run.failedIds)
  | complete {flight : Flight} {before after : List Flight} {command : Command}
      (found : run.commands[flight.index]? = some command) (running : command.status = .running)
      (commands :
        next.commands = afterCompletion flight.index command flight.outcome run.commands)
      (history : next.history = run.history ++
        [.completed now flight.index flight.outcome command.entityRef])
      (flights : run.inFlight = before ++ flight :: after)
      (left : next.inFlight = before ++ after)
      (createdIds : next.createdIds =
        run.createdIds ++ (replacement? command flight.outcome).toList)
      (failedIds : next.failedIds = run.failedIds ++ (failedId? command flight.outcome).toList)

theorem Change.length {setup : Setup σ} {now : Nat} {run next : Run}
    (change : run.Change setup now next) : next.commands.length = run.commands.length := by
  cases change with
  | none commands => rw [commands]
  | dispatch client eligible found commands => rw [commands, List.length_set]
  | complete found running commands =>
    rw [commands, afterCompletion, List.length_map, List.length_set]

/-- A change alters nothing of a command but its ref and its status, and the status goes forward
only. -/
theorem Change.status {setup : Setup σ} {now position : Nat} {run next : Run} {after : Command}
    (change : run.Change setup now next) (is : next.commands[position]? = some after) :
    ∃ before, run.commands[position]? = some before ∧
      after = { before with entityRef := after.entityRef, status := after.status } ∧
      (after.status = before.status ∨ before.status = .waiting ∧ after.status = .running ∨
        before.status = .running ∧ after.status = .done) := by
  cases change with
  | none commands => exact ⟨after, by rw [← commands, is], rfl, .inl rfl⟩
  | dispatch client eligible found commands =>
    rw [commands] at is
    rcases cases_of_sent found is with ⟨rfl, rfl⟩ | ⟨-, was⟩
    · have waiting := (Command.nextEligible?_spec eligible found).1
      exact ⟨_, found, rfl, .inr (.inl ⟨waiting, rfl⟩)⟩
    · exact ⟨after, was, rfl, .inl rfl⟩
  | complete found running commands =>
    rw [commands] at is
    rcases cases_of_completed found is with ⟨rfl, rfl⟩ | ⟨-, before, was, rfl⟩
    · exact ⟨_, found, rfl, .inr (.inr ⟨running, rfl⟩)⟩
    · refine ⟨before, was, ?_, .inl (status_redirected _ _ before)⟩
      rw [status_redirected]
      exact redirected_eq _ _ before

theorem Change.started {setup : Setup σ} {now position : Nat} {run next : Run}
    (change : run.Change setup now next)
    (started : ∀ before, run.commands[position]? = some before → before.status ≠ .waiting)
    {after : Command} (is : next.commands[position]? = some after) : after.status ≠ .waiting := by
  obtain ⟨before, was, -, same | ⟨waiting, -⟩ | ⟨-, done⟩⟩ := change.status is
  · rw [same]
    exact started before was
  · exact absurd waiting (started before was)
  · simp [done]

end Run

def RunEvent.index : RunEvent → Nat
  | .dispatched _ index _ _ | .called _ index _ | .completed _ index _ _ => index

def RunEvent.time : RunEvent → Nat
  | .dispatched time _ _ _ | .called time _ _ | .completed time _ _ _ => time

namespace Machine

variable {σ : Type}

theorem Transition.change {setup : Setup σ} {machine next : Machine σ}
    (transition : machine.Transition setup next) :
    machine.run.Change setup next.clock next.run := by
  cases transition with
  | dispatch phase allowed found clock sent =>
    have eligible := (Run.dispatchable?_eq_some_iff.mp allowed).2
    refine .dispatch machine.client eligible found ?_ ?_ ?_ ?_ ?_
    · rw [sent, Run.commands_dispatch]
    · rw [sent, clock, Run.history_dispatch]
    · rw [sent, clock, Run.inFlight_dispatch]
    · rw [sent, Run.createdIds_dispatch]
    · rw [sent, Run.failedIds_dispatch]
  | @land flight result command rest landed later popped known completion same paused left =>
    obtain ⟨before, after, flights, -, rfl⟩ := Run.popEnded?_spec popped
    have outcome : flight.outcome = result := by
      rw [Flight.outcome, known, Option.getD_some]
    subst outcome
    exact .complete completion.found completion.running
      (same.commands.trans completion.commands) (same.history.trans completion.history) flights
      (same.inFlight.trans completion.inFlight) (same.createdIds.trans completion.createdIds)
      (same.failedIds.trans completion.failedIds)
  | @lose flight rest later popped lost same left =>
    obtain ⟨before, after, flights, -, rfl⟩ := Run.popEnded?_spec popped
    refine .none same.commands same.history ?_ same.createdIds same.failedIds
    rw [same.inFlight]
    exact Run.sublist_of_leaves flights
  | drain phase clock first known completion =>
    subst known
    have flights : machine.run.inFlight = [] ++ _ :: _ := first
    refine .complete completion.found completion.running completion.commands ?_ flights
      completion.inFlight completion.createdIds completion.failedIds
    rw [completion.history, clock]
  | skip phase clock first lost same =>
    refine .none same.commands same.history ?_ same.createdIds same.failedIds
    rw [same.inFlight, first]
    exact List.sublist_cons_self _ _
  | pass later same drained =>
    have stays : next.run.inFlight.Sublist machine.run.inFlight := by
      simp only [same.inFlight, List.Sublist.refl]
    exact .none same.commands same.history stays same.createdIds same.failedIds

theorem Happens.later {setup : Setup σ} {machine next : Machine σ}
    (happens : machine.Happens setup next) : machine.clock ≤ next.clock := by
  cases transition_of_happens happens with
  | dispatch phase allowed found clock sent => exact Nat.le_of_eq clock.symm
  | land later => exact later
  | lose later => exact later
  | drain phase clock => exact Nat.le_of_eq clock.symm
  | skip phase clock => exact Nat.le_of_eq clock.symm
  | pass later => exact later

theorem Transition.limits {setup : Setup σ} {machine next : Machine σ}
    (transition : machine.Transition setup next) :
    next.run.limit = machine.run.limit ∧ next.run.throttle = machine.run.throttle := by
  cases transition with
  | dispatch phase allowed found clock sent =>
    rw [sent]
    exact ⟨rfl, rfl⟩
  | land later popped known completion same =>
    obtain ⟨before, after, flights, -, rfl⟩ := Run.popEnded?_spec popped
    exact ⟨same.limit.trans completion.limit, same.throttle.trans completion.throttle⟩
  | lose later popped lost same =>
    obtain ⟨before, after, flights, -, rfl⟩ := Run.popEnded?_spec popped
    exact ⟨same.limit, same.throttle⟩
  | drain phase clock first known completion => exact ⟨completion.limit, completion.throttle⟩
  | skip phase clock first lost same => exact ⟨same.limit, same.throttle⟩
  | pass later same => exact ⟨same.limit, same.throttle⟩

theorem Happens.change {setup : Setup σ} {machine next : Machine σ}
    (happens : machine.Happens setup next) : machine.run.Change setup next.clock next.run :=
  (transition_of_happens happens).change

theorem Reaches.length {setup : Setup σ} {first last : Machine σ}
    (reached : first.Reaches setup last) :
    last.run.commands.length = first.run.commands.length :=
  reached.invariant (fun machine => machine.run.commands.length = first.run.commands.length) rfl
    fun happens same => happens.change.length.trans same

theorem Reaches.origin {setup : Setup σ} {first last : Machine σ}
    (reached : first.Reaches setup last) {index : Nat} {command : Command}
    (is : last.run.commands[index]? = some command) :
    ∃ before, first.run.commands[index]? = some before := by
  have bound := (List.getElem?_eq_some_iff.mp is).1
  rw [reached.length] at bound
  exact ⟨_, List.getElem?_eq_getElem bound⟩

theorem Reaches.current {setup : Setup σ} {first last : Machine σ}
    (reached : first.Reaches setup last) {index : Nat} {command : Command}
    (was : first.run.commands[index]? = some command) :
    ∃ after, last.run.commands[index]? = some after := by
  have bound := (List.getElem?_eq_some_iff.mp was).1
  rw [← reached.length] at bound
  exact ⟨_, List.getElem?_eq_getElem bound⟩

theorem Reaches.framed {setup : Setup σ} {first last : Machine σ}
    (reached : first.Reaches setup last) {index : Nat} {before after : Command}
    (was : first.run.commands[index]? = some before)
    (is : last.run.commands[index]? = some after) :
    after = { before with entityRef := after.entityRef, status := after.status } := by
  induction reached generalizing after with
  | refl =>
    cases was.symm.trans is
    rfl
  | tail reached happens ih =>
    obtain ⟨between, there, same, -⟩ := happens.change.status is
    rw [ih there] at same
    exact same

theorem Reaches.mode {setup : Setup σ} {first last : Machine σ}
    (reached : first.Reaches setup last) {index : Nat} {before after : Command}
    (was : first.run.commands[index]? = some before)
    (is : last.run.commands[index]? = some after) : after.mode = before.mode := by
  rw [reached.framed was is]

theorem Reaches.limits {setup : Setup σ} {first last : Machine σ}
    (reached : first.Reaches setup last) :
    last.run.limit = first.run.limit ∧ last.run.throttle = first.run.throttle :=
  reached.invariant
    (fun machine =>
      machine.run.limit = first.run.limit ∧ machine.run.throttle = first.run.throttle)
    ⟨rfl, rfl⟩ fun happens same =>
      have kept := (transition_of_happens happens).limits
      ⟨kept.1.trans same.1, kept.2.trans same.2⟩

end Machine

end EditBatch
