import EditBatch.Proofs.Run.Change
import EditBatch.Rehearsal.Client

/-! At most one running command on every item.

A command is sent off when no running command is on its ref, so the refs of running commands
differ. Completing one of them therefore finds no other running command on its ref, and what
it redirects is waiting. This is the invariant that lets the dispatch loop look at current refs
only, although refs are renamed and merged while commands are in flight.
-/

set_option autoImplicit false

namespace EditBatch

def Startable (commands : List Command) : Prop :=
  ∀ command ∈ commands, command.status = .waiting ∨ command.status = .done

instance (commands : List Command) : Decidable (Startable commands) :=
  inferInstanceAs (Decidable (∀ command ∈ commands, _))

namespace Run

variable {σ : Type}

-- `apart` is kept by completions only because they redirect by ref: as no two running commands
-- share one, what is redirected waits. `kept` and `sent` say the same of the history.
structure Exclusive (run : Run) : Prop where
  known : ∀ {index : Nat} {command : Command}, run.commands[index]? = some command →
    command.status = .waiting ∨ command.status = .running ∨ command.status = .done
  apart : ∀ {first second : Nat} {one other : Command}, run.commands[first]? = some one →
    run.commands[second]? = some other → one.status = .running → other.status = .running →
    one.entityRef = other.entityRef → first = second
  /-- A command that was sent off is still on the ref that it was sent off on. -/
  kept : ∀ {time index endsAt : Nat} {ref : String},
    .dispatched time index ref endsAt ∈ run.history →
    ∃ command, run.commands[index]? = some command ∧ command.entityRef = ref ∧
      (command.status = .running ∨ command.status = .done)
  sent : ∀ {index : Nat} {command : Command}, run.commands[index]? = some command →
    command.status = .running →
    ∃ time endsAt, .dispatched time index command.entityRef endsAt ∈ run.history

theorem Exclusive.redirected_eq {run : Run} (exclusive : run.Exclusive) {index position : Nat}
    {command other : Command} (found : run.commands[index]? = some command)
    (running : command.status = .running) (result : CommandResult)
    (there : run.commands[position]? = some other) (elsewhere : position ≠ index)
    (started : other.status ≠ .waiting) : redirected command result other = other := by
  rcases exclusive.known there with waiting | alsoRunning | done
  · exact absurd waiting started
  · apply redirected_of_ne
    intro same
    exact elsewhere (exclusive.apart there found alsoRunning running same)
  · exact redirected_of_done command result done

theorem dispatched_mem_dispatchEvents {now index time position endsAt : Nat} {ref held : String}
    {done : Performance σ (Except Escape CommandResult)} :
    .dispatched time position held endsAt ∈ dispatchEvents now index ref done ↔
      time = now ∧ position = index ∧ held = ref ∧ endsAt = done.endsAt := by
  simp [dispatchEvents]

theorem Exclusive.dispatch {setup : Setup σ} {now index : Nat} {run next : Run}
    {command : Command} {client : σ} (exclusive : run.Exclusive)
    (eligible : Command.nextEligible? run.commands = some index)
    (found : run.commands[index]? = some command)
    (commands : next.commands = run.commands.set index { command with status := .running })
    (history : next.history = run.history ++
      dispatchEvents now index command.entityRef (performance setup now command client)) :
    next.Exclusive := by
  obtain ⟨waiting, free, -⟩ := Command.nextEligible?_spec eligible found
  -- The ref of the command is free, so that it differs from all refs of running commands.
  have alone {position : Nat} {other : Command} (there : run.commands[position]? = some other)
      (running : other.status = .running) : other.entityRef ≠ command.entityRef :=
    free other (List.mem_of_getElem? there) running
  constructor
  · intro position other there
    rw [commands] at there
    rcases cases_of_sent found there with ⟨-, rfl⟩ | ⟨-, was⟩
    · exact .inr (.inl rfl)
    · exact exclusive.known was
  · intro first second one other here there oneRuns otherRuns same
    rw [commands] at here there
    rcases cases_of_sent found here with ⟨rfl, rfl⟩ | ⟨-, wasHere⟩ <;>
      rcases cases_of_sent found there with ⟨rfl, rfl⟩ | ⟨-, wasThere⟩
    · rfl
    · exact absurd same.symm (alone wasThere otherRuns)
    · exact absurd same (alone wasHere oneRuns)
    · exact exclusive.apart wasHere wasThere oneRuns otherRuns same
  · intro time position endsAt ref member
    rw [history, List.mem_append] at member
    rw [commands, getElem?_sent found]
    rcases member with old | new
    · obtain ⟨other, there, same, started⟩ := exclusive.kept old
      rw [if_neg]
      · exact ⟨other, there, same, started⟩
      · rintro rfl
        cases found.symm.trans there
        simp [waiting] at started
    · obtain ⟨rfl, rfl, rfl, rfl⟩ := dispatched_mem_dispatchEvents.mp new
      rw [if_pos rfl]
      exact ⟨_, rfl, rfl, .inl rfl⟩
  · intro position other there running
    rw [commands] at there
    rw [history]
    rcases cases_of_sent found there with ⟨rfl, rfl⟩ | ⟨-, was⟩
    · refine ⟨now, (performance setup now command client).endsAt, List.mem_append_right _ ?_⟩
      exact dispatched_mem_dispatchEvents.mpr ⟨rfl, rfl, rfl, rfl⟩
    · obtain ⟨time, endsAt, member⟩ := exclusive.sent was running
      exact ⟨time, endsAt, List.mem_append_left _ member⟩

theorem Exclusive.complete {now index : Nat} {run next : Run} {command : Command}
    {result : CommandResult} (exclusive : run.Exclusive)
    (found : run.commands[index]? = some command) (running : command.status = .running)
    (commands : next.commands = afterCompletion index command result run.commands)
    (history : next.history = run.history ++ [.completed now index result command.entityRef]) :
    next.Exclusive := by
  -- Every command that runs afterwards ran before, on the same ref.
  have before {position : Nat} {after : Command} (there : next.commands[position]? = some after)
      (runs : after.status = .running) :
      position ≠ index ∧ run.commands[position]? = some after := by
    rw [commands] at there
    rcases cases_of_completed found there with ⟨-, rfl⟩ | ⟨elsewhere, other, old, rfl⟩
    · simp at runs
    · rw [status_redirected] at runs
      rw [exclusive.redirected_eq found running result old elsewhere (by simp [runs])]
      exact ⟨elsewhere, old⟩
  constructor
  · intro position after there
    rw [commands] at there
    rcases cases_of_completed found there with ⟨-, rfl⟩ | ⟨-, other, old, rfl⟩
    · exact .inr (.inr rfl)
    · rw [status_redirected]
      exact exclusive.known old
  · intro first second one other here there oneRuns otherRuns same
    exact exclusive.apart (before here oneRuns).2 (before there otherRuns).2 oneRuns otherRuns same
  · intro time position endsAt ref member
    have old : .dispatched time position ref endsAt ∈ run.history := by
      simpa [history] using member
    obtain ⟨other, there, same, started⟩ := exclusive.kept old
    rw [commands, getElem?_afterCompletion found]
    split
    next here =>
      subst here
      cases found.symm.trans there
      exact ⟨_, rfl, same, .inr rfl⟩
    next elsewhere =>
      have notWaiting : other.status ≠ .waiting := by
        rcases started with status | status <;> simp [status]
      refine ⟨other, ?_, same, started⟩
      rw [there, Option.map_some,
        exclusive.redirected_eq found running result there elsewhere notWaiting]
  · intro position after there runs
    obtain ⟨time, endsAt, member⟩ := exclusive.sent (before there runs).2 runs
    exact ⟨time, endsAt, by rw [history]; exact List.mem_append_left _ member⟩

theorem Exclusive.change {setup : Setup σ} {now : Nat} {run next : Run}
    (exclusive : run.Exclusive) (change : run.Change setup now next) : next.Exclusive := by
  cases change with
  | none commands history flights =>
    constructor
    · rw [commands]; exact exclusive.known
    · rw [commands]; exact exclusive.apart
    · rw [commands, history]; exact exclusive.kept
    · rw [commands, history]; exact exclusive.sent
  | dispatch client eligible found commands history flights =>
    exact exclusive.dispatch eligible found commands history
  | complete found running commands history flights left =>
    exact exclusive.complete found running commands history

theorem Exclusive.busyRefs_nodup {run : Run} (exclusive : run.Exclusive) :
    (Command.busyRefs run.commands).Nodup := by
  rw [Command.busyRefs, List.Nodup, List.pairwise_map, List.pairwise_filter,
    List.pairwise_iff_getElem]
  intro first second firstBound secondBound before oneRuns otherRuns same
  have together := exclusive.apart (List.getElem?_eq_getElem firstBound)
    (List.getElem?_eq_getElem secondBound) (by simpa using oneRuns) (by simpa using otherRuns) same
  omega

theorem Exclusive.waiting_of_renamed {setup : Setup σ} {now index : Nat} {run next : Run}
    {before after : Command} (exclusive : run.Exclusive) (change : run.Change setup now next)
    (was : run.commands[index]? = some before) (is : next.commands[index]? = some after)
    (renamed : after.entityRef ≠ before.entityRef) :
    before.status = .waiting ∧ after.status = .waiting := by
  cases change with
  | none commands history flights =>
    rw [commands, was] at is
    cases is
    exact absurd rfl renamed
  | dispatch client eligible found commands history flights =>
    rw [commands] at is
    rcases cases_of_sent found is with ⟨rfl, rfl⟩ | ⟨-, there⟩
    · cases found.symm.trans was
      exact absurd rfl renamed
    · cases was.symm.trans there
      exact absurd rfl renamed
  | complete found running commands history flights left =>
    rw [commands] at is
    rcases cases_of_completed found is with ⟨rfl, rfl⟩ | ⟨elsewhere, old, there, rfl⟩
    · cases found.symm.trans was
      exact absurd rfl renamed
    · cases was.symm.trans there
      have waiting : before.status = .waiting := by
        apply Decidable.byContradiction
        intro started
        rw [exclusive.redirected_eq found running _ was elsewhere started] at renamed
        exact renamed rfl
      exact ⟨waiting, (status_redirected _ _ before).trans waiting⟩

theorem Exclusive.unchanged {setup : Setup σ} {now index : Nat} {run next : Run}
    {after : Command} (exclusive : run.Exclusive) (change : run.Change setup now next)
    (started : ∀ before, run.commands[index]? = some before → before.status ≠ .waiting)
    (is : next.commands[index]? = some after) :
    ∃ before, run.commands[index]? = some before ∧
      after = { before with status := after.status } := by
  obtain ⟨before, was, same, -⟩ := change.status is
  have ref : after.entityRef = before.entityRef := by
    apply Decidable.byContradiction
    intro renamed
    exact started before was (exclusive.waiting_of_renamed change was is renamed).1
  rw [ref] at same
  exact ⟨before, was, same⟩

end Run

namespace Machine

variable {σ : Type}

theorem exclusive_start (clock limit throttle : Nat) (client : σ) {commands : List Command}
    (startable : Startable commands) :
    (start clock commands limit throttle client).run.Exclusive := by
  have idle {index : Nat} {command : Command} (found : commands[index]? = some command) :
      command.status ≠ .running := by
    rcases startable command (List.mem_of_getElem? found) with status | status <;> simp [status]
  constructor
  · intro index command found
    rcases startable command (List.mem_of_getElem? found) with waiting | done
    · exact .inl waiting
    · exact .inr (.inr done)
  · intro first second one other here there oneRuns
    exact absurd oneRuns (idle here)
  · intro time index endsAt ref member
    simp [start] at member
  · intro index command found running
    exact absurd running (idle found)

theorem Reaches.exclusive {setup : Setup σ} {clock limit throttle : Nat} {client : σ}
    {commands : List Command} {machine : Machine σ}
    (reached : (start clock commands limit throttle client).Reaches setup machine)
    (startable : Startable commands) : machine.run.Exclusive :=
  reached.invariant (fun machine => machine.run.Exclusive)
    (exclusive_start clock limit throttle client startable)
    fun happens exclusive => exclusive.change happens.change

/-- In every reachable state the running commands are on different refs, each on the one that
it was sent off on, which it keeps for good; and whatever happens next renames waiting commands
only. -/
theorem one_running_per_ref {setup : Setup σ} {clock limit throttle : Nat} {client : σ}
    {commands : List Command} {machine : Machine σ} (startable : Startable commands)
    (reached : (start clock commands limit throttle client).Reaches setup machine) :
    (Command.busyRefs machine.run.commands).Nodup ∧
      (∀ (index : Nat) (command : Command), machine.run.commands[index]? = some command →
        command.status = .running →
        ∃ time endsAt, .dispatched time index command.entityRef endsAt ∈ machine.run.history) ∧
      (∀ (time index endsAt : Nat) (ref : String),
        .dispatched time index ref endsAt ∈ machine.run.history →
        ∃ command, machine.run.commands[index]? = some command ∧ command.entityRef = ref ∧
          (command.status = .running ∨ command.status = .done)) ∧
      ∀ next : Machine σ, machine.Happens setup next →
        ∀ (index : Nat) (before after : Command), machine.run.commands[index]? = some before →
          next.run.commands[index]? = some after → after.entityRef ≠ before.entityRef →
          before.status = .waiting ∧ after.status = .waiting := by
  have exclusive := reached.exclusive startable
  refine ⟨exclusive.busyRefs_nodup, fun _ _ => exclusive.sent, fun _ _ _ _ => exclusive.kept, ?_⟩
  intro next happens index before after was is renamed
  exact exclusive.waiting_of_renamed happens.change was is renamed

/-- A creation, an edit of its item, and an edit of an item that the creation turns out to
have made: while the latter runs, the former is renamed to its ref and waits. -/
def merging : Machine Rehearsal.ClientState :=
  start 5
    [{ id := 0, entityRef := "create_item_0", mode := .create, page := "Foo" },
     { id := 1, entityRef := "create_item_0", mode := .add, prop := "P31", value := some "Q5" },
     { id := 2, entityRef := "Q7", mode := .add, prop := "P31", value := some "Q5" }]
    2 0
    { rules := [⟨{ call := "create_entity", delay := some 10, newId := some "Q7" }, none⟩]
      delay := 30 }

theorem one_running_per_ref_merging :
    Startable merging.run.commands ∧
      ((merging.steps rehearsed 100 6).run.commands.map fun command =>
        (command.entityRef, command.status)) =
        [("create_item_0", .done), ("Q7", .waiting), ("Q7", .running)] ∧
      (Command.busyRefs (merging.steps rehearsed 100 6).run.commands).Nodup := by
  have startable : Startable merging.run.commands := by decide
  refine ⟨startable, by decide +kernel, ?_⟩
  exact (one_running_per_ref startable (reaches_steps rehearsed 100 6 merging)).1

end Machine

end EditBatch
