import EditBatch.Proofs.Run.Exclusion
import EditBatch.Proofs.Run.Timing

/-! Commands on one item keep the order of the list.

Two waiting commands on one ref are renamed together, so that they stay on one ref until the
earlier one is done. While that one waits it comes first, and while it runs its ref is busy:
the later one can be sent off only when the earlier one is done and all its calls have begun.
-/

set_option autoImplicit false

namespace EditBatch

namespace Run

variable {σ : Type}

theorem getElem?_told {history new : List RunEvent} {position : Nat} {event : RunEvent}
    (there : (history ++ new)[position]? = some event) :
    history[position]? = some event ∨ history.length ≤ position ∧ event ∈ new := by
  rw [List.getElem?_append] at there
  split at there
  · exact .inl there
  next beyond => exact .inr ⟨Nat.le_of_not_lt beyond, List.mem_of_getElem? there⟩

theorem getElem?_kept {history : List RunEvent} (new : List RunEvent) {position : Nat}
    {event : RunEvent} (there : history[position]? = some event) :
    (history ++ new)[position]? = some event := by
  rw [List.getElem?_append_left (List.getElem?_eq_some_iff.mp there).1]
  exact there

/-- The completion of a command is told before a position of the history, and not later than
at a time. -/
def CompletedBefore (history : List RunEvent) (index position time : Nat) : Prop :=
  ∃ first moment result ref, first < position ∧ moment ≤ time ∧
    history[first]? = some (.completed moment index result ref)

theorem CompletedBefore.append {history : List RunEvent} {index position time : Nat}
    (completed : CompletedBefore history index position time) (new : List RunEvent) :
    CompletedBefore (history ++ new) index position time := by
  obtain ⟨first, moment, result, ref, before, early, there⟩ := completed
  exact ⟨first, moment, result, ref, before, early, getElem?_kept new there⟩

theorem CompletedBefore.mono {history : List RunEvent} {index position time later after : Nat}
    (completed : CompletedBefore history index position time) (next : position ≤ later)
    (passed : time ≤ after) : CompletedBefore history index later after := by
  obtain ⟨first, moment, result, ref, before, early, there⟩ := completed
  exact ⟨first, moment, result, ref, by omega, by omega, there⟩

end Run

namespace Machine

variable {σ : Type}

/-- The later command waits behind the earlier one, and nothing is told of it before the
earlier one is done. -/
structure Queued (earlier later : Nat) (machine : Machine σ) : Prop where
  behind : ∀ {former latter : Command}, machine.run.commands[earlier]? = some former →
    machine.run.commands[later]? = some latter →
    former.status = .done ∨ latter.status = .waiting ∧ latter.entityRef = former.entityRef
  noted : ∀ {former : Command}, machine.run.commands[earlier]? = some former →
    former.status = .done →
    Run.CompletedBefore machine.run.history earlier machine.run.history.length machine.clock
  after : ∀ {position : Nat} {event : RunEvent}, machine.run.history[position]? = some event →
    event.index = later → Run.CompletedBefore machine.run.history earlier position event.time
  called : ∀ {first second began begins : Nat} {call other : EditCall},
    machine.run.history[first]? = some (.called began earlier call) →
    machine.run.history[second]? = some (.called begins later other) →
    first < second ∧ began ≤ begins

theorem Queued.done_of_next {machine : Machine σ} {earlier later : Nat} {former latter : Command}
    (queued : machine.Queued earlier later) (exclusive : machine.run.Exclusive)
    (before : earlier < later)
    (eligible : Command.nextEligible? machine.run.commands = some later)
    (here : machine.run.commands[earlier]? = some former)
    (there : machine.run.commands[later]? = some latter) : former.status = .done := by
  obtain ⟨-, free, first⟩ := Command.nextEligible?_spec eligible there
  rcases queued.behind here there with done | ⟨-, same⟩
  · exact done
  · rcases exclusive.known here with waiting | running | done
    · exact absurd same.symm (first earlier former before here waiting)
    · exact absurd same.symm (free former (List.mem_of_getElem? here) running)
    · exact done

theorem Queued.dispatch {setup : Setup σ} {machine next : Machine σ} {earlier later index : Nat}
    {command former : Command} {client : σ} (queued : machine.Queued earlier later)
    (exclusive : machine.run.Exclusive) (timely : machine.Timely) (before : earlier < later)
    (here : machine.run.commands[earlier]? = some former) (passed : machine.clock ≤ next.clock)
    (eligible : Command.nextEligible? machine.run.commands = some index)
    (found : machine.run.commands[index]? = some command)
    (commands : next.run.commands =
      machine.run.commands.set index { command with status := .running })
    (history : next.run.history = machine.run.history ++
      Run.dispatchEvents next.clock index command.entityRef
        (Run.performance setup next.clock command client)) :
    next.Queued earlier later := by
  have waiting := (Command.nextEligible?_spec eligible found).1
  constructor
  · intro one other is follows
    rw [commands] at is follows
    rcases Run.cases_of_sent found is with ⟨first, rfl⟩ | ⟨-, was⟩ <;>
      rcases Run.cases_of_sent found follows with ⟨second, rfl⟩ | ⟨-, followed⟩
    · omega
    · subst first
      rcases queued.behind found followed with done | behind
      · simp [waiting] at done
      · exact .inr behind
    · subst second
      exact .inl (queued.done_of_next exclusive before eligible was found)
    · exact queued.behind was followed
  · intro one is done
    rw [commands] at is
    rcases Run.cases_of_sent found is with ⟨-, rfl⟩ | ⟨-, was⟩
    · simp at done
    · rw [history, List.length_append]
      exact ((queued.noted was done).append _).mono (Nat.le_add_right _ _) passed
  · intro position event there about
    rw [history] at there ⊢
    rcases Run.getElem?_told there with old | ⟨beyond, new⟩
    · exact (queued.after old about).append _
    · have same := Run.index_of_mem_dispatchEvents new
      obtain rfl : later = index := about.symm.trans same
      have done := queued.done_of_next exclusive before eligible here found
      exact ((queued.noted here done).append _).mono beyond
        (Nat.le_trans passed (Run.time_of_mem_dispatchEvents new))
  · intro first second began begins call other here' there
    rw [history] at here' there
    rcases Run.getElem?_told here' with oldCall | ⟨-, newCall⟩ <;>
      rcases Run.getElem?_told there with oldOther | ⟨beyond, newOther⟩
    · exact queued.called oldCall oldOther
    · have same := Run.index_of_mem_dispatchEvents newOther
      obtain rfl : later = index := same
      have done := queued.done_of_next exclusive before eligible here found
      have begun := timely.past (List.mem_of_getElem? oldCall) here done
      have starts := Run.time_of_mem_dispatchEvents newOther
      have bound := (List.getElem?_eq_some_iff.mp oldCall).1
      simp only [RunEvent.time] at starts
      omega
    · have same := Run.index_of_mem_dispatchEvents newCall
      obtain rfl : earlier = index := same
      -- What is told of the later command comes after the end of one that waits.
      obtain ⟨_, _, _, _, -, -, completed⟩ := queued.after oldOther rfl
      exact absurd waiting (timely.silent _ (List.mem_of_getElem? completed) command found)
    · have one := Run.index_of_mem_dispatchEvents newCall
      have two := Run.index_of_mem_dispatchEvents newOther
      simp only [RunEvent.index] at one two
      omega

theorem Queued.complete {machine next : Machine σ} {earlier later index : Nat}
    {command former : Command} {result : CommandResult} (queued : machine.Queued earlier later)
    (before : earlier < later) (here : machine.run.commands[earlier]? = some former)
    (passed : machine.clock ≤ next.clock)
    (found : machine.run.commands[index]? = some command) (running : command.status = .running)
    (commands : next.run.commands = Run.afterCompletion index command result machine.run.commands)
    (history : next.run.history =
      machine.run.history ++ [.completed next.clock index result command.entityRef]) :
    next.Queued earlier later := by
  constructor
  · intro one other is follows
    rw [commands] at is follows
    rcases Run.cases_of_completed found is with ⟨-, rfl⟩ | ⟨-, old, was, rfl⟩
    · exact .inl rfl
    · rcases Run.cases_of_completed found follows with ⟨rfl, -⟩ | ⟨-, next, followed, rfl⟩
      · rcases queued.behind was found with done | ⟨waiting, -⟩
        · exact .inl ((Run.status_redirected command result old).trans done)
        · simp [running] at waiting
      · rw [Run.status_redirected, Run.status_redirected]
        -- As long as both are unfinished, whatever redirects the one redirects the other.
        by_cases done : old.status = .done
        · exact .inl done
        · rcases queued.behind was followed with finished | ⟨waiting, same⟩
          · exact absurd finished done
          · refine .inr ⟨waiting, ?_⟩
            exact Run.entityRef_redirected_congr command result done (by simp [waiting]) same
  · intro one is done
    rw [commands] at is
    rw [history, List.length_append]
    rcases Run.cases_of_completed found is with ⟨rfl, -⟩ | ⟨-, old, was, rfl⟩
    · refine ⟨machine.run.history.length, next.clock, result, command.entityRef, ?_, ?_, ?_⟩
      · simp
      · exact Nat.le_refl _
      · simp
    · rw [Run.status_redirected] at done
      exact ((queued.noted was done).append _).mono (Nat.le_add_right _ _) passed
  · intro position event there about
    rw [history] at there ⊢
    rcases Run.getElem?_told there with old | ⟨beyond, new⟩
    · exact (queued.after old about).append _
    · obtain rfl := List.mem_singleton.mp new
      obtain rfl : index = later := about
      have done : former.status = .done := by
        rcases queued.behind here found with done | ⟨waiting, -⟩
        · exact done
        · simp [running] at waiting
      exact ((queued.noted here done).append _).mono beyond passed
  · intro first second began begins call other one two
    rw [history] at one two
    rcases Run.getElem?_told one with oldCall | ⟨-, newCall⟩
    · rcases Run.getElem?_told two with oldOther | ⟨-, newOther⟩
      · exact queued.called oldCall oldOther
      · simp at newOther
    · simp at newCall

theorem Queued.happens {setup : Setup σ} {machine next : Machine σ} {earlier later : Nat}
    (queued : machine.Queued earlier later) (exclusive : machine.run.Exclusive)
    (timely : machine.Timely) (before : earlier < later)
    (bound : earlier < machine.run.commands.length) (happens : machine.Happens setup next) :
    next.Queued earlier later := by
  have passed := happens.later
  have here := List.getElem?_eq_getElem bound
  cases happens.change with
  | none commands history flights =>
    constructor
    · rw [commands]
      exact queued.behind
    · rw [commands, history]
      exact fun is done => (queued.noted is done).mono (Nat.le_refl _) passed
    · rw [history]
      exact queued.after
    · rw [history]
      exact queued.called
  | dispatch client eligible found commands history flights =>
    exact queued.dispatch exclusive timely before here passed eligible found commands history
  | complete found running commands history flights left =>
    exact queued.complete before here passed found running commands history

theorem queued_start (clock limit throttle : Nat) (client : σ) {commands : List Command}
    {earlier later : Nat} {former latter : Command}
    (waiting : ∀ command ∈ commands, command.status = .waiting)
    (here : commands[earlier]? = some former) (there : commands[later]? = some latter)
    (same : former.entityRef = latter.entityRef) :
    (start clock commands limit throttle client).Queued earlier later := by
  constructor
  · intro one other is follows
    cases here.symm.trans is
    cases there.symm.trans follows
    exact .inr ⟨waiting latter (List.mem_of_getElem? there), same.symm⟩
  · intro one is done
    have := waiting one (List.mem_of_getElem? is)
    simp [done] at this
  · intro position event told
    simp [start] at told
  · intro first second began begins call other told
    simp [start] at told

theorem Reaches.queued {setup : Setup σ} {clock limit throttle : Nat} {client : σ}
    {commands : List Command} {machine : Machine σ} {earlier later : Nat}
    {former latter : Command}
    (reached : (start clock commands limit throttle client).Reaches setup machine)
    (waiting : ∀ command ∈ commands, command.status = .waiting) (before : earlier < later)
    (here : commands[earlier]? = some former) (there : commands[later]? = some latter)
    (same : former.entityRef = latter.entityRef) : machine.Queued earlier later := by
  induction reached with
  | refl => exact queued_start clock limit throttle client waiting here there same
  | tail reached happens queued =>
    -- Exclusion and timing hold by themselves, so that the induction carries the queue only.
    have startable : Startable commands := fun command member => .inl (waiting command member)
    have bound := (List.getElem?_eq_some_iff.mp here).1
    have length := Reaches.length reached
    refine queued.happens (Reaches.exclusive reached startable) (Reaches.timely reached) before
      ?_ happens
    rw [length]
    exact bound

/-- Of two commands that start on one ref, the later one is sent off only when the earlier one
is done, so that all calls of the earlier one begin and are told first. -/
theorem same_ref_in_list_order {setup : Setup σ} {clock limit throttle : Nat} {client : σ}
    {commands : List Command} {machine : Machine σ} {earlier later : Nat}
    {former latter : Command} (waiting : ∀ command ∈ commands, command.status = .waiting)
    (before : earlier < later) (here : commands[earlier]? = some former)
    (there : commands[later]? = some latter) (same : former.entityRef = latter.entityRef)
    (reached : (start clock commands limit throttle client).Reaches setup machine) :
    (∀ one other : Command, machine.run.commands[earlier]? = some one →
      machine.run.commands[later]? = some other → other.status ≠ .waiting → one.status = .done) ∧
    (∀ (position time endsAt : Nat) (ref : String),
      machine.run.history[position]? = some (.dispatched time later ref endsAt) →
      ∃ first moment result held, first < position ∧ moment ≤ time ∧
        machine.run.history[first]? = some (.completed moment earlier result held)) ∧
    ∀ (first second began begins : Nat) (call other : EditCall),
      machine.run.history[first]? = some (.called began earlier call) →
      machine.run.history[second]? = some (.called begins later other) →
      first < second ∧ began ≤ begins := by
  have queued := reached.queued waiting before here there same
  refine ⟨?_, ?_, fun _ _ _ _ _ _ => queued.called⟩
  · intro one other is follows started
    rcases queued.behind is follows with done | ⟨stillWaiting, -⟩
    · exact done
    · exact absurd stillWaiting started
  · intro position time endsAt ref told
    exact queued.after told rfl

/-- Two creations, the second one on the item that the first one turns out to have made, and two
edits of that item: these are renamed twice while they wait. -/
def renamedTwice : Machine Rehearsal.ClientState :=
  start 5
    [{ id := 0, entityRef := "create_item_0", mode := .create, page := "Foo" },
     { id := 1, entityRef := "Q7", mode := .create, page := "Bar" },
     { id := 2, entityRef := "create_item_0", mode := .add, prop := "P31", value := some "Q5" },
     { id := 3, entityRef := "create_item_0", mode := .delete, prop := "P31" }]
    2 0
    { rules :=
        [⟨{ call := "create_entity", delay := some 10, newId := some "Q7" }, some 1⟩,
         ⟨{ call := "create_entity", newId := some "Q8" }, none⟩]
      delay := 30 }

theorem same_ref_in_list_order_renamed :
    (∀ command ∈ renamedTwice.run.commands, command.status = .waiting) ∧
      ((renamedTwice.steps rehearsed 100 7).run.commands.map fun command =>
        (command.entityRef, command.status)) =
        [("create_item_0", .done), ("Q7", .done), ("Q8", .waiting), ("Q8", .waiting)] ∧
      ((renamedTwice.steps rehearsed 100 11).run.commands.map (·.status)) =
        [.done, .done, .done, .running] ∧
      ∀ (position time endsAt : Nat) (ref : String),
        (renamedTwice.steps rehearsed 100 11).run.history[position]? =
          some (.dispatched time 3 ref endsAt) →
        ∃ first moment result held, first < position ∧ moment ≤ time ∧
          (renamedTwice.steps rehearsed 100 11).run.history[first]? =
            some (.completed moment 2 result held) := by
  have waiting : ∀ command ∈ renamedTwice.run.commands, command.status = .waiting := by decide
  have before : 2 < 3 := by decide
  refine ⟨waiting, by decide +kernel, by decide +kernel, ?_⟩
  exact (same_ref_in_list_order waiting before rfl rfl rfl
    (reaches_steps rehearsed 100 11 renamedTwice)).2.1

end Machine

end EditBatch
