import EditBatch.Proofs.Run.Registration
import EditBatch.Proofs.Run.Change

/-! What the listener of a run registers with it.

The listener is told of a command whenever the history tells that it is sent off or completed, and
of the command as it is then. Nothing else of a command ever changes, so that what the listener has
registered can be read off the history and the commands as they are now.
-/

set_option autoImplicit false

namespace EditBatch

def Command.bare (command : Command) : Command :=
  { command with status := .waiting, entityRef := "" }

def RunEvent.announced? (commands : List Command) : RunEvent → Option Command
  | .dispatched _ index ref _ =>
    commands[index]?.map fun command => { command with status := .running, entityRef := ref }
  | .completed _ index _ ref =>
    commands[index]?.map fun command => { command with status := .done, entityRef := ref }
  | .called _ _ _ => none

namespace Run

variable {σ : Type}

def observers (listener : Listener) (commands : List Command) (events : List RunEvent) :
    List Observer :=
  (events.filterMap (RunEvent.announced? commands)).flatMap fun command =>
    (listener command).registers

theorem announced?_of_bare {one other : List Command}
    (same : one.map Command.bare = other.map Command.bare) :
    RunEvent.announced? one = RunEvent.announced? other := by
  -- What the entry tells stands in place of what may differ.
  have read (commands : List Command) (index : Nat) (status : Status) (ref : String) :
      commands[index]?.map (fun command => { command with status, entityRef := ref }) =
        (commands.map Command.bare)[index]?.map fun command =>
          { command with status, entityRef := ref } := by
    rw [List.getElem?_map, Option.map_map]
    rfl
  funext event
  cases event with
  | dispatched | completed => rw [RunEvent.announced?, RunEvent.announced?, read, same, ← read]
  | called => rfl

/-- A run has gone on by some entries of its history, and the listener has registered what it
registers when it is told of them. -/
structure Hears (listener : Listener) (events : List RunEvent) (run next : Run) : Prop where
  history : next.history = run.history ++ events
  commands : next.commands.map Command.bare = run.commands.map Command.bare
  callbacks : next.callbacks =
    run.callbacks ++ (observers listener next.commands events).map .observe

theorem Hears.refl (listener : Listener) (run : Run) : run.Hears listener [] run :=
  ⟨by simp, rfl, by simp [observers]⟩

theorem Hears.trans {listener : Listener} {former latter : List RunEvent} {first second third : Run}
    (one : first.Hears listener former second) (two : second.Hears listener latter third) :
    first.Hears listener (former ++ latter) third := by
  refine ⟨?_, two.commands.trans one.commands, ?_⟩
  · rw [two.history, one.history, List.append_assoc]
  · have earlier : observers listener second.commands former =
        observers listener third.commands former := by
      rw [observers, announced?_of_bare two.commands.symm, observers]
    rw [two.callbacks, one.callbacks, earlier]
    simp [observers]

theorem Change.bare {setup : Setup σ} {now : Nat} {run next : Run}
    (change : run.Change setup now next) :
    next.commands.map Command.bare = run.commands.map Command.bare := by
  refine List.ext_getElem? fun position => ?_
  rw [List.getElem?_map, List.getElem?_map]
  cases is : next.commands[position]? with
  | none =>
    have beyond := List.getElem?_eq_none_iff.mp is
    rw [change.length] at beyond
    rw [List.getElem?_eq_none beyond]
  | some after =>
    obtain ⟨before, was, same, -⟩ := change.status is
    rw [was, same]
    rfl

theorem Change.history {setup : Setup σ} {now : Nat} {run next : Run}
    (change : run.Change setup now next) : ∃ events, next.history = run.history ++ events := by
  cases change with
  | none commands history => exact ⟨[], by simp [history]⟩
  | dispatch client eligible found commands history => exact ⟨_, history⟩
  | complete found running commands history => exact ⟨_, history⟩

theorem callbacks_dispatch (setup : Setup σ) (now : Nat) {index : Nat} {command : Command}
    {run : Run} (client : σ) (found : run.commands[index]? = some command) :
    (run.dispatch setup now index command client).1.callbacks = run.callbacks ++
      (observers setup.listener (run.dispatch setup now index command client).1.commands
        (dispatchEvents now index command.entityRef
          (performance setup now command client))).map .observe := by
  have unannounced (done : Performance σ (Except Escape CommandResult)) (commands : List Command) :
      (done.calls.map fun record => RunEvent.called record.time index record.call).filterMap
        (RunEvent.announced? commands) = [] := by
    simp [RunEvent.announced?]
  simp only [observers, dispatchEvents, List.filterMap_cons, unannounced, commands_dispatch,
    RunEvent.announced?, getElem?_sent found, if_pos, Option.map_some, List.flatMap_singleton]
  rfl

theorem callbacks_complete? {listener : Listener} {now index : Nat} {result : CommandResult}
    {run next : Run} (completed : run.complete? listener now index result = some next) :
    ∃ event, next.history = run.history ++ [event] ∧
      next.callbacks = run.callbacks ++ (observers listener next.commands [event]).map .observe := by
  obtain ⟨command, found, -, rfl⟩ := complete?_eq_some completed
  refine ⟨_, rfl, ?_⟩
  simp only [observers, List.filterMap_cons, RunEvent.announced?, commands_notify,
    getElem?_afterCompletion found, if_pos, Option.map_some, List.filterMap_nil,
    List.flatMap_singleton]
  rfl

end Run

namespace Machine

variable {σ : Type} {setup : Setup σ} {machine next : Machine σ}

theorem Move.hears (move : machine.Move setup next) :
    ∃ events, machine.run.Hears setup.listener events next.run := by
  have bare := move.transition.change.bare
  have still (history : next.run.history = machine.run.history)
      (callbacks : next.run.callbacks = machine.run.callbacks) :
      ∃ events, machine.run.Hears setup.listener events next.run :=
    ⟨[], by simp [history], bare, by simp [callbacks, Run.observers]⟩
  cases move with
  | begin | overflow | wake | quit | skip | finish => exact still rfl rfl
  | turn =>
    refine still (Run.alike_turn _ _ _).history ?_
    unfold Run.turn
    split
    · rfl
    · split <;> rfl
  | @depart departure => cases departure <;> exact still rfl rfl
  | dispatch phase allowed found =>
    exact ⟨_, Run.history_dispatch .., bare, Run.callbacks_dispatch _ _ _ found⟩
  | land ready waits popped known completed =>
    obtain ⟨before, after, -, -, rfl⟩ := Run.popEnded?_spec popped
    obtain ⟨event, history, callbacks⟩ := Run.callbacks_complete? completed
    exact ⟨[event], history, bare, callbacks⟩
  | lose ready waits popped =>
    obtain ⟨before, after, -, -, rfl⟩ := Run.popEnded?_spec popped
    exact still rfl rfl
  | drain phase first completed =>
    obtain ⟨event, history, callbacks⟩ := Run.callbacks_complete? completed
    exact ⟨[event], history, bare, callbacks⟩

theorem Steps.hears {first last : Machine σ} (steps : first.Steps setup last) :
    ∃ events, first.run.Hears setup.listener events last.run := by
  induction steps with
  | refl => exact ⟨[], .refl _ _⟩
  | tail _ due ih =>
    obtain ⟨horizon, due⟩ := due
    obtain ⟨former, sofar⟩ := ih
    obtain ⟨latter, further⟩ := (move_of_step due).hears
    exact ⟨former ++ latter, sofar.trans further⟩

theorem Reaches.prolonged {first last : Machine σ} (reached : first.Reaches setup last) :
    (∃ events, last.run.history = first.run.history ++ events) ∧
      last.run.commands.map Command.bare = first.run.commands.map Command.bare := by
  induction reached with
  | refl => exact ⟨⟨[], by simp⟩, rfl⟩
  | tail _ happens ih =>
    obtain ⟨⟨former, sofar⟩, same⟩ := ih
    obtain ⟨latter, further⟩ := happens.change.history
    exact ⟨⟨former ++ latter, by rw [further, sofar, List.append_assoc]⟩,
      happens.change.bare.trans same⟩

theorem Reaches.report_eq {first last : Machine σ} {report : Report}
    (reached : first.Reaches setup last) (reported : first.run.report = some report) :
    last.run.report = some report := by
  refine reached.invariant (fun machine => machine.run.report = some report) reported ?_
  intro machine next happens told
  cases happens with
  | step horizon due => rw [(move_of_step due).registers.report, told]
  | wait | share | register | finish | fail => exact told
  | cancel =>
    simp only [Run.cancel]
    split <;> exact told
  | report ended unreported => simp [Run.isActive, told] at unreported

end Machine

end EditBatch
