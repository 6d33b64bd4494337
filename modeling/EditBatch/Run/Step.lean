import EditBatch.Run.Basic

/-! One step of a run.

The dispatch loop sends off waiting commands in list order while fewer than the limit are in
flight, no stop is requested and the pause after the latest completion is over. It then waits
until something ends or the pause or a poll interval is over, completes what has ended, and
starts anew. A created item takes the place of the ref that its creation was on.
-/

set_option autoImplicit false

namespace EditBatch

/-- What all runs of a session share. -/
structure Setup (σ : Type) where
  client : EditClient σ
  wiki : String
  /-- The longest wait of the dispatch loop. -/
  poll : Nat
  poll_pos : 0 < poll
  listener : Listener

/-- No float is as long as a pause from this length on, which aborts a run at once. Time is virtual,
so that how long a real clock can wait plays no part. -/
def pauseLimit : Nat := Nat.pow 2 1024 - Nat.pow 2 970

namespace Run

variable {σ : Type}

def notify (listener : Listener) (command : Command) (run : Run) : Run :=
  let reaction := listener command
  { run with
    stop := run.stop.requestIf reaction.cancels
    callbacks := run.callbacks ++ reaction.registers.map .observe }

section notify

variable (listener : Listener) (command : Command) (run : Run)

@[simp] theorem commands_notify : (run.notify listener command).commands = run.commands := rfl

@[simp] theorem phase_notify : (run.notify listener command).phase = run.phase := rfl

@[simp] theorem inFlight_notify : (run.notify listener command).inFlight = run.inFlight := rfl

@[simp] theorem notBefore_notify : (run.notify listener command).notBefore = run.notBefore := rfl

@[simp] theorem lastEnd_notify : (run.notify listener command).lastEnd = run.lastEnd := rfl

@[simp] theorem history_notify : (run.notify listener command).history = run.history := rfl

@[simp] theorem limit_notify : (run.notify listener command).limit = run.limit := rfl

@[simp] theorem throttle_notify : (run.notify listener command).throttle = run.throttle := rfl

end notify

def dispatchable? (now : Nat) (run : Run) : Option Nat :=
  if run.notBefore ≤ now ∧ run.inFlight.length < run.limit ∧ run.stop.requested = false then
    Command.nextEligible? run.commands
  else none

theorem dispatchable?_eq_some_iff {now index : Nat} {run : Run} :
    run.dispatchable? now = some index ↔
      (run.notBefore ≤ now ∧ run.inFlight.length < run.limit ∧ run.stop.requested = false) ∧
        Command.nextEligible? run.commands = some index := by
  unfold dispatchable?
  split
  next free => simp only [free, and_self, true_and]
  next taken => simp [taken]

def performance (setup : Setup σ) (now : Nat) (command : Command) (client : σ) :
    Performance σ (Except Escape CommandResult) :=
  (command.execution command.entityRef setup.wiki).perform setup.client now client

def dispatchEvents (now index : Nat) (ref : String)
    (done : Performance σ (Except Escape CommandResult)) : List RunEvent :=
  .dispatched now index ref done.endsAt ::
    done.calls.map fun record => .called record.time index record.call

/-- Sends off a command: it is running from now on, and its calls are made. -/
def dispatch (setup : Setup σ) (now index : Nat) (command : Command) (run : Run) (client : σ) :
    Run × σ :=
  let running := { command with status := .running }
  let done := performance setup now command client
  let sent : Run :=
    { run with
      commands := run.commands.set index running
      inFlight := run.inFlight ++ [⟨index, settle done.result, done.endsAt⟩]
      lastEnd := max run.lastEnd done.endsAt
      history := run.history ++ dispatchEvents now index command.entityRef done }
  (sent.notify setup.listener running, done.client)

def record (command : Command) (result : CommandResult) (run : Run) : Run :=
  match result with
  | .success (some newId) =>
    if command.mode = .create ∧ newId ≠ "" then
      { run with
        commands := Command.redirect command.entityRef newId run.commands
        createdIds := run.createdIds ++ [newId] }
    else run
  | .success none => run
  | .failure _ _ _ => { run with failedIds := run.failedIds ++ [command.id] }

/-- Completes a command, unless it is not running. -/
def complete? (listener : Listener) (now index : Nat) (result : CommandResult) (run : Run) :
    Option Run :=
  match run.commands[index]? with
  | none => none
  | some command =>
    match command.advance .done with
    | .error _ => none
    | .ok done =>
      let marked : Run :=
        { run with
          commands := run.commands.set index done
          history := run.history ++ [.completed now index result done.entityRef] }
      some ((marked.record done result).notify listener done)

def hasEnded (now : Nat) (flight : Flight) : Bool := flight.endsAt ≤ now

def popEnded? (now : Nat) (run : Run) : Option (Flight × Run) :=
  (run.inFlight.find? (hasEnded now)).map fun flight =>
    (flight, { run with inFlight := run.inFlight.eraseP (hasEnded now) })

def land (setup : Setup σ) (now : Nat) (flight : Flight) (run : Run) : Run :=
  match flight.result with
  | none => { run with phase := .leaving .crashed }
  | some result =>
    match run.complete? setup.listener now flight.index result with
    | none => { run with phase := .leaving .aborted }
    | some run =>
      { run with
        notBefore := if 0 < run.throttle then now + run.throttle else run.notBefore
        phase := if run.inFlight.any (hasEnded now) then .completing else .dispatching }

def pause (setup : Setup σ) (now : Nat) (run : Run) : Nat :=
  if now < run.notBefore then min setup.poll (run.notBefore - now) else setup.poll

/-- The end of a turn of the loop when nothing more is to be dispatched. -/
def turn (setup : Setup σ) (now : Nat) (run : Run) : Run :=
  if run.inFlight.isEmpty ∧ run.stop.requested then
    { run with phase := .leaving (.returned .stopped) }
  else if run.inFlight.isEmpty ∧ run.commands.all (·.isDone) then
    { run with phase := .leaving (.returned .completed) }
  else { run with phase := .blocked (now + run.pause setup now) }

/-- Completes the first command in flight of an aborted run. -/
def drain (setup : Setup σ) (now : Nat) (run : Run) : Run :=
  match run.inFlight with
  | [] => { run with phase := .ended .stopped }
  | flight :: rest =>
    let run := { run with inFlight := rest }
    let result := flight.result.getD (.failure .remote "run aborted" "")
    (run.complete? setup.listener now flight.index result).getD run

def depart (run : Run) : Departure → Run
  | .returned outcome => { run with phase := .ended outcome }
  | .aborted => { run with stop := run.stop.request, phase := .draining }
  | .crashed => { run with phase := .crashed }

def earliestEnd (run : Run) : Option Nat := (run.inFlight.map (·.endsAt)).min?

/-- The time from which a run can make its next step; none if it makes no more. -/
def readyAt? (run : Run) : Option Nat :=
  match run.phase with
  | .created | .dispatching | .completing | .draining => some 0
  | .blocked deadline =>
    match run.earliestEnd with
    | some ending => some (min ending deadline)
    | none => some (run.stop.wakesAt 0 deadline)
  | .leaving _ => some run.lastEnd
  | .ended _ | .crashed => none

def step (setup : Setup σ) (now : Nat) (run : Run) (client : σ) : Run × σ :=
  match run.phase with
  | .created =>
    if pauseLimit ≤ run.throttle ∨ pauseLimit ≤ setup.poll then
      ({ run with phase := .leaving .aborted }, client)
    else ({ run with phase := .dispatching }, client)
  | .dispatching =>
    match run.dispatchable? now with
    | some index =>
      match run.commands[index]? with
      | some command => run.dispatch setup now index command client
      | none => (run.turn setup now, client)
    | none => (run.turn setup now, client)
  | .completing | .blocked _ =>
    match run.popEnded? now with
    | some (flight, run) => (run.land setup now flight, client)
    | none =>
      if run.inFlight.isEmpty ∧ run.stop.requested then
        ({ run with phase := .leaving (.returned .stopped) }, client)
      else ({ run with phase := .dispatching }, client)
  | .leaving departure => (run.depart departure, client)
  | .draining => (run.drain setup now, client)
  | .ended _ | .crashed => (run, client)

end Run

end EditBatch
