import EditBatch.Session.Basic

/-! Scripts: what a caller does to a session, step by step, and what each step answers. -/

set_option autoImplicit false

namespace EditBatch

/-- A step on a run takes the latest one if it names none. -/
inductive Step (σ : Type) where
  | start (request : StartRequest)
  | advance (duration : Nat)
  | wait (handle : Option Nat) (duration : Nat)
  | cancel (handle : Option Nat)
  | progress (handle : Option Nat)
  | inspect (handle : Option Nat)
  /-- Changes the status of a command behind the back of its run. -/
  | mark (handle : Option Nat) (index : Nat) (status : Status)
  /-- Changes the state of the client. -/
  | adjust (change : σ → σ)
  | onComplete (handle : Option Nat) (callback : Callback)

inductive StepAnswer where
  | done
  | started (handle total concurrency throttle : Nat)
  | finished (inTime : Bool)
  | progress (progress : Progress)
  | run (handle : Nat) (run : Run)

inductive StepFailure where
  | refused (reason : StartRefusal)
  | transition (reason : InvalidTransition)
  | callback (reason : CallbackFailure)
  /-- There is no such run, or no such command. -/
  | missing
  deriving DecidableEq, Repr

abbrev Attempt := Except StepFailure StepAnswer

namespace Session

variable {σ : Type}

def withRun (session : Session σ) (handle : Option Nat)
    (act : Nat → Run → Attempt × Session σ) : Attempt × Session σ :=
  match handle <|> session.latest? with
  | none => (.error .missing, session)
  | some handle =>
    match session.run? handle with
    | none => (.error .missing, session)
    | some run => act handle run

def startStep (setup : SessionSetup σ) (request : StartRequest) (session : Session σ) :
    Attempt × Session σ :=
  match session.start setup.defaults request with
  | .error refusal => (.error (.refused refusal), session)
  | .ok started =>
    let run := newRun setup.defaults request
    (.ok (.started session.runs.length run.commands.length run.limit run.throttle), started)

def markStep (handle : Nat) (run : Run) (index : Nat) (status : Status) (session : Session σ) :
    Attempt × Session σ :=
  match run.commands[index]? with
  | none => (.error .missing, session)
  | some command =>
    match command.advance status with
    | .error reason => (.error (.transition reason), session)
    | .ok command =>
      (.ok .done, session.setRun handle { run with commands := run.commands.set index command })

def perform (setup : SessionSetup σ) (session : Session σ) : Step σ → Attempt × Session σ
  | .start request => session.startStep setup request
  | .advance duration => (.ok .done, session.passUntil setup (session.clock + duration))
  | .wait handle duration =>
    session.withRun handle fun handle _ =>
      let (inTime, session) := session.waitUntil setup handle (session.clock + duration)
      (.ok (.finished inTime), session)
  | .cancel handle =>
    session.withRun handle fun handle run => (.ok .done, session.setRun handle run.cancel)
  | .progress handle =>
    match handle, session.runs with
    | none, [] => (.ok (.progress ⟨0, 0, 0⟩), session)
    | handle, _ => session.withRun handle fun _ run => (.ok (.progress run.progress), session)
  | .inspect handle =>
    session.withRun handle fun handle run => (.ok (.run handle run), session)
  | .mark handle index status =>
    session.withRun handle fun handle run => session.markStep handle run index status
  | .adjust change => (.ok .done, { session with client := change session.client })
  | .onComplete handle callback =>
    session.withRun handle fun handle run =>
      match session.register setup.defaults handle run callback with
      | (.ok _, session) => (.ok .done, session)
      | (.error failure, session) => (.error (.callback failure), session)

/-- An answer as it reads when the script is over: a run that was looked at shows the ids that
it has recorded by then. -/
def revise (final : Session σ) : Attempt → Attempt
  | .ok (.run handle run) =>
    match final.run? handle with
    | some last =>
      .ok (.run handle { run with createdIds := last.createdIds, failedIds := last.failedIds })
    | none => .ok (.run handle run)
  | attempt => attempt

structure StepRecord (σ : Type) where
  attempt : Attempt
  before : Session σ
  after : Session σ

def recordAll (setup : SessionSetup σ) (session : Session σ) :
    List (Step σ) → List (StepRecord σ) × Session σ
  | [] => ([], session)
  | step :: rest =>
    let (attempt, after) := session.perform setup step
    let (records, final) := after.recordAll setup rest
    (⟨attempt, session, after⟩ :: records, final)

def performAll (setup : SessionSetup σ) (session : Session σ) (steps : List (Step σ)) :
    List (StepRecord σ) :=
  let (records, final) := session.recordAll setup steps
  records.map fun record => { record with attempt := final.revise record.attempt }

def hasCrashed (session : Session σ) : Bool := session.runs.any (·.phase = .crashed)

def callLog (session : Session σ) : List CallRecord := session.runs.reverse.flatMap (·.callLog)

def statusLog (session : Session σ) : List Run.StatusChange :=
  session.runs.reverse.flatMap (·.statusLog)

end Session

end EditBatch
