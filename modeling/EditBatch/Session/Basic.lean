import EditBatch.Run.Advance

/-! A session: runs of batches on one client, one at a time.

A run is known by its handle, the number of runs started before it. It is active until it has
its report; its completion callbacks are then called in the order of their registration, and
may start the next run.
-/

set_option autoImplicit false

namespace EditBatch

/-- The limits of runs that set none. -/
structure Limits where
  concurrency : Int
  throttle : Int
  deriving DecidableEq, Repr

structure SessionSetup (σ : Type) extends Setup σ where
  defaults : Limits

inductive StartRefusal where
  | concurrencyTooLow (given : Int)
  | negativeThrottle (given : Int)
  | alreadyRunning (handle : Nat)
  deriving DecidableEq, Repr

def alreadyRunningMessage (runId : String) : String := "Run " ++ runId ++ " is still active"

def StartRefusal.message : StartRefusal → String
  | .concurrencyTooLow given => "concurrency must be at least 1, got " ++ toString given
  | .negativeThrottle given => "throttle_ms must not be negative, got " ++ toString given
  | .alreadyRunning handle => alreadyRunningMessage ("<" ++ toString handle ++ ">")

inductive CallbackFailure where
  | raised (message : String)
  | refused (reason : StartRefusal)
  | noBatch (reason : MalformedSelection)
  deriving DecidableEq, Repr

structure Notice where
  time : Nat
  name : String
  report : Report
  deriving DecidableEq, Repr

structure Session (σ : Type) where
  clock : Nat := 0
  client : σ
  /-- The latest run comes first. -/
  runs : List Run := []
  notices : List Notice := []

namespace Session

variable {σ : Type}

def run? (session : Session σ) (handle : Nat) : Option Run := session.runs.reverse[handle]?

def setRun (session : Session σ) (handle : Nat) (run : Run) : Session σ :=
  { session with runs := (session.runs.reverse.set handle run).reverse }

def latest? (session : Session σ) : Option Nat :=
  if session.runs.isEmpty then none else some (session.runs.length - 1)

def requestedLimits (defaults : Limits) (request : StartRequest) : Limits where
  concurrency := request.concurrency.getD defaults.concurrency
  throttle := request.throttle.getD defaults.throttle

/-- Why a request cannot be granted. Wrong limits are reported before an active run. -/
def refusal? (defaults : Limits) (request : StartRequest) (session : Session σ) :
    Option StartRefusal :=
  let limits := requestedLimits defaults request
  if limits.concurrency < 1 then some (.concurrencyTooLow limits.concurrency)
  else if limits.throttle < 0 then some (.negativeThrottle limits.throttle)
  else if session.runs.head?.any (·.isActive) then
    some (.alreadyRunning (session.runs.length - 1))
  else none

def newRun (defaults : Limits) (request : StartRequest) : Run :=
  let limits := requestedLimits defaults request
  { commands := request.commands
    limit := limits.concurrency.toNat
    throttle := limits.throttle.toNat }

def start (defaults : Limits) (request : StartRequest) (session : Session σ) :
    Except StartRefusal (Session σ) :=
  match session.refusal? defaults request with
  | some refusal => .error refusal
  | none => .ok { session with runs := newRun defaults request :: session.runs }

def notice (name : String) (report : Report) (session : Session σ) : Session σ :=
  { session with notices := session.notices ++ [⟨session.clock, name, report⟩] }

/-- Calls an observer. One that it registers is called at once, for the report is there. -/
def observe (report : Report) (session : Session σ) :
    Observer → Except CallbackFailure Unit × Session σ
  | .note name => (.ok (), session.notice name report)
  | .fail name => (.error (.raised "callback"), session.notice name report)
  | .chain name next => (session.notice name report).observe report next

def call (defaults : Limits) (report : Report) (session : Session σ) :
    Callback → Except CallbackFailure Unit × Session σ
  | .observe observer => session.observe report observer
  | .restart name request =>
    let session := session.notice name report
    match session.start defaults request with
    | .ok session => (.ok (), session)
    | .error refusal => (.error (.refused refusal), session)
  | .restartInVain name reason => (.error (.noBatch reason), session.notice name report)

def callAll (defaults : Limits) (report : Report) (callbacks : List Callback)
    (session : Session σ) : Session σ :=
  callbacks.foldl (fun session callback => (session.call defaults report callback).2) session

def markFinished (handle : Nat) (session : Session σ) : Session σ :=
  match session.run? handle with
  | some run => session.setRun handle { run with finished := true }
  | none => session

def finishLatest (defaults : Limits) (outcome : Outcome) (session : Session σ) : Session σ :=
  match session.runs with
  | [] => session
  | run :: past =>
    let report := run.reportWith outcome
    let reported :=
      { session with runs := { run with report := some report, callbacks := [] } :: past }
    (reported.callAll defaults report run.callbacks).markFinished past.length

/-- Lets the latest run go on until it has finished or nothing more happens by the horizon. -/
def goOn (setup : SessionSetup σ) (horizon : Nat) (session : Session σ) : Session σ :=
  match session.runs with
  | [] => session
  | run :: past =>
    let machine := Machine.runUntil setup.toSetup horizon ⟨session.clock, run, session.client⟩
    let session :=
      { session with clock := machine.clock, client := machine.client, runs := machine.run :: past }
    match machine.run.phase with
    | .ended outcome =>
      if machine.run.isActive then session.finishLatest setup.defaults outcome else session
    | _ => session

/-- Lets time pass up to a moment. A run that a callback starts goes on at once; its own
callbacks start none. -/
def passUntil (setup : SessionSetup σ) (horizon : Nat) (session : Session σ) : Session σ :=
  let session := (session.goOn setup horizon).goOn setup horizon
  { session with clock := max session.clock horizon }

def isFinished (session : Session σ) (handle : Nat) : Bool :=
  (session.run? handle).any (·.finished)

def waitUntil (setup : SessionSetup σ) (handle horizon : Nat) (session : Session σ) :
    Bool × Session σ :=
  if session.isFinished handle then (true, session)
  else
    let session := session.goOn setup horizon
    if session.isFinished handle then (true, session)
    else (false, { session with clock := max session.clock horizon })

/-- Registers a callback. It is called at once if the run already has its report. -/
def register (defaults : Limits) (handle : Nat) (run : Run) (callback : Callback)
    (session : Session σ) : Except CallbackFailure Unit × Session σ :=
  match run.report with
  | some report => session.call defaults report callback
  | none => (.ok (), session.setRun handle { run with callbacks := run.callbacks ++ [callback] })

end Session

end EditBatch
