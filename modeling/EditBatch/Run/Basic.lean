import EditBatch.Command.Execution
import EditBatch.Command.Queue
import EditBatch.Row.Batch
import EditBatch.Run.StopFlag

/-! A run of a batch: its commands, what is in flight, what has happened, and how far its
dispatch loop has come.

Time is counted in whole milliseconds. The calls of a command are made when it is dispatched;
what came of them is in flight until the last call is answered, and completing the command
makes it known.
-/

set_option autoImplicit false

namespace EditBatch

inductive Outcome where
  | completed
  | stopped
  deriving DecidableEq, Repr

def Outcome.name : Outcome → String
  | .completed => "completed"
  | .stopped => "stopped"

structure Report where
  outcome : Outcome
  done : Nat
  total : Nat
  createdIds : List String
  failedIds : List Int
  deriving DecidableEq, Repr

structure Progress where
  done : Nat
  total : Nat
  running : Nat
  deriving DecidableEq, Repr

def Progress.remaining (progress : Progress) : Nat := progress.total - progress.done

/-- What a run is asked to do; missing limits are taken from the settings. -/
structure StartRequest where
  commands : List Command
  concurrency : Option Int := none
  throttle : Option Int := none
  deriving DecidableEq, Repr

/-- A completion callback that starts no run. It notes that it was called. -/
inductive Observer where
  | note (name : String)
  /-- Fails after its note. -/
  | fail (name : String)
  /-- Registers another observer after its note. -/
  | chain (name : String) (next : Observer)
  deriving DecidableEq, Repr

inductive Callback where
  | observe (observer : Observer)
  /-- Asks for another run after its note. -/
  | restart (name : String) (request : StartRequest)
  /-- Fails after its note, for the batch of the run that it would ask for cannot be made. -/
  | restartInVain (name : String) (reason : MalformedSelection)
  deriving DecidableEq, Repr

/-- What the status listener does about a change. -/
structure Reaction where
  cancels : Bool := false
  registers : List Observer := []
  deriving DecidableEq, Repr

/-- Told of every dispatched and every completed command. -/
abbrev Listener := Command → Reaction

/-- A dispatched command whose completion is not yet known. There is no result if the
execution failed fatally. -/
structure Flight where
  index : Nat
  result : Option CommandResult
  endsAt : Nat
  deriving DecidableEq, Repr

inductive RunEvent where
  /-- A command sent off on a ref, and when its last call is answered. -/
  | dispatched (time index : Nat) (ref : String) (endsAt : Nat)
  /-- A client call and the time at which it began. -/
  | called (time index : Nat) (call : EditCall)
  | completed (time index : Nat) (result : CommandResult) (ref : String)
  deriving Repr, BEq

/-- Why the dispatch loop is left. -/
inductive Departure where
  | returned (outcome : Outcome)
  | aborted
  | crashed
  deriving DecidableEq, Repr

inductive Phase where
  /-- Started, but the dispatch loop has not begun. -/
  | created
  /-- Dispatching as much as is allowed. -/
  | dispatching
  /-- Completing the commands that have ended. -/
  | completing
  /-- Waiting for something to end, or for the deadline. -/
  | blocked (deadline : Nat)
  /-- Waiting for everything that was dispatched. -/
  | leaving (departure : Departure)
  /-- Completing what an aborted loop left in flight. -/
  | draining
  | ended (outcome : Outcome)
  /-- Given up without a report. -/
  | crashed
  deriving DecidableEq, Repr

structure Run where
  commands : List Command
  /-- How many commands may be in flight. -/
  limit : Nat
  /-- The pause after every completion. -/
  throttle : Nat
  phase : Phase := .created
  stop : StopFlag := {}
  /-- In the order of their dispatch. -/
  inFlight : List Flight := []
  /-- Nothing is dispatched before this time. -/
  notBefore : Nat := 0
  /-- When the last of all dispatched commands ends. -/
  lastEnd : Nat := 0
  createdIds : List String := []
  failedIds : List Int := []
  history : List RunEvent := []
  callbacks : List Callback := []
  report : Option Report := none
  finished : Bool := false

namespace Run

def isActive (run : Run) : Bool := run.report.isNone

def progress (run : Run) : Progress where
  done := run.commands.countP (·.isDone)
  total := run.commands.length
  running := run.commands.countP (·.status = .running)

def reportWith (outcome : Outcome) (run : Run) : Report where
  outcome := outcome
  done := run.progress.done
  total := run.progress.total
  createdIds := run.createdIds
  failedIds := run.failedIds

/-- Asks a run to stop dispatching; one that has its report is left alone. -/
def cancel (run : Run) : Run :=
  if run.isActive then { run with stop := run.stop.request } else run

def callLog (run : Run) : List CallRecord :=
  run.history.filterMap fun
    | .called time _ call => some ⟨time, call⟩
    | _ => none

structure StatusChange where
  time : Nat
  id : Int
  status : Status
  ref : String
  deriving DecidableEq, Repr

def idAt (run : Run) (index : Nat) : Int := (run.commands[index]?.map (·.id)).getD 0

def statusLog (run : Run) : List StatusChange :=
  run.history.filterMap fun
    | .dispatched time index ref _ => some ⟨time, run.idAt index, .running, ref⟩
    | .completed time index _ ref => some ⟨time, run.idAt index, .done, ref⟩
    | .called _ _ _ => none

def completedBy (run : Run) (time : Nat) : Nat :=
  run.history.countP fun
    | .completed moment _ _ _ => moment ≤ time
    | _ => false

end Run

end EditBatch
