import EditBatch.Run.Completion

/-! Watching a run.

The program waits for a run in slices of one second, and shows the progress after each slice
that ends before the run. An interrupt ends the waiting: the run is cancelled, and nothing
more is shown until the commands in flight have ended. A slice that ends at the very moment of
the interrupt is shown only if the run had nothing to do at that moment.
-/

set_option autoImplicit false

namespace EditBatch.CommandLine

def slice : Nat := 1000

def sliceEnds (moment : Nat) : List Nat :=
  (List.range ((moment - 1) / slice)).map fun index => slice * (index + 1)

def progressShown (run : Run) (moments : List Nat) : String :=
  String.join (moments.map fun time =>
    "\r  Running: " ++ toString (run.completedBy time) ++ "/" ++ toString run.commands.length)

def stoppingNote : String := "\nStopping, waiting for running commands to finish...\n"

def summary (report : Report) : String :=
  "\nBatch " ++ report.outcome.name ++ ": " ++ toString report.done ++ "/" ++
    toString report.total ++ " done, " ++ toString report.failedIds.length ++ " failed\n" ++
  (if report.createdIds.isEmpty then ""
   else "Created items:\n" ++ String.join (report.createdIds.map fun id => "  " ++ id ++ "\n"))

structure Watched (σ : Type) where
  machine : Machine σ
  shown : String

variable {σ : Type}

/-- The run up to just before a moment, without anything done yet at the very beginning. -/
def untilBefore (setup : Setup σ) (moment : Nat) (machine : Machine σ) : Machine σ :=
  if moment = 0 then machine else machine.runUntil setup (moment - 1)

def untilInterrupt (setup : Setup σ) (interruptAt : Nat) (machine : Machine σ) : Machine σ :=
  if interruptAt = 0 then machine else machine.runUntil setup interruptAt

def sliceEndsUntil (setup : Setup σ) (interruptAt : Nat) (machine : Machine σ) : List Nat :=
  let before := untilBefore setup interruptAt machine
  let quiet := (before.step? setup interruptAt).isNone
  sliceEnds interruptAt ++
    (if 0 < interruptAt ∧ interruptAt % slice = 0 ∧ quiet then [interruptAt] else [])

def watchToEnd (setup : Setup σ) (machine : Machine σ) : Watched σ :=
  let ended := machine.runToEnd setup
  ⟨ended, progressShown ended.run (sliceEnds ended.clock)⟩

def watch (setup : Setup σ) (interruptAt : Option Nat) (machine : Machine σ) : Watched σ :=
  match interruptAt with
  | none => watchToEnd setup machine
  | some moment =>
    let interrupted := untilInterrupt setup moment machine
    if interrupted.outcome?.isSome then watchToEnd setup machine
    else
      let cancelled : Machine σ :=
        { interrupted with
          clock := max interrupted.clock moment
          run := interrupted.run.cancel }
      let moments := sliceEndsUntil setup moment machine
      ⟨cancelled.runToEnd setup, progressShown interrupted.run moments ++ stoppingNote⟩

end EditBatch.CommandLine
