import EditBatch.Run.Advance

/-! Letting a run go on to its end.

Until a run is over, something happens no later than everything dispatched has ended and the
pause is over. So a run comes to its end in as many rounds as it has work to do.
-/

set_option autoImplicit false

namespace EditBatch

namespace Run

/-- When everything in flight has ended and nothing need be waited for. -/
def nextMoment (run : Run) : Nat := max run.lastEnd run.notBefore

end Run

namespace Machine

variable {σ : Type}

/-- Goes on as long as there is work that gets less. -/
def runToEnd (setup : Setup σ) (machine : Machine σ) : Machine σ :=
  let next := machine.runUntil setup (max machine.clock machine.run.nextMoment)
  if _h : next.run.work < machine.run.work then next.runToEnd setup else next
termination_by machine.run.work

def outcome? (machine : Machine σ) : Option Outcome :=
  match machine.run.phase with
  | .ended outcome => some outcome
  | _ => none

end Machine

end EditBatch
