/-! A request to stop, made once and never withdrawn, and the waits that it cuts short. -/

set_option autoImplicit false

namespace EditBatch

structure StopFlag where
  requested : Bool := false
  deriving DecidableEq, Repr

namespace StopFlag

def request (_ : StopFlag) : StopFlag := ⟨true⟩

def requestIf (condition : Bool) (flag : StopFlag) : StopFlag :=
  if condition then flag.request else flag

/-- When a wait ends that would last until a deadline: a wait for a requested stop ends at
once. -/
def wakesAt (flag : StopFlag) (now deadline : Nat) : Nat :=
  if flag.requested then now else deadline

@[simp] theorem requested_request (flag : StopFlag) : flag.request.requested = true := rfl

@[simp] theorem requested_requestIf (condition : Bool) (flag : StopFlag) :
    (flag.requestIf condition).requested = (condition || flag.requested) := by
  cases condition <;> rfl

end StopFlag

end EditBatch
