import EditBatch.Command.Basic

/-! The commands of a run in their order: which one may start, and where they point.

At any time an item takes part in at most one running command.
-/

set_option autoImplicit false

namespace EditBatch.Command

def busyRefs (commands : List Command) : List String :=
  (commands.filter fun command => command.status = .running).map (·.entityRef)

def isEligible (commands : List Command) (command : Command) : Bool :=
  command.status = .waiting && !(busyRefs commands).contains command.entityRef

def nextEligible? (commands : List Command) : Option Nat :=
  commands.findIdx? (isEligible commands)

/-- Whether redirecting a ref changes a command; a done one keeps the ref it ran with. -/
def follows (former : String) (command : Command) : Bool :=
  !command.isDone && command.entityRef = former

def redirect (former current : String) (commands : List Command) : List Command :=
  commands.map fun command =>
    if command.follows former then { command with entityRef := current } else command

def redirectedCount (former : String) (commands : List Command) : Nat :=
  commands.countP (·.follows former)

@[simp] theorem length_redirect (former current : String) (commands : List Command) :
    (redirect former current commands).length = commands.length := by
  simp [redirect]

theorem nextEligible?_lt {commands : List Command} {index : Nat}
    (found : nextEligible? commands = some index) : index < commands.length := by
  have := List.findIdx?_eq_some_iff_getElem.mp found
  exact this.1

end EditBatch.Command
