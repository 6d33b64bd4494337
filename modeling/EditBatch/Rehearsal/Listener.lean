import EditBatch.Run.Basic

/-! Listeners made of rules about single status changes. -/

set_option autoImplicit false

namespace EditBatch.Rehearsal

inductive ListenerAction where
  | cancel
  /-- Fails, so that later rules are not looked at. -/
  | fail
  deriving DecidableEq, Repr

structure ListenerRule where
  id : Int
  status : Status
  action : ListenerAction
  deriving DecidableEq, Repr

namespace ListenerRule

def concerns (command : Command) (rule : ListenerRule) : Bool :=
  rule.id = command.id && rule.status = command.status

def listener (rules : List ListenerRule) : Listener := fun command =>
  let obeyed := (rules.filter (concerns command)).takeWhile (·.action = .cancel)
  { cancels := !obeyed.isEmpty }

end ListenerRule

end EditBatch.Rehearsal
