import EditBatch.Text.Quoted

/-! One edit operation on one item, and its way from waiting over running to done. -/

set_option autoImplicit false

namespace EditBatch

open EditBatch.Text

inductive Mode where
  | create
  | add
  | delete
  | other (name : String)
  deriving DecidableEq, Repr

namespace Mode

def name : Mode → String
  | .create => "create"
  | .add => "add"
  | .delete => "delete"
  | .other name => name

def ofName (name : String) : Mode :=
  if name = "create" then .create
  else if name = "add" then .add
  else if name = "delete" then .delete
  else .other name

@[simp] theorem name_ofName (text : String) : (ofName text).name = text := by
  simp only [ofName]
  split
  · simp_all [name]
  · split
    · simp_all [name]
    · split <;> simp_all [name]

end Mode

inductive Status where
  | waiting
  | running
  | done
  | other (name : String)
  deriving DecidableEq, Repr

namespace Status

def name : Status → String
  | .waiting => "waiting"
  | .running => "running"
  | .done => "done"
  | .other name => name

def ofName (name : String) : Status :=
  if name = "waiting" then .waiting
  else if name = "running" then .running
  else if name = "done" then .done
  else .other name

@[simp] theorem name_ofName (text : String) : (ofName text).name = text := by
  simp only [ofName]
  split
  · simp_all [name]
  · split
    · simp_all [name]
    · split <;> simp_all [name]

def next? : Status → Option Status
  | .waiting => some .running
  | .running => some .done
  | _ => none

end Status

/-- An edit that awaits its turn. The ref is an item id, or a placeholder shared by all
commands of a selection until its item has been created. -/
structure Command where
  id : Int
  entityRef : String
  mode : Mode
  prop : String := ""
  value : Option String := none
  page : String := ""
  fromRedlink : Bool := false
  status : Status := .waiting
  closesGroup : Bool := false
  groupId : Option String := none
  deriving DecidableEq, Repr

/-- A status change backwards or past a status. -/
structure InvalidTransition where
  commandId : Int
  current : String
  target : String
  deriving DecidableEq, Repr

def invalidTransitionMessage (id current target : String) : String :=
  "Command #" ++ id ++ " cannot go from " ++ current ++ " to " ++ target

def InvalidTransition.message (e : InvalidTransition) : String :=
  invalidTransitionMessage (toString e.commandId) e.current e.target

namespace Command

def advance (command : Command) (target : Status) : Except InvalidTransition Command :=
  if command.status.next? = some target then .ok { command with status := target }
  else .error ⟨command.id, command.status.name, target.name⟩

def isDone (command : Command) : Bool := command.status = .done

def describe (command : Command) : String :=
  let start := "#" ++ toString command.id ++ " "
  if command.mode = .create then
    start ++ "create " ++ quoted command.page ++ " (" ++ command.entityRef ++ ")"
  else
    let edit := start ++ command.mode.name ++ " " ++ command.entityRef ++ " " ++ command.prop
    match command.value with
    | some value => if value = "" then edit else edit ++ ":" ++ value
    | none => edit

theorem advance_eq_ok_iff (command next : Command) (target : Status) :
    command.advance target = .ok next ↔
      command.status.next? = some target ∧ next = { command with status := target } := by
  simp only [advance]
  split <;> simp_all [eq_comm]

end Command

end EditBatch
