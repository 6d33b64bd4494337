import EditBatch.Client.Plan
import EditBatch.Command.Basic
import EditBatch.Item.Id
import EditBatch.Wiki.Label

/-! The calls that carry out one command, and what they amount to.

Remote failures and refusals become failed results. Any other failure escapes, unless the
command runs as part of a batch, where only a fatal one does.
-/

set_option autoImplicit false

namespace EditBatch

open EditBatch.Text

inductive ErrorKind where
  | remote
  | semantic
  deriving DecidableEq, Repr

def ErrorKind.name : ErrorKind → String
  | .remote => "remote"
  | .semantic => "semantic"

inductive CommandResult where
  /-- A creation that succeeded has the id of its item. -/
  | success (newId : Option String)
  | failure (kind : ErrorKind) (message code : String)
  deriving DecidableEq, Repr

def CommandResult.isOk : CommandResult → Bool
  | .success _ => true
  | .failure _ _ _ => false

/-- A failure of an execution that is no result. -/
inductive Escape where
  | unknownMode (name : String)
  | fault (reason : Fault)
  | fatal
  deriving DecidableEq, Repr

def unknownModeMessage (name : String) : String := "Unknown command mode: " ++ quoted name

abbrev Execution := Plan (Except Escape CommandResult)

namespace Execution

def succeed (newId : Option String) : Execution := .finish (.ok (.success newId))

def failAt : CallFailure → Execution
  | .remote message => .finish (.ok (.failure .remote message ""))
  | .semantic code info =>
    .finish (.ok (.failure .semantic (semanticMessage code info) code))
  | .fault reason => .finish (.error (.fault reason))
  | .fatal => .finish (.error .fatal)

/-- A created item whose label was refused or lost still counts as created. -/
def afterLabel (newId : String) : Except CallFailure Unit → Execution
  | .ok _ | .error (.remote _) | .error (.semantic _ _) => succeed (some newId)
  | .error (.fault reason) => failAt (.fault reason)
  | .error .fatal => failAt .fatal

def create (command : Command) (wiki : String) : Execution :=
  if command.fromRedlink then
    .call (.createEntity none none) fun
      | .error failure => failAt failure
      | .ok newId =>
        .call (.setLabel newId (Wiki.labelLanguage wiki) (Wiki.pageLabel command.page))
          (afterLabel newId)
  else
    .call (.createEntity (some wiki) (some command.page)) fun
      | .error failure => failAt failure
      | .ok newId => succeed (some newId)

def endWith : Except CallFailure Unit → Execution
  | .ok _ => succeed none
  | .error failure => failAt failure

def add (command : Command) (ref : String) : Execution :=
  .call (.setStatement ref command.prop (command.value.getD "")) endWith

/-- Whether a deletion is meant for a statement; without a value it is meant for any. -/
def selects (command : Command) (statement : Statement) : Bool :=
  command.value.isNone || statement.value = command.value

def delete (command : Command) (ref : String) : Execution :=
  .call (.readStatements ref command.prop) fun
    | .error failure => failAt failure
    | .ok statements =>
      match statements.find? (selects command) with
      | some statement => .call (.removeStatement statement.id) endWith
      | none => succeed none

def neverCreated (ref : String) : CommandResult :=
  .failure .semantic (ref ++ " was never created") "unresolved-placeholder"

end Execution

def Command.execution (command : Command) (ref wiki : String) : Execution :=
  if command.mode ≠ .create && Item.isPlaceholder ref then
    .finish (.ok (Execution.neverCreated ref))
  else
    match command.mode with
    | .create => Execution.create command wiki
    | .add => Execution.add command ref
    | .delete => Execution.delete command ref
    | .other name => .finish (.error (.unknownMode name))

/-- What a batch learns from an execution: nothing if the failure was fatal. -/
def settle : Except Escape CommandResult → Option CommandResult
  | .ok result => some result
  | .error (.unknownMode name) => some (.failure .remote (unknownModeMessage name) "")
  | .error (.fault reason) => some (.failure .remote reason.message "")
  | .error .fatal => none

end EditBatch
