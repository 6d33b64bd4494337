import EditBatch.Client.Basic
import EditBatch.Rehearsal.Limited
import EditBatch.Run.Step

/-! A client that answers by rules, to rehearse batches without a remote side.

The first rule for a call that is not used up decides its delay, its failure and the id of a
created item. Otherwise items are numbered, and statements are looked up in a fixed table. Setups
for runs against it, and against a client without a state, stand at the end.
-/

set_option autoImplicit false

namespace EditBatch

structure CallShape where
  name : String
  args : List Json
  deriving Repr, BEq

def optionalText : Option String → Json
  | some text => .str text
  | none => .null

def EditCall.shape : EditCall → CallShape
  | .createEntity site page => ⟨"create_entity", [optionalText site, optionalText page]⟩
  | .setLabel entity language text => ⟨"set_label", [.str entity, .str language, .str text]⟩
  | .setStatement entity prop value => ⟨"set_statement", [.str entity, .str prop, .str value]⟩
  | .readStatements entity prop => ⟨"read_statements", [.str entity, .str prop]⟩
  | .removeStatement id => ⟨"remove_statement", [id]⟩

namespace Rehearsal

structure CallRule where
  call : String
  /-- Arguments to match from the first on; null matches everything. -/
  args : List Json := []
  delay : Option Nat := none
  failure : Option CallFailure := none
  newId : Option String := none

namespace CallRule

def matchesArgs : List Json → List Json → Bool
  | wanted :: moreWanted, given :: moreGiven =>
    (wanted == .null || wanted == given) && matchesArgs moreWanted moreGiven
  | _, _ => true

def applies (shape : CallShape) (rule : CallRule) : Bool :=
  rule.call = shape.name && matchesArgs rule.args shape.args

end CallRule

structure ClientState where
  rules : List (Limited CallRule) := []
  delay : Nat := 0
  nextId : Int := 101
  /-- Statements by item and property. -/
  statements : List (String × List (String × List Statement)) := []

namespace ClientState

def statementsOf (state : ClientState) (entity prop : String) : List Statement :=
  ((state.statements.lookup entity).bind (·.lookup prop)).getD []

def addRule (rule : Limited CallRule) (state : ClientState) : ClientState :=
  { state with rules := rule :: state.rules }

def reply (newId : Option String) (state : ClientState) :
    (call : EditCall) → call.Reply × ClientState
  | .createEntity _ _ =>
    match newId with
    | some id => (id, state)
    | none => ("Q" ++ toString state.nextId, { state with nextId := state.nextId + 1 })
  | .readStatements entity prop => (state.statementsOf entity prop, state)
  | .setLabel _ _ _ | .setStatement _ _ _ | .removeStatement _ => ((), state)

def answer (call : EditCall) (state : ClientState) : Answer call.Reply × ClientState :=
  let (rule?, rules) := Limited.choose (CallRule.applies call.shape) state.rules
  let state := { state with rules := rules }
  let delay := (rule?.bind (·.delay)).getD state.delay
  match rule?.bind (·.failure) with
  | some failure => (⟨.error failure, delay⟩, state)
  | none =>
    let (reply, state) := state.reply (rule?.bind (·.newId)) call
    (⟨.ok reply, delay⟩, state)

end ClientState

def client : EditClient ClientState where
  perform _ call state := state.answer call

end Rehearsal

namespace Machine

def rehearsed : Setup Rehearsal.ClientState where
  client := Rehearsal.client
  wiki := "enwiki"
  poll := 100
  poll_pos := by decide
  listener := fun _ => {}

/-- Runs against a client that creates an item for one page only. -/
def sparing : Setup Unit where
  client :=
    { perform := fun _ call state =>
        match call with
        | .createEntity _ page =>
          (⟨if page = some "Foo" then .ok "Q7" else .error (.remote "no answer"), 10⟩, state)
        | .readStatements _ _ => (⟨.ok [], 10⟩, state)
        | .setLabel _ _ _ | .setStatement _ _ _ | .removeStatement _ => (⟨.ok (), 10⟩, state) }
  wiki := "enwiki"
  poll := 100
  poll_pos := by decide
  listener := fun _ => {}

end Machine

end EditBatch
