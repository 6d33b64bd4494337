import EditBatch.Wiki.EditProxy
import EditBatch.Wiki.Statements

/-! The client that edits Wikidata: edits go to the proxy, statements are read from the
query service. Every call is one request. -/

set_option autoImplicit false

namespace EditBatch.Wiki

structure Endpoints where
  edits : EditProxy.Endpoint
  /-- The address of the query service. -/
  queries : String
  deriving DecidableEq, Repr

def requestOf (endpoints : Endpoints) : EditCall → Http.Request
  | .createEntity site page => EditProxy.request endpoints.edits (EditProxy.createItem site page)
  | .setLabel entity language text =>
    EditProxy.request endpoints.edits (EditProxy.setLabel entity language text)
  | .setStatement entity prop value =>
    EditProxy.request endpoints.edits (EditProxy.setClaim entity prop value)
  | .readStatements entity _ => Statements.request endpoints.queries entity
  | .removeStatement id => EditProxy.request endpoints.edits (EditProxy.removeClaim id)

def replyOf (outcome : Http.Outcome) : (call : EditCall) → Except CallFailure call.Reply
  | .createEntity site page => do
    EditProxy.createdId (← EditProxy.accepted (EditProxy.createItem site page) outcome)
  | .setLabel entity language text => do
    let _ ← EditProxy.accepted (EditProxy.setLabel entity language text) outcome
  | .setStatement entity prop value => do
    let _ ← EditProxy.accepted (EditProxy.setClaim entity prop value) outcome
  | .readStatements entity prop => Statements.read entity prop outcome
  | .removeStatement id => do
    let _ ← EditProxy.accepted (EditProxy.removeClaim id) outcome

def client {σ : Type} (endpoints : Endpoints) (server : Http.Server σ) : EditClient σ where
  perform now call state :=
    let (answer, state) := server.send now (requestOf endpoints call) state
    (⟨replyOf answer.outcome call, answer.delay⟩, state)

end EditBatch.Wiki
