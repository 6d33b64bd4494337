import EditBatch.Http.Basic
import EditBatch.Rehearsal.Limited

/-! A web server that answers by rules, to rehearse edits without a remote side.

The first rule for a request that is not used up decides its delay and its outcome. Otherwise
every edit is accepted, created items are numbered, and no item has statements.
-/

set_option autoImplicit false

namespace EditBatch.Rehearsal

inductive ServerReaction where
  | fail (failure : Http.TransportFailure)
  /-- Responds with a body, or with the one for requests without a rule. -/
  | respond (status : Nat) (body : Option Http.Body)

structure ServerRule where
  /-- Parameters that a request must have. -/
  params : List (String × String) := []
  delay : Option Nat := none
  reaction : ServerReaction := .respond 200 none

def ServerRule.applies (request : Http.Request) (rule : ServerRule) : Bool :=
  rule.params.all fun (name, value) => request.params.lookup name == some value

structure ServerState where
  rules : List (Limited ServerRule) := []
  delay : Nat := 0
  nextId : Int := 101
  /-- The requests so far. -/
  log : List Http.RequestRecord := []

namespace ServerState

def acceptance (more : List (String × Json)) : Http.Body :=
  .json (.obj (("error", .str "OK") :: more))

def usualBody (request : Http.Request) (state : ServerState) : Http.Body × ServerState :=
  let action := (request.params.lookup "action").getD ""
  if action = "wbgetentities" then (.json (.obj [("entities", .obj [])]), state)
  else if "create_".toList.isPrefixOf action.toList then
    (acceptance [("q", .str ("Q" ++ toString state.nextId))],
      { state with nextId := state.nextId + 1 })
  else (acceptance [], state)

def answer (now : Nat) (request : Http.Request) (state : ServerState) :
    Http.Answer × ServerState :=
  let (rule?, rules) := Limited.choose (ServerRule.applies request) state.rules
  let rule := rule?.getD {}
  let state := { state with rules := rules, log := state.log ++ [⟨now, request⟩] }
  let delay := rule.delay.getD state.delay
  match rule.reaction with
  | .fail failure => (⟨.error failure, delay⟩, state)
  | .respond status (some body) => (⟨.ok ⟨status, body⟩, delay⟩, state)
  | .respond status none =>
    let (body, state) := state.usualBody request
    (⟨.ok ⟨status, body⟩, delay⟩, state)

end ServerState

def server : Http.Server ServerState where
  answer := ServerState.answer

end EditBatch.Rehearsal
