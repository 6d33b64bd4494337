import EditBatch.Client.Basic
import EditBatch.Http.Status
import EditBatch.Http.Url
import EditBatch.Json.Encoding

/-! Requests to web services, and servers that answer them.

A server is a function from a request and its own state to an answer and a new state. The
answer comes some milliseconds after the request was sent. A request whose address is invalid is
not sent at all.
-/

set_option autoImplicit false

namespace EditBatch.Http

structure Request where
  url : String
  params : List (String × String)
  deriving DecidableEq, Repr

inductive Body where
  | text (content : String)
  | json (value : Json)
  deriving Repr, BEq

def Body.document : Body → Except Json.ReadFailure Json
  | .text content => Json.readDocument content
  | .json value => .ok value

structure Response where
  status : Nat
  body : Body
  deriving Repr, BEq

inductive TransportFailure where
  /-- No response came. -/
  | noResponse (message : String)
  /-- A response came to an address that names no server, so nothing can be made of it. -/
  | noServer
  | fault (reason : Fault)
  deriving DecidableEq, Repr

abbrev Outcome := Except TransportFailure Response

structure Answer where
  outcome : Outcome
  /-- Milliseconds from the request to the answer. -/
  delay : Nat

structure Server (σ : Type) where
  answer : (now : Nat) → (request : Request) → σ → Answer × σ

/-- Sends a request to its address, if that is valid and the query is not too long. -/
def Server.send {σ : Type} (server : Server σ) (now : Nat) (request : Request) (state : σ) :
    Answer × σ :=
  match Url.read? request.url with
  | none => (⟨.error (.fault (.invalidAddress request.url)), 0⟩, state)
  | some url =>
    if lengthLimit < (queryOf request.params).length then
      (⟨.error (.fault (.invalidAddress request.url)), 0⟩, state)
    else
      let (answer, state) := server.answer now { request with url := url.text } state
      if url.namesServer then (answer, state)
      else ({ answer with outcome := answer.outcome.bind fun _ => .error .noServer }, state)

structure RequestRecord where
  time : Nat
  request : Request
  deriving DecidableEq, Repr

/-- Why an outcome holds no JSON value. -/
inductive DocumentFailure where
  | notDelivered (message : String)
  | notJson
  | fault (reason : Fault)
  deriving DecidableEq, Repr

def document : Outcome → Except DocumentFailure Json
  | .error (.noResponse message) => .error (.notDelivered message)
  | .error .noServer => .error .notJson
  | .error (.fault reason) => .error (.fault reason)
  | .ok response =>
    if isSuccess response.status then
      match response.body.document with
      | .ok value => .ok value
      | .error .malformed => .error .notJson
      | .error (.tooDeep kind) => .error (.fault (.tooDeep kind))
    else .error (.notDelivered (refusal response.status))

end EditBatch.Http
