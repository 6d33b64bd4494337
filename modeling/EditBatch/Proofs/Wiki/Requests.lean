import EditBatch.Client.Plan
import EditBatch.Proofs.Http.Delivery
import EditBatch.Wiki.Client

/-! Every call is one request.

A server that keeps a list of its requests answers like the server itself, so that the list can be
told from the calls: their requests stand there in their order, but for those that are refused
before they are sent.
-/

set_option autoImplicit false

namespace EditBatch.Wiki

open Http

variable {σ α : Type} (endpoints : Endpoints) (server : Server σ)

/-- The request of a call as it reaches its server, unless it is refused before that. -/
def sentFor? (record : CallRecord) : Option RequestRecord :=
  (sent? (requestOf endpoints record.call)).map (⟨record.time, ·⟩)

theorem client_recorded (now : Nat) (call : EditCall) (state : σ) (log : List RequestRecord) :
    (client endpoints server.recorded).perform now call (state, log) =
      (((client endpoints server).perform now call state).1,
        ((client endpoints server).perform now call state).2,
        log ++ (sentFor? endpoints ⟨now, call⟩).toList) := by
  simp only [client, send_recorded, sentFor?]
  cases sent? (requestOf endpoints call) <;> rfl

theorem filterMap_sentFor?_cons (record : CallRecord) (records : List CallRecord) :
    (record :: records).filterMap (sentFor? endpoints) =
      (sentFor? endpoints record).toList ++ records.filterMap (sentFor? endpoints) := by
  rw [List.filterMap_cons]
  cases sentFor? endpoints record <;> rfl

theorem perform_recorded (plan : Plan α) (now : Nat) (state : σ) (log : List RequestRecord) :
    plan.perform (client endpoints server.recorded) now (state, log) =
      { plan.perform (client endpoints server) now state with
        client := ((plan.perform (client endpoints server) now state).client,
          log ++ (plan.perform (client endpoints server) now state).calls.filterMap
            (sentFor? endpoints)) } := by
  -- Recording changes no answer, so that the plan takes the same branch at every call.
  induction plan generalizing now state log with
  | finish result => simp [Plan.perform]
  | call request next ih =>
    simp only [Plan.perform, client_recorded, ih, filterMap_sentFor?_cons, List.append_assoc]

end EditBatch.Wiki
