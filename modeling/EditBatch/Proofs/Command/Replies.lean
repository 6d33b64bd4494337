import EditBatch.Proofs.Command.Calls

/-! Clients whose replies depend on the call alone.

Such a client may remember what it likes and take its time over every answer. What a plan comes
to, and which calls it makes, can still be told in advance.
-/

set_option autoImplicit false

namespace EditBatch

abbrev Replies := (call : EditCall) → Except CallFailure call.Reply

def Replies.Given (replies : Replies) : Assumption := fun call outcome => outcome = replies call

theorem EditClient.Meets.of_given {σ : Type} {client : EditClient σ} {replies : Replies}
    {assumed : Assumption} (given : client.Meets replies.Given)
    (holds : ∀ call, assumed call (replies call)) : client.Meets assumed := by
  intro now call state
  rw [given now call state]
  exact holds call

namespace Plan

variable {σ α : Type}

def resultWith (replies : Replies) : Plan α → α
  | .finish result => result
  | .call request next => (next (replies request)).resultWith replies

def callsWith (replies : Replies) : Plan α → List EditCall
  | .finish _ => []
  | .call request next => request :: (next (replies request)).callsWith replies

theorem perform_given {client : EditClient σ} {replies : Replies}
    (given : client.Meets replies.Given) (plan : Plan α) (now : Nat) (state : σ) :
    (plan.perform client now state).result = plan.resultWith replies ∧
      (plan.perform client now state).calls.map (·.call) = plan.callsWith replies := by
  induction plan generalizing now state with
  | finish result => exact ⟨rfl, rfl⟩
  | call request next ih =>
    have reply : (client.perform now request state).1.outcome = replies request :=
      given now request state
    obtain ⟨result, calls⟩ := ih (replies request)
      (now + (client.perform now request state).1.delay) (client.perform now request state).2
    simp only [perform, reply, resultWith, callsWith, List.map_cons]
    exact ⟨result, by rw [calls]⟩

end Plan

namespace Command

variable (replies : Replies) (wiki : String) (command : Command)

def callsWith : List EditCall :=
  (command.execution command.entityRef wiki).callsWith replies

def resultWith : CommandResult :=
  (settle ((command.execution command.entityRef wiki).resultWith replies)).getD
    (.failure .remote "run aborted" "")

@[simp] theorem resultWith_status (status : Status) :
    resultWith replies wiki { command with status } = command.resultWith replies wiki := by
  unfold resultWith
  rw [Execution.execution_status]

end Command

end EditBatch
