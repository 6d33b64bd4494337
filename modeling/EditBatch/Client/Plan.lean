import EditBatch.Client.Basic

/-! Calls that follow one another, each chosen by the answers to the earlier ones. -/

set_option autoImplicit false

namespace EditBatch

inductive Plan (α : Type) where
  | finish (result : α)
  | call (request : EditCall) (next : Except CallFailure request.Reply → Plan α)

/-- What came of a plan: its result, the calls made, the time at which the last one was
answered, and the state in which the client is left. -/
structure Performance (σ α : Type) where
  result : α
  calls : List CallRecord
  endsAt : Nat
  client : σ

namespace Plan

variable {σ α β : Type}

def perform (client : EditClient σ) (now : Nat) (state : σ) : Plan α → Performance σ α
  | .finish result => ⟨result, [], now, state⟩
  | .call request next =>
    let (answer, state) := client.perform now request state
    let rest := (next answer.outcome).perform client (now + answer.delay) state
    { rest with calls := ⟨now, request⟩ :: rest.calls }

def map (f : α → β) : Plan α → Plan β
  | .finish result => .finish (f result)
  | .call request next => .call request fun outcome => (next outcome).map f

theorem now_le_endsAt (client : EditClient σ) (plan : Plan α) (now : Nat) (state : σ) :
    now ≤ (plan.perform client now state).endsAt := by
  induction plan generalizing now state with
  | finish result => exact Nat.le_refl _
  | call request next ih =>
    simp only [perform]
    exact Nat.le_trans (Nat.le_add_right _ _) (ih _ _ _)

end Plan

end EditBatch
