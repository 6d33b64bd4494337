import EditBatch.Proofs.Command.Calls

/-! What was answered to the calls of a command.

A performance tells which calls were made and what came of them all. Its exchanges tell the answers
as well, so that the id that a creation was given can be followed to the result. It gets lost on the
way if and only if the failure of a label escapes.
-/

set_option autoImplicit false

namespace EditBatch

structure Exchange where
  call : EditCall
  outcome : Except CallFailure call.Reply

namespace Exchange

def newId? : Exchange → Option String
  | ⟨.createEntity _ _, .ok id⟩ => some id
  | _ => none

theorem newId?_eq_some_iff {exchange : Exchange} {id : String} :
    exchange.newId? = some id ↔
      ∃ site page, exchange = ⟨.createEntity site page, .ok id⟩ := by
  unfold newId?
  split
  next site page made => simp
  next other =>
    constructor
    · simp
    · rintro ⟨site, page, rfl⟩
      exact absurd rfl (other site page id)

/-- The failure of a label that the creation of its item does not recover from. -/
def labelEscape? : Exchange → Option Escape
  | ⟨.setLabel _ _ _, .error (.fault reason)⟩ => some (.fault reason)
  | ⟨.setLabel _ _ _, .error .fatal⟩ => some .fatal
  | _ => none

end Exchange

namespace Plan

variable {σ α : Type}

/-- The calls of a plan that begins at the given time, each with its answer. -/
def exchanges (client : EditClient σ) (now : Nat) (state : σ) : Plan α → List Exchange
  | .finish _ => []
  | .call request next =>
    let (answer, state) := client.perform now request state
    ⟨request, answer.outcome⟩ :: (next answer.outcome).exchanges client (now + answer.delay) state

theorem map_call_exchanges (client : EditClient σ) (plan : Plan α) (now : Nat) (state : σ) :
    (plan.exchanges client now state).map (·.call) =
      (plan.perform client now state).calls.map (·.call) := by
  induction plan generalizing now state with
  | finish result => rfl
  | call request next ih => simp only [exchanges, perform, List.map_cons, ih]

theorem exchanges_meet {assumed : Assumption} {client : EditClient σ} (meets : client.Meets assumed)
    (plan : Plan α) (now : Nat) (state : σ) :
    ∀ exchange ∈ plan.exchanges client now state, assumed exchange.call exchange.outcome := by
  induction plan generalizing now state with
  | finish result => simp [exchanges]
  | call request next ih =>
    intro exchange member
    rcases List.mem_cons.mp member with rfl | later
    · exact meets now request state
    · exact ih _ _ _ exchange later

theorem of_answered {client : EditClient σ} {now : Nat} {state : σ} {request : EditCall}
    {next : Except CallFailure request.Reply → Plan α} (Holds : List Exchange → α → Prop)
    (answered : ∀ outcome moment after,
      Holds (⟨request, outcome⟩ :: (next outcome).exchanges client moment after)
        ((next outcome).perform client moment after).result) :
    Holds ((Plan.call request next).exchanges client now state)
      ((Plan.call request next).perform client now state).result :=
  answered _ _ _

end Plan

namespace Execution

/-- The id of the item that a command created, unless the failure of its label escaped. -/
def createdId? (exchanges : List Exchange) : Option String :=
  match exchanges.findSome? Exchange.labelEscape? with
  | none => exchanges.findSome? Exchange.newId?
  | some _ => none

variable {σ : Type} (client : EditClient σ) (now : Nat) (state : σ)

theorem exchanges_failAt (failure : CallFailure) :
    (failAt failure).exchanges client now state = [] := by
  cases failure <;> rfl

theorem result_failAt_ne_success (failure : CallFailure) (newId? : Option String) :
    ((failAt failure).perform client now state).result ≠ .ok (.success newId?) := by
  cases failure <;> simp [failAt, Plan.perform]

theorem newId?_failAt {exchange : Exchange} (uncreated : exchange.newId? = none)
    (failure : CallFailure) :
    (exchange :: (failAt failure).exchanges client now state).findSome? Exchange.newId? = none := by
  rw [exchanges_failAt]
  simp [uncreated]

/-- What a creation comes to, as the answers have it: success with the id of the new item, unless the
failure of its label escapes. -/
structure Creates (exchanges : List Exchange) (result : Except Escape CommandResult) : Prop where
  created : ∀ id, exchanges.findSome? Exchange.newId? = some id →
    result = match exchanges.findSome? Exchange.labelEscape? with
      | none => .ok (.success (some id))
      | some escape => .error escape
  uncreated : exchanges.findSome? Exchange.newId? = none →
    ∀ newId?, result ≠ .ok (.success newId?)

theorem Creates.failAt {exchange : Exchange} (uncreated : exchange.newId? = none)
    (failure : CallFailure) :
    Creates (exchange :: (failAt failure).exchanges client now state)
      ((failAt failure).perform client now state).result := by
  refine ⟨?_, fun _ => result_failAt_ne_success client now state failure⟩
  simp [newId?_failAt client now state uncreated failure]

theorem creates_create (command : Command) (wiki : String) :
    Creates ((create command wiki).exchanges client now state)
      ((create command wiki).perform client now state).result := by
  unfold create
  split
  · refine Plan.of_answered Creates fun outcome moment after => ?_
    cases outcome with
    | error failure => exact .failAt client moment after rfl failure
    | ok newId =>
      refine Plan.of_answered
        (fun exchanges => Creates (⟨.createEntity none none, .ok newId⟩ :: exchanges))
        fun outcome moment after => ?_
      refine ⟨?_, by simp [Exchange.newId?]⟩
      rintro id ⟨⟩
      -- No call follows the label.
      cases outcome with
      | ok => rfl
      | error failure => cases failure <;> rfl
  · refine Plan.of_answered Creates fun outcome moment after => ?_
    cases outcome with
    | error failure => exact .failAt client moment after rfl failure
    | ok newId =>
      refine ⟨?_, by simp [Exchange.newId?]⟩
      rintro id ⟨⟩
      rfl

theorem newId?_execution {command : Command} (edits : command.mode ≠ .create) (ref wiki : String) :
    ((command.execution ref wiki).exchanges client now state).findSome? Exchange.newId? = none := by
  unfold Command.execution
  split
  · rfl
  · cases mode : command.mode with
    | create => exact absurd mode edits
    | add =>
      refine Plan.of_answered (fun exchanges _ => exchanges.findSome? Exchange.newId? = none)
        fun outcome moment after => ?_
      cases outcome with
      | ok => rfl
      | error failure => exact newId?_failAt client moment after rfl failure
    | delete =>
      refine Plan.of_answered (fun exchanges _ => exchanges.findSome? Exchange.newId? = none)
        fun outcome moment after => ?_
      cases outcome with
      | error failure => exact newId?_failAt client moment after rfl failure
      | ok statements =>
        simp only [List.findSome?_cons, Exchange.newId?]
        split
        · refine Plan.of_answered (fun exchanges _ => exchanges.findSome? Exchange.newId? = none)
            fun outcome moment after => ?_
          cases outcome with
          | ok => rfl
          | error failure => exact newId?_failAt client moment after rfl failure
        · rfl
    | other name => rfl

end Execution

end EditBatch
