import EditBatch.Proofs.Command.Calls
import EditBatch.Wiki.Client

/-! What can come of the calls of the client that edits Wikidata.

Whatever a server responds, no call fails in a way that nothing recovers from, and a creation that
is accepted gives an id in its normal form.
-/

set_option autoImplicit false

namespace EditBatch

namespace Item

def IsNormal (id : String) : Prop :=
  ∃ digits : List Char, isNumber digits = true ∧ id = String.ofList ('Q' :: digits)

theorem isNormal_of_normalizeId {text id : String} (read : normalizeId text = .ok id) :
    IsNormal id := by
  simp only [normalizeId, normalizeId?] at read
  split at read
  next normal found =>
    split at found
    next number =>
      cases read
      cases found
      exact ⟨_, number, rfl⟩
    next => simp at found
  next => simp at read

theorem IsNormal.ne_empty {id : String} (normal : IsNormal id) : id ≠ "" := by
  obtain ⟨digits, -, rfl⟩ := normal
  intro empty
  simpa using congrArg String.toList empty

theorem IsNormal.isPlaceholder {id : String} (normal : IsNormal id) : isPlaceholder id = false := by
  obtain ⟨digits, -, rfl⟩ := normal
  rw [Item.isPlaceholder, String.toList_ofList]
  have stem : placeholderStem.toList = 'c' :: "reate_item_".toList := by decide +kernel
  rw [stem, List.isPrefixOf_cons_cons]
  simp

end Item

namespace Execution

def NumbersItems : Assumption
  | .createEntity _ _, .ok id => Item.IsNormal id
  | _, _ => True

end Execution

namespace Wiki

open Execution

namespace EditProxy

theorem complaint_ne_fatal (action : Action) (error : Json) : complaint action error ≠ .fatal := by
  unfold complaint failure
  split
  · split
    · split <;> simp
    · simp
  · simp

theorem accepted_ne_fatal (action : Action) (outcome : Http.Outcome) :
    accepted action outcome ≠ .error .fatal := by
  unfold accepted failure
  split
  · simp
  · simp
  · simp
  · simp only
    split
    · simp
    · simpa using complaint_ne_fatal action _
  · simp

theorem createdId_ne_fatal (answer : Json) : createdId answer ≠ .error .fatal := by
  unfold createdId
  simp only
  split
  · split <;> simp
  · simp

theorem isNormal_of_createdId {answer : Json} {id : String} (created : createdId answer = .ok id) :
    Item.IsNormal id := by
  unfold createdId at created
  simp only at created
  split at created
  · split at created
    next normal read =>
      cases created
      exact Item.isNormal_of_normalizeId read
    next => simp at created
  · simp at created

end EditProxy

theorem Statements.read_ne_fatal (entity prop : String) (outcome : Http.Outcome) :
    read entity prop outcome ≠ .error .fatal := by
  unfold read ofReply
  split
  · simp
  · simp
  · simp
  · split
    · simp
    · simp only
      split
      · simp
      · split <;> simp

theorem bind_ne_fatal {α β : Type} {first : Except CallFailure α} {next : α → Except CallFailure β}
    (one : first ≠ .error .fatal) (other : ∀ value, next value ≠ .error .fatal) :
    (first >>= next) ≠ .error .fatal := by
  cases first with
  | error failure => simpa [bind, Except.bind] using one
  | ok value => exact other value

theorem replyOf_ne_fatal (outcome : Http.Outcome) (call : EditCall) :
    replyOf outcome call ≠ .error .fatal := by
  cases call with
  | createEntity =>
    exact bind_ne_fatal (EditProxy.accepted_ne_fatal _ _) EditProxy.createdId_ne_fatal
  | setLabel | setStatement | removeStatement =>
    exact bind_ne_fatal (EditProxy.accepted_ne_fatal _ _) fun _ => by simp [pure, Except.pure]
  | readStatements entity prop => exact Statements.read_ne_fatal entity prop outcome

theorem replyOf_of_fault {outcome : Http.Outcome} {reason : Fault}
    (fault : Http.document outcome = .error (.fault reason)) (call : EditCall) :
    replyOf outcome call = .error (.fault reason) := by
  cases call with
  | readStatements entity prop => simp only [replyOf, Statements.read, fault]
  | _ => simp only [replyOf, EditProxy.accepted, fault, bind, Except.bind]

theorem document_of_tooDeep {body : Http.Body} {kind : String}
    (tooDeep : body.document = .error (.tooDeep kind)) :
    Http.document (.ok ⟨200, body⟩) = .error (.fault (.tooDeep kind)) := by
  have success : Http.isSuccess 200 = true := by decide
  simp only [Http.document, success, tooDeep, if_true]

variable {σ : Type} (endpoints : Endpoints) (server : Http.Server σ)

theorem send_eq {request : Http.Request} {url : Http.Url}
    (read : Http.Url.read? request.url = some url) (named : url.namesServer = true)
    (short : (Http.queryOf request.params).length ≤ Http.lengthLimit) (now : Nat) (state : σ) :
    server.send now request state = server.answer now { request with url := url.text } state := by
  simp only [Http.Server.send, read, if_neg (Nat.not_lt.mpr short), if_pos named]

theorem client_recovers : (client endpoints server).Meets Recovers :=
  fun _ call _ => replyOf_ne_fatal _ call

theorem client_numbersItems : (client endpoints server).Meets NumbersItems := by
  intro now call state
  cases call with
  | createEntity site page =>
    simp only [client, replyOf]
    generalize (server.send now _ state).1.outcome = outcome
    cases accepted : EditProxy.accepted (EditProxy.createItem site page) outcome with
    | error failure => trivial
    | ok answer =>
      cases created : EditProxy.createdId answer with
      | error failure => simp [NumbersItems, bind, Except.bind, created]
      | ok id => simpa [NumbersItems, bind, Except.bind, created] using
          EditProxy.isNormal_of_createdId created
  | _ => trivial

theorem client_namesItems : (client endpoints server).Meets NamesItems := by
  intro now call state
  have numbered := client_numbersItems endpoints server now call state
  generalize ((client endpoints server).perform now call state).1.outcome = outcome at numbered ⊢
  cases call with
  | createEntity =>
    cases outcome with
    | error => trivial
    | ok id => exact ⟨numbered.ne_empty, numbered.isPlaceholder⟩
  | _ => trivial

end Wiki

end EditBatch
