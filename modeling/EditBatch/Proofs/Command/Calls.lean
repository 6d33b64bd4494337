import EditBatch.Command.Execution

/-! What carrying out a command can do.

A plan keeps a contract if all its calls are of an allowed kind and its result is one of those
promised, provided that the answers to its calls are as assumed. This is read off the tree of
the plan, without a client, and then holds of every performance.
-/

set_option autoImplicit false

namespace EditBatch

abbrev Assumption := (call : EditCall) → Except CallFailure call.Reply → Prop

def EditClient.Meets {σ : Type} (assumed : Assumption) (client : EditClient σ) : Prop :=
  ∀ now call state, assumed call (client.perform now call state).1.outcome

namespace Plan

variable {σ α : Type}

-- The contract asks nothing of the branches for answers that are not as assumed: no performance
-- takes them.
def Keeps (assumed : Assumption) (allowed : EditCall → Prop) (promised : α → Prop) :
    Plan α → Prop
  | .finish result => promised result
  | .call request next =>
    allowed request ∧
      ∀ outcome, assumed request outcome → (next outcome).Keeps assumed allowed promised

theorem Keeps.perform {assumed : Assumption} {allowed : EditCall → Prop} {promised : α → Prop}
    {client : EditClient σ} {plan : Plan α} (keeps : plan.Keeps assumed allowed promised)
    (meets : client.Meets assumed) (now : Nat) (state : σ) :
    (∀ record ∈ (plan.perform client now state).calls, allowed record.call) ∧
      promised (plan.perform client now state).result := by
  induction plan generalizing now state with
  | finish result => exact ⟨by simp [Plan.perform], keeps⟩
  | call request next ih =>
    obtain ⟨isAllowed, rest⟩ := keeps
    have answered := meets now request state
    obtain ⟨later, result⟩ := ih _ (rest _ answered)
      (now + (client.perform now request state).1.delay) (client.perform now request state).2
    refine ⟨?_, result⟩
    intro record member
    rcases List.mem_cons.mp member with rfl | next
    · exact isAllowed
    · exact later record next

theorem Keeps.mono {assumed : Assumption} {allowed wider : EditCall → Prop}
    {promised : α → Prop} {plan : Plan α} (keeps : plan.Keeps assumed allowed promised)
    (included : ∀ call, allowed call → wider call) : plan.Keeps assumed wider promised := by
  induction plan with
  | finish result => exact keeps
  | call request next ih =>
    exact ⟨included request keeps.1, fun outcome given => ih outcome (keeps.2 outcome given)⟩

end Plan

/-- The item whose statements a call reads or adds to. -/
def EditCall.editedItem? : EditCall → Option String
  | .setStatement entity _ _ | .readStatements entity _ => some entity
  | .createEntity _ _ | .setLabel _ _ _ | .removeStatement _ => none

namespace Execution

/-- What the ends of an execution must fulfil so that it is kept, given the answers. -/
structure Ends (assumed : Assumption) (promised : Except Escape CommandResult → Prop) : Prop where
  failed : ∀ kind message code, promised (.ok (.failure kind message code))
  escaped : ∀ reason, promised (.error (.fault reason))
  fatal : ∀ call, assumed call (.error .fatal) → promised (.error .fatal)
  created : ∀ site page id, assumed (.createEntity site page) (.ok id) →
    promised (.ok (.success (some id)))

section

variable {assumed : Assumption} {promised : Except Escape CommandResult → Prop}

theorem Ends.failAt (ends : Ends assumed promised) (allowed : EditCall → Prop) {call : EditCall}
    {failure : CallFailure} (given : assumed call (.error failure)) :
    (failAt failure).Keeps assumed allowed promised := by
  cases failure with
  | remote message => exact ends.failed _ _ _
  | semantic code info => exact ends.failed _ _ _
  | fault reason => exact ends.escaped reason
  | fatal => exact ends.fatal call given

theorem Ends.create (ends : Ends assumed promised) (command : Command) (wiki : String) :
    (create command wiki).Keeps assumed (fun call => call.editedItem? = none) promised := by
  unfold Execution.create
  split
  · refine ⟨rfl, fun outcome given => ?_⟩
    cases outcome with
    | error failure => exact ends.failAt _ given
    | ok newId =>
      refine ⟨rfl, fun labelled answer => ?_⟩
      have made := ends.created _ _ newId given
      -- The item is there whether or not its label was taken.
      unfold afterLabel
      split
      · exact made
      · exact made
      · exact made
      · exact ends.failAt _ answer
      · exact ends.failAt _ answer
  · refine ⟨rfl, fun outcome given => ?_⟩
    cases outcome with
    | error failure => exact ends.failAt _ given
    | ok newId => exact ends.created _ _ newId given

theorem Ends.add (ends : Ends assumed promised) (edited : promised (.ok (.success none)))
    (command : Command) (ref : String) :
    (add command ref).Keeps assumed
      (fun call => ∀ entity, call.editedItem? = some entity → entity = ref) promised := by
  refine ⟨?_, fun outcome given => ?_⟩
  · rintro entity ⟨⟩
    rfl
  · cases outcome with
    | ok => exact edited
    | error failure => exact ends.failAt _ given

theorem Ends.delete (ends : Ends assumed promised) (edited : promised (.ok (.success none)))
    (command : Command) (ref : String) :
    (delete command ref).Keeps assumed
      (fun call => ∀ entity, call.editedItem? = some entity → entity = ref) promised := by
  refine ⟨?_, fun outcome given => ?_⟩
  · rintro entity ⟨⟩
    rfl
  · cases outcome with
    | error failure => exact ends.failAt _ given
    | ok statements =>
      simp only
      split
      · refine ⟨?_, fun outcome given => ?_⟩
        · rintro entity ⟨⟩
        · cases outcome with
          | ok => exact edited
          | error failure => exact ends.failAt _ given
      · exact edited

end

theorem execution_of_placeholder {command : Command} {ref : String} (wiki : String)
    (edits : command.mode ≠ .create) (isPlaceholder : Item.isPlaceholder ref = true) :
    command.execution ref wiki = .finish (.ok (neverCreated ref)) := by
  unfold Command.execution
  rw [if_pos (by simp [edits, isPlaceholder])]

theorem execution_of_create {command : Command} (ref wiki : String)
    (creates : command.mode = .create) :
    command.execution ref wiki = create command wiki := by
  unfold Command.execution
  rw [if_neg (by simp [creates]), creates]

theorem execution_status (command : Command) (status : Status) (ref wiki : String) :
    Command.execution { command with status } ref wiki = command.execution ref wiki := by
  -- The replies are told apart, for only then is what follows them the same on both sides.
  have sameCreate : create { command with status } wiki = create command wiki := by
    unfold create
    congr 2
    funext outcome
    cases outcome <;> rfl
  have sameDelete : delete { command with status } ref = delete command ref := by
    unfold delete
    congr 1
    funext outcome
    cases outcome <;> rfl
  unfold Command.execution
  rw [sameCreate, sameDelete]
  rfl

/-- Every execution edits nothing but the item that its ref names, and no placeholder. -/
theorem Ends.execution {assumed : Assumption} {promised : Except Escape CommandResult → Prop}
    (ends : Ends assumed promised) (edited : promised (.ok (.success none)))
    (unknown : ∀ name, promised (.error (.unknownMode name))) (command : Command)
    (ref wiki : String) :
    (command.execution ref wiki).Keeps assumed
      (fun call => ∀ entity, call.editedItem? = some entity →
        entity = ref ∧ Item.isPlaceholder ref = false) promised := by
  by_cases guard : command.mode ≠ .create ∧ Item.isPlaceholder ref = true
  · rw [execution_of_placeholder wiki guard.1 guard.2]
    exact ends.failed _ _ _
  · unfold Command.execution
    rw [if_neg (by simpa using guard)]
    cases mode : command.mode with
    | create =>
      refine (ends.create command wiki).mono fun call off entity edited => ?_
      simp [off] at edited
    | add =>
      have real : Item.isPlaceholder ref = false := by simpa [mode] using guard
      exact (ends.add edited command ref).mono fun call onRef entity edited =>
        ⟨onRef entity edited, real⟩
    | delete =>
      have real : Item.isPlaceholder ref = false := by simpa [mode] using guard
      exact (ends.delete edited command ref).mono fun call onRef entity edited =>
        ⟨onRef entity edited, real⟩
    | other name => exact unknown name

/-! ## Assumptions -/

theorem ends_anyhow : Ends (fun _ _ => True) fun _ => True :=
  ⟨fun _ _ _ => trivial, fun _ => trivial, fun _ _ => trivial, fun _ _ _ _ => trivial⟩

/-- New items have ids that can be told from nothing and from placeholders. -/
def NamesItems : Assumption
  | .createEntity _ _, .ok id => id ≠ "" ∧ Item.isPlaceholder id = false
  | _, _ => True

def GivesItem (result : Except Escape CommandResult) : Prop :=
  ∀ newId?, result = .ok (.success newId?) →
    ∃ id, newId? = some id ∧ id ≠ "" ∧ Item.isPlaceholder id = false

theorem ends_named : Ends NamesItems GivesItem := by
  constructor
  · intro kind message code newId? success
    simp at success
  · intro reason newId? success
    simp at success
  · intro call given newId? success
    simp at success
  · rintro site page id named newId? ⟨⟩
    exact ⟨id, rfl, named⟩

def Recovers : Assumption := fun _ outcome => outcome ≠ .error .fatal

theorem ends_recovering : Ends Recovers (· ≠ .error .fatal) := by
  constructor
  · simp
  · simp
  · exact fun call given => absurd rfl given
  · simp

theorem settle_eq_none_iff (result : Except Escape CommandResult) :
    settle result = none ↔ result = .error .fatal := by
  unfold settle
  split <;> simp

end Execution

end EditBatch
