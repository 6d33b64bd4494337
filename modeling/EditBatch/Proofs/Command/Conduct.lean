import EditBatch.Proofs.Command.Exchanges

/-! How a command is carried out, call by call.

With a client that fails in no other way than by remote failures and refusals, every command comes
to a result. Its mode determines the calls, and the first one that fails is the last one made. What
was answered determines the result, where the answer about a label does not count.
-/

set_option autoImplicit false

namespace EditBatch

namespace Exchange

def setback? : Exchange → Option CallFailure
  | ⟨.setLabel _ _ _, _⟩ => none
  | ⟨_, .ok _⟩ => none
  | ⟨_, .error failure⟩ => some failure

end Exchange

namespace Plan

variable {σ α : Type}

/-- Whatever is answered within an assumption, the exchanges and the result of a plan are
related. -/
def Yields (assumed : Assumption) (Holds : List Exchange → α → Prop) : Plan α → Prop
  | .finish result => Holds [] result
  | .call request next =>
    ∀ outcome, assumed request outcome →
      (next outcome).Yields assumed fun later => Holds (⟨request, outcome⟩ :: later)

theorem Yields.perform {assumed : Assumption} {Holds : List Exchange → α → Prop}
    {client : EditClient σ} {plan : Plan α} (yields : plan.Yields assumed Holds)
    (meets : client.Meets assumed) (now : Nat) (state : σ) :
    Holds (plan.exchanges client now state) (plan.perform client now state).result := by
  induction plan generalizing Holds now state with
  | finish result => exact yields
  | call request next ih => exact ih _ (yields _ (meets now request state)) _ _

end Plan

namespace Execution

def FailsPlainly : Assumption := fun _ outcome =>
  ∀ failure, outcome = .error failure →
    (∃ message, failure = .remote message) ∨ ∃ code info, failure = .semantic code info

def Orphaned (command : Command) (ref : String) : Prop :=
  command.mode ≠ .create ∧ Item.isPlaceholder ref = true

def Passes (command : Command) (statement : Statement) : Prop :=
  command.value = none ∨ statement.value = command.value

/-- The calls that carry out a command, as far as the answers let them come. -/
inductive Makes (command : Command) (ref wiki : String) : List Exchange → Prop where
  | nothing : Orphaned command ref → Makes command ref wiki []
  | linked {outcome : Except CallFailure String} :
      command.mode = .create → command.fromRedlink = false →
      Makes command ref wiki [⟨.createEntity (some wiki) (some command.page), outcome⟩]
  | unborn {failure : CallFailure} : command.mode = .create → command.fromRedlink = true →
      Makes command ref wiki [⟨.createEntity none none, .error failure⟩]
  | labelled {newId : String} {outcome : Except CallFailure Unit} :
      command.mode = .create → command.fromRedlink = true →
      Makes command ref wiki
        [⟨.createEntity none none, .ok newId⟩,
          ⟨.setLabel newId (Wiki.labelLanguage wiki) (Wiki.pageLabel command.page), outcome⟩]
  | added {outcome : Except CallFailure Unit} :
      command.mode = .add → Item.isPlaceholder ref = false →
      Makes command ref wiki [⟨.setStatement ref command.prop (command.value.getD ""), outcome⟩]
  | unread {failure : CallFailure} : command.mode = .delete → Item.isPlaceholder ref = false →
      Makes command ref wiki [⟨.readStatements ref command.prop, .error failure⟩]
  | unmatched {statements : List Statement} :
      command.mode = .delete → Item.isPlaceholder ref = false →
      (∀ statement ∈ statements, ¬ Passes command statement) →
      Makes command ref wiki [⟨.readStatements ref command.prop, .ok statements⟩]
  | removed {before after : List Statement} {statement : Statement}
      {outcome : Except CallFailure Unit} :
      command.mode = .delete → Item.isPlaceholder ref = false →
      (∀ earlier ∈ before, ¬ Passes command earlier) → Passes command statement →
      Makes command ref wiki
        [⟨.readStatements ref command.prop, .ok (before ++ statement :: after)⟩,
          ⟨.removeStatement statement.id, outcome⟩]

/-- A failed result with the kind, the text and the code of a failed call. -/
inductive Reports : CallFailure → CommandResult → Prop where
  | remote (message : String) : Reports (.remote message) (.failure .remote message "")
  | semantic (code info : String) :
      Reports (.semantic code info) (.failure .semantic (semanticMessage code info) code)

/-- A command is carried out by its calls, and its result is what the answers come to. -/
structure Conducted (command : Command) (ref wiki : String) (exchanges : List Exchange)
    (result : CommandResult) : Prop where
  makes : Makes command ref wiki exchanges
  failed : result.isOk = false ↔
    Orphaned command ref ∨ ∃ exchange ∈ exchanges, exchange.setback?.isSome = true
  orphaned : Orphaned command ref →
    result = .failure .semantic (ref ++ " was never created") "unresolved-placeholder"
  reported : ∀ exchange ∈ exchanges, ∀ failure, exchange.setback? = some failure →
    Reports failure result
  succeeded : ∀ newId?, result = .success newId? → newId? = exchanges.findSome? Exchange.newId?

def Conducts (command : Command) (ref wiki : String) (exchanges : List Exchange)
    (result : Except Escape CommandResult) : Prop :=
  ∃ told, result = .ok told ∧ Conducted command ref wiki exchanges told

section

variable {command : Command} {ref wiki : String}

theorem conducts_failAt (before : List Exchange) {last : Exchange} {failure : CallFailure}
    (plain : (∃ message, failure = .remote message) ∨ ∃ code info, failure = .semantic code info)
    (makes : Makes command ref wiki (before ++ [last])) (real : ¬ Orphaned command ref)
    (smooth : ∀ exchange ∈ before, exchange.setback? = none)
    (fails : last.setback? = some failure) :
    (failAt failure).Yields FailsPlainly fun later =>
      Conducts command ref wiki (before ++ last :: later) := by
  -- No call before the last one failed, so that there is one failure to report.
  have only {exchange : Exchange} {reason : CallFailure} (among : exchange ∈ before ++ [last])
      (setback : exchange.setback? = some reason) : reason = failure := by
    rcases List.mem_append.mp among with earlier | is
    · simp [smooth exchange earlier] at setback
    · rw [List.mem_singleton.mp is, fails] at setback
      exact (Option.some.inj setback).symm
  have failed : Orphaned command ref ∨
      ∃ exchange ∈ before ++ [last], exchange.setback?.isSome = true :=
    .inr ⟨last, by simp, by simp [fails]⟩
  obtain ⟨message, rfl⟩ | ⟨code, info, rfl⟩ := plain
  · refine ⟨_, rfl, makes, iff_of_true rfl failed, fun orphaned => absurd orphaned real, ?_, ?_⟩
    · intro exchange among reason setback
      rw [only among setback]
      exact .remote message
    · simp
  · refine ⟨_, rfl, makes, iff_of_true rfl failed, fun orphaned => absurd orphaned real, ?_, ?_⟩
    · intro exchange among reason setback
      rw [only among setback]
      exact .semantic code info
    · simp

theorem conducts_succeed {exchanges : List Exchange} (newId? : Option String)
    (makes : Makes command ref wiki exchanges) (real : ¬ Orphaned command ref)
    (smooth : ∀ exchange ∈ exchanges, exchange.setback? = none)
    (given : newId? = exchanges.findSome? Exchange.newId?) :
    (succeed newId?).Yields FailsPlainly fun later =>
      Conducts command ref wiki (exchanges ++ later) := by
  refine ⟨_, rfl, by simpa using makes, ?_, fun orphaned => absurd orphaned real, ?_, ?_⟩
  · refine iff_of_false (by simp [CommandResult.isOk]) ?_
    rintro (orphaned | ⟨exchange, among, setback⟩)
    · exact real orphaned
    · simp [smooth exchange (by simpa using among)] at setback
  · intro exchange among failure setback
    simp [smooth exchange (by simpa using among)] at setback
  · rintro _ ⟨⟩
    simpa using given

theorem afterLabel_of_plain {newId : String} {outcome : Except CallFailure Unit}
    (plainly : ∀ failure, outcome = .error failure →
      (∃ message, failure = .remote message) ∨ ∃ code info, failure = .semantic code info) :
    afterLabel newId outcome = succeed (some newId) := by
  cases outcome with
  | ok => rfl
  | error failure =>
    obtain ⟨message, rfl⟩ | ⟨code, info, rfl⟩ := plainly failure rfl
    · rfl
    · rfl

theorem conducts_create (ref wiki : String) (creates : command.mode = .create) :
    (create command wiki).Yields FailsPlainly (Conducts command ref wiki) := by
  have real : ¬ Orphaned command ref := fun orphaned => orphaned.1 creates
  unfold create
  split
  next blank =>
    -- The item is there before it is labelled, so that only the first answer decides.
    rintro (failure | newId) plainly
    · exact conducts_failAt [] (plainly failure rfl) (.unborn creates blank) real
        (by simp) rfl
    · intro outcome plainly
      rw [afterLabel_of_plain plainly]
      exact conducts_succeed (some newId) (.labelled creates blank) real
        (by simp [Exchange.setback?]) rfl
  next linked =>
    have linked : command.fromRedlink = false := by simpa using linked
    rintro (failure | newId) plainly
    · exact conducts_failAt [] (plainly failure rfl) (.linked creates linked) real
        (by simp) rfl
    · exact conducts_succeed (some newId) (.linked creates linked) real
        (by simp [Exchange.setback?]) rfl

theorem not_orphaned (command : Command) {ref : String} (named : Item.isPlaceholder ref = false) :
    ¬ Orphaned command ref := by
  simp [Orphaned, named]

theorem conducts_add {ref : String} (wiki : String) (adds : command.mode = .add)
    (named : Item.isPlaceholder ref = false) :
    (add command ref).Yields FailsPlainly (Conducts command ref wiki) := by
  have real := not_orphaned command named
  rintro (failure | ⟨⟩) plainly
  · exact conducts_failAt [] (plainly failure rfl) (.added adds named) real
      (by simp) rfl
  · exact conducts_succeed none (.added adds named) real (by simp [Exchange.setback?]) rfl

theorem selects_iff {statement : Statement} :
    selects command statement = true ↔ Passes command statement := by
  simp [selects, Passes]

theorem conducts_delete {ref : String} (wiki : String) (deletes : command.mode = .delete)
    (named : Item.isPlaceholder ref = false) :
    (delete command ref).Yields FailsPlainly (Conducts command ref wiki) := by
  have real := not_orphaned command named
  rintro (failure | statements) plainly
  · exact conducts_failAt [] (plainly failure rfl) (.unread deletes named) real
      (by simp) rfl
  · simp only
    split
    next statement found =>
      obtain ⟨passes, before, after, rfl, fail⟩ := List.find?_eq_some_iff_append.mp found
      have fail : ∀ earlier ∈ before, ¬ Passes command earlier := fun earlier among =>
        mt selects_iff.mpr (by simpa using fail earlier among)
      have passes := selects_iff.mp passes
      rintro (failure | ⟨⟩) plainly
      · exact conducts_failAt [_] (plainly failure rfl)
          (.removed deletes named fail passes) real (by simp [Exchange.setback?]) rfl
      · exact conducts_succeed none (.removed deletes named fail passes) real
          (by simp [Exchange.setback?]) rfl
    next unfound =>
      have fail : ∀ statement ∈ statements, ¬ Passes command statement := fun statement among =>
        mt selects_iff.mpr (List.find?_eq_none.mp unfound statement among)
      exact conducts_succeed none (.unmatched deletes named fail) real
        (by simp [Exchange.setback?]) rfl

theorem conducts_execution (known : ∀ name, command.mode ≠ .other name) (ref wiki : String) :
    (command.execution ref wiki).Yields FailsPlainly (Conducts command ref wiki) := by
  -- A placeholder is refused before any call, whatever the edit.
  by_cases orphaned : Orphaned command ref
  · rw [execution_of_placeholder wiki orphaned.1 orphaned.2]
    exact ⟨_, rfl, .nothing orphaned, iff_of_true rfl (.inl orphaned), fun _ => rfl, by simp,
      by simp [neverCreated]⟩
  · unfold Command.execution
    rw [if_neg (by simpa [Orphaned] using orphaned)]
    have named (edits : command.mode ≠ .create) : Item.isPlaceholder ref = false := by
      simpa using fun placeholder => orphaned ⟨edits, placeholder⟩
    cases mode : command.mode with
    | create => exact conducts_create ref wiki mode
    | add => exact conducts_add wiki mode (named (by simp [mode]))
    | delete => exact conducts_delete wiki mode (named (by simp [mode]))
    | other name => exact absurd mode (known name)

/-! ## Whatever is answered -/

theorem yields_failAt {assumed : Assumption} {Holds : List Exchange → Prop} (holds : Holds [])
    (failure : CallFailure) : (failAt failure).Yields assumed fun later _ => Holds later := by
  cases failure <;> exact holds

theorem makes_create (ref wiki : String) (creates : command.mode = .create) :
    (create command wiki).Yields (fun _ _ => True)
      fun exchanges _ => Makes command ref wiki exchanges := by
  unfold create
  split
  next blank =>
    rintro (failure | newId) -
    · exact yields_failAt (.unborn creates blank) failure
    · rintro (failure | ⟨⟩) -
      · cases failure <;> exact .labelled creates blank
      · exact .labelled creates blank
  next linked =>
    have linked : command.fromRedlink = false := by simpa using linked
    rintro (failure | newId) -
    · exact yields_failAt (.linked creates linked) failure
    · exact .linked creates linked

theorem makes_delete {ref : String} (wiki : String) (deletes : command.mode = .delete)
    (named : Item.isPlaceholder ref = false) :
    (delete command ref).Yields (fun _ _ => True)
      fun exchanges _ => Makes command ref wiki exchanges := by
  rintro (failure | statements) -
  · exact yields_failAt (.unread deletes named) failure
  · simp only
    split
    next statement found =>
      obtain ⟨passes, before, after, rfl, fail⟩ := List.find?_eq_some_iff_append.mp found
      have removed (outcome : Except CallFailure Unit) : Makes command ref wiki
          [⟨.readStatements ref command.prop, .ok (before ++ statement :: after)⟩,
            ⟨.removeStatement statement.id, outcome⟩] :=
        .removed deletes named
          (fun earlier among => mt selects_iff.mpr (by simpa using fail earlier among))
          (selects_iff.mp passes)
      rintro (failure | ⟨⟩) -
      · exact yields_failAt (removed (.error failure)) failure
      · exact removed (.ok ())
    next unfound =>
      exact .unmatched deletes named fun statement among =>
        mt selects_iff.mpr (List.find?_eq_none.mp unfound statement among)

/-- The calls of a command of a known mode are those of its mode, also where one of them fails in a
way that escapes. -/
theorem makes_execution (known : ∀ name, command.mode ≠ .other name) (ref wiki : String) :
    (command.execution ref wiki).Yields (fun _ _ => True)
      fun exchanges _ => Makes command ref wiki exchanges := by
  by_cases orphaned : Orphaned command ref
  · rw [execution_of_placeholder wiki orphaned.1 orphaned.2]
    exact .nothing orphaned
  · unfold Command.execution
    rw [if_neg (by simpa [Orphaned] using orphaned)]
    have named (edits : command.mode ≠ .create) : Item.isPlaceholder ref = false := by
      simpa using fun placeholder => orphaned ⟨edits, placeholder⟩
    cases mode : command.mode with
    | create => exact makes_create ref wiki mode
    | add =>
      have added {outcome : Except CallFailure Unit} : Makes command ref wiki
          [⟨.setStatement ref command.prop (command.value.getD ""), outcome⟩] :=
        .added mode (named (by simp [mode]))
      rintro (failure | ⟨⟩) -
      · exact yields_failAt added failure
      · exact added
    | delete => exact makes_delete wiki mode (named (by simp [mode]))
    | other name => exact absurd mode (known name)

theorem makes_exchanges {σ : Type} (known : ∀ name, command.mode ≠ .other name)
    (ref wiki : String) (client : EditClient σ) (now : Nat) (state : σ) :
    Makes command ref wiki ((command.execution ref wiki).exchanges client now state) :=
  (makes_execution known ref wiki).perform (fun _ _ _ => trivial) now state

theorem creates_of_createEntity {σ : Type} {ref wiki : String} {client : EditClient σ} {now : Nat}
    {state : σ} {site page : Option String}
    (called : .createEntity site page ∈
      ((command.execution ref wiki).exchanges client now state).map (·.call)) :
    command.mode = .create := by
  by_cases known : ∀ name, command.mode ≠ .other name
  · have makes := makes_exchanges known ref wiki client now state
    generalize (command.execution ref wiki).exchanges client now state = exchanges at makes called
    cases makes with
    | linked creates => exact creates
    | unborn creates => exact creates
    | labelled creates => exact creates
    | _ => simp at called
  · obtain ⟨name, mode⟩ : ∃ name, command.mode = .other name := by simpa using known
    have none : (command.execution ref wiki).exchanges client now state = [] := by
      unfold Command.execution
      split
      · rfl
      · simp only [mode]
        rfl
    simp [none] at called

end

/-- A command of a known mode is carried out by the calls of that mode, in their order and each at
most once, and comes to a result. That is a failure if and only if the command edits an item that
does not exist or one of the calls failed, other than that of a label, and tells which failure it
was. A success has the id of the item that was created, and none otherwise. -/
theorem carried_out_as_told {σ : Type} (client : EditClient σ) (meets : client.Meets FailsPlainly)
    {command : Command} (known : ∀ name, command.mode ≠ .other name) (ref wiki : String)
    (now : Nat) (state : σ) :
    ∃ result,
      ((command.execution ref wiki).perform client now state).result = .ok result ∧
      ((command.execution ref wiki).perform client now state).calls.map (·.call) =
        ((command.execution ref wiki).exchanges client now state).map (·.call) ∧
      Conducted command ref wiki ((command.execution ref wiki).exchanges client now state)
        result := by
  obtain ⟨result, told, conducted⟩ := (conducts_execution known ref wiki).perform meets now state
  exact ⟨result, told, (Plan.map_call_exchanges client _ now state).symm, conducted⟩

def shelf : List Statement :=
  [⟨.str "Q1$a", some "Q5"⟩, ⟨.str "Q1$b", some "Q6"⟩, ⟨.str "Q1$c", some "Q6"⟩]

def keeping : EditClient Unit where
  perform
    | _, .createEntity _ _, _ => (⟨.ok "Q101", 3⟩, ())
    | _, .setLabel _ _ _, _ => (⟨.error (.remote "timeout"), 3⟩, ())
    | _, .setStatement _ _ _, _ => (⟨.ok (), 3⟩, ())
    | _, .readStatements _ _, _ => (⟨.ok shelf, 3⟩, ())
    | _, .removeStatement _, _ => (⟨.error (.semantic "protected" "ask first"), 3⟩, ())

def removal : Command :=
  { id := 0, entityRef := "Q1", mode := .delete, prop := "P31", value := some "Q6" }

theorem keeping_failsPlainly : keeping.Meets FailsPlainly := by
  intro now call state
  cases call <;> simp [keeping, FailsPlainly]

theorem carried_out_as_told_refused :
    keeping.Meets FailsPlainly ∧ (∀ name, removal.mode ≠ .other name) ∧
      Conducted removal "Q1" "enwiki"
        [⟨.readStatements "Q1" "P31", .ok shelf⟩,
          ⟨.removeStatement (.str "Q1$b"), .error (.semantic "protected" "ask first")⟩]
        (.failure .semantic "protected: ask first" "protected") := by
  have known : ∀ name, removal.mode ≠ .other name := by simp [removal]
  obtain ⟨result, told, -, conducted⟩ :=
    carried_out_as_told keeping keeping_failsPlainly known "Q1" "enwiki" 0 ()
  have comes : ((removal.execution "Q1" "enwiki").perform keeping 0 ()).result =
      .ok (.failure .semantic "protected: ask first" "protected") := by
    rfl
  cases told.symm.trans comes
  exact ⟨keeping_failsPlainly, known, conducted⟩

end Execution

end EditBatch
