import EditBatch.Command.Execution
import EditBatch.Proofs.Row.Grouping
import EditBatch.Proofs.Wiki.Documents
import EditBatch.Proofs.Wiki.Verdicts

/-! Which statement a deletion removes.

A row names a value in one spelling and a reply shows it in another: by an id in either case, by a
number or as text. Both have one normal form, as digits of no script have another capital. The
statement that is removed is then the first one in the reply with the value of the row, and claims
without an id do not count. Its id goes into a query, which has to be short enough to be sent.
-/

set_option autoImplicit false

namespace EditBatch

open Http Text

/-! ## Capitals of ids -/

theorem Text.digits_caseless :
    (digitZeros.all fun start =>
      (specialCapitals.all fun special =>
        special.1.blt start || (start + 10).ble special.1) &&
      simpleCapitals.all fun range =>
        range.last.blt start || (start + 10).ble range.first) = true := by
  -- The ends of the ranges suffice: not even one with a stride reaches over a digit.
  decide +kernel

theorem Text.capitals_of_isDigit {c : Char} (digit : isDigit c = true) : capitals c = [c] := by
  obtain ⟨start, member, least, most⟩ := (isDigit_iff c).mp digit
  have apart := List.all_eq_true.mp digits_caseless start member
  simp only [Bool.and_eq_true, List.all_eq_true, Bool.or_eq_true, Nat.blt_eq, Nat.ble_eq] at apart
  obtain ⟨special, simple⟩ := apart
  have unlisted : specialCapitals.lookup c.toNat = none := by
    refine List.lookup_eq_none_iff.mpr fun listed among => ?_
    have outside := special listed among
    exact bne_iff_ne.mpr (by omega)
  have uncovered : simpleCapitals.find? (·.contains c.toNat) = none := by
    refine List.find?_eq_none.mpr fun range among within => ?_
    have outside := simple range among
    simp only [CaseRange.contains, Bool.and_eq_true, decide_eq_true_eq] at within
    omega
  simp only [capitals, unlisted, uncovered]

theorem Text.uppered_ofList {letter capital : Char} {digits : List Char}
    (capitals_letter : capitals letter = [capital])
    (all : ∀ digit ∈ digits, isDigit digit = true) :
    uppered (String.ofList (letter :: digits)) = String.ofList (capital :: digits) := by
  have same : upper digits = digits := by
    induction digits with
    | nil => rfl
    | cons digit rest ih =>
      obtain ⟨first, others⟩ := List.forall_mem_cons.mp all
      rw [upper, List.flatMap_cons, capitals_of_isDigit first, ← upper, ih others,
        List.singleton_append]
  rw [uppered, String.toList_ofList, upper, List.flatMap_cons, capitals_letter, ← upper, same,
    List.singleton_append]

theorem Row.uppered_propertyOf {digits : List Char}
    (all : ∀ digit ∈ digits, isDigit digit = true) :
    uppered (propertyOf digits) = propertyOf digits :=
  uppered_ofList (by decide +kernel) all

theorem Row.uppered_itemOf {digits : List Char}
    (all : ∀ digit ∈ digits, isDigit digit = true) : uppered (itemOf digits) = itemOf digits :=
  uppered_ofList (by decide +kernel) all

structure Command.Enters (row : Row) (command : Command) : Prop where
  mode : command.mode = row.mode
  prop : command.prop = row.prop
  value : command.value = row.value

theorem Selection.enters_edit (selection : Selection) (id : Nat) (ref : String) (row : Row) :
    (selection.edit id ref row).Enters row :=
  ⟨rfl, rfl, rfl⟩

/-! ## Claims in a reply -/

namespace Wiki.Statements

/-- What a value reads as: the id that it has, in capitals, else `Q` and the number that it has,
else its text. -/
inductive ReadsAs : Json → String → Prop where
  | named {value id : Json} : value.member? "id" = some id → id.holds = true →
      ReadsAs value (uppered id.text)
  | numbered {value number : Json} :
      (∀ id, value.member? "id" = some id → id.holds = false) →
      value.member? "numeric-id" = some number → ReadsAs value ("Q" ++ number.text)
  | plain {value : Json} : value ≠ .null →
      (∀ id, value.member? "id" = some id → id.holds = false) →
      value.member? "numeric-id" = none → ReadsAs value value.text

/-- A claim about an item: its id, which is empty if it has none, and its value if there is one. -/
structure Claim where
  id : String
  value : Option Json

namespace Claim

/-- A claim has an id and, if a row names a value, that value. -/
def Meets (row : Row) (claim : Claim) : Prop :=
  claim.id ≠ "" ∧ ∀ filter, row.value = some filter →
    ∃ value, claim.value = some value ∧ ReadsAs value (uppered filter)

def statement? (claim : Claim) : Option Statement :=
  if claim.id = "" then none else some ⟨.str claim.id, comparable claim.value⟩

end Claim

/-- A JSON value shows a claim, whose value is in its main snak. -/
inductive Shows : Json → Claim → Prop where
  | members {members snak dataValue : List (String × Json)} {id : String} :
      (members.lookup "id").getD (.str "") = .str id →
      Opens (members.lookup "mainsnak") snak → Opens (snak.lookup "datavalue") dataValue →
      Shows (.obj members) ⟨id, dataValue.lookup "value"⟩

/-- An outcome brings an entity document without an error that shows these claims about an item for
a property. -/
def ShowsClaims (outcome : Http.Outcome) (entity prop : String) (claims : List Claim) : Prop :=
  ∃ document shown, Brings outcome (.obj document) ∧ IsSound document ∧
    Claims entity prop document shown ∧ List.Forall₂ Shows shown claims

theorem Shows.tells {shown : Json} {claim : Claim} (shows : Shows shown claim) :
    Tells shown claim.statement? := by
  cases shows with
  | @members members _ _ id named outer inner =>
    by_cases empty : id = ""
    -- The id may be there and empty, or not be there at all.
    · rw [Claim.statement?, if_pos empty]
      refine .unnamed fun found there => ?_
      rw [there, empty] at named
      cases named
      rfl
    · rw [Claim.statement?, if_neg empty]
      have there : members.lookup "id" = some (.str id) := by
        cases found : members.lookup "id" with
        | none =>
          rw [found] at named
          exact absurd (Json.str.inj named).symm empty
        | some value => exact congrArg some (by simpa [found] using named)
      exact .named there (by simpa [Json.holds] using empty) outer inner

theorem read_of_showsClaims {outcome : Http.Outcome} {entity prop : String} {claims : List Claim}
    (same : uppered prop = prop) (shows : ShowsClaims outcome entity prop claims) :
    read entity prop outcome = .ok (claims.filterMap Claim.statement?) := by
  obtain ⟨document, shown, brings, sound, found, each⟩ := shows
  have tells : List.Forall₂ Tells shown (claims.map Claim.statement?) :=
    List.forall₂_map_right_iff.mpr (each.imp fun _ _ => Shows.tells)
  have told : ofDocument entity (uppered prop) (.obj document) =
      .ok (claims.filterMap Claim.statement?) := by
    rw [same]
    refine ofDocument_eq_ok_iff.mpr ⟨shown, _, found, tells, ?_⟩
    simp [List.reduceOption, List.filterMap_map]
  rw [read_of_brings brings, ofReply_of_told sound told]

section

variable {value : Json} {text : String}

/-! A value reads in one way only: by its id, by its number or as it stands. -/

theorem readsAs_named_iff {id : Json} (found : value.member? "id" = some id)
    (holds : id.holds = true) : ReadsAs value text ↔ text = uppered id.text := by
  constructor
  · intro reads
    cases reads with
    | named again =>
      cases found.symm.trans again
      rfl
    | numbered unnamed => exact absurd holds (by simp [unnamed id found])
    | plain _ unnamed => exact absurd holds (by simp [unnamed id found])
  · rintro rfl
    exact .named found holds

theorem readsAs_numbered_iff {number : Json}
    (unnamed : ∀ id, value.member? "id" = some id → id.holds = false)
    (found : value.member? "numeric-id" = some number) :
    ReadsAs value text ↔ text = "Q" ++ number.text := by
  constructor
  · intro reads
    cases reads with
    | named there holds => exact absurd holds (by simp [unnamed _ there])
    | numbered _ again =>
      cases found.symm.trans again
      rfl
    | plain _ _ unnumbered => simp [found] at unnumbered
  · rintro rfl
    exact .numbered unnamed found

theorem readsAs_plain_iff (given : value ≠ .null)
    (unnamed : ∀ id, value.member? "id" = some id → id.holds = false)
    (unnumbered : value.member? "numeric-id" = none) : ReadsAs value text ↔ text = value.text := by
  constructor
  · intro reads
    cases reads with
    | named there holds => exact absurd holds (by simp [unnamed _ there])
    | numbered _ found => simp [found] at unnumbered
    | plain => rfl
  · rintro rfl
    exact .plain given unnamed unnumbered

theorem not_readsAs_null : ¬ ReadsAs .null text := by
  intro reads
  cases reads with
  | named found => simp [Json.member?] at found
  | numbered _ found => simp [Json.member?] at found
  | plain given => exact given rfl

end

theorem text_obj_ne_itemOf (members : List (String × Json)) (digits : List Char) :
    (Json.obj members).text ≠ Row.itemOf digits := by
  intro same
  have texts := congrArg String.toList same
  simp [Json.text, Json.literal, Row.itemOf] at texts

theorem comparable_obj_named {members : List (String × Json)} {id : Json}
    (found : (Json.obj members).member? "id" = some id) (holds : id.holds = true) :
    comparable (some (.obj members)) = some (uppered id.text) := by
  have there : members.lookup "id" = some id := found
  simp only [comparable, there, Option.getD_some, holds, if_true]

theorem comparable_obj_unnamed {members : List (String × Json)}
    (unnamed : ∀ id, (Json.obj members).member? "id" = some id → id.holds = false) :
    comparable (some (.obj members)) =
      ((Json.obj members).member? "numeric-id").map fun number => "Q" ++ number.text := by
  have empty : ((members.lookup "id").getD .null).holds = false := by
    cases found : members.lookup "id" with
    | none => rfl
    | some id => exact unnamed id found
  simp only [comparable, empty, Bool.false_eq_true, if_false, Json.member?]

/-- A statement is compared by an id if and only if its value reads as that id. -/
theorem comparable_eq_itemOf_iff {found : Option Json} {digits : List Char} :
    comparable found = some (Row.itemOf digits) ↔
      ∃ value, found = some value ∧ ReadsAs value (Row.itemOf digits) := by
  cases found with
  | none => simp [comparable]
  | some value =>
    simp only [Option.some.injEq, exists_eq_left']
    cases value with
    | obj members =>
      by_cases named : ∃ id, (Json.obj members).member? "id" = some id ∧ id.holds = true
      · obtain ⟨id, found, holds⟩ := named
        rw [readsAs_named_iff found holds, comparable_obj_named found holds]
        simp [eq_comm]
      · have unnamed (id : Json) (found : (Json.obj members).member? "id" = some id) :
            id.holds = false := by
          simpa using fun holds => named ⟨id, found, holds⟩
        rw [comparable_obj_unnamed unnamed]
        cases numbered : (Json.obj members).member? "numeric-id" with
        | none =>
          -- Such an object is compared by nothing, and its text is no id.
          rw [readsAs_plain_iff (by simp) unnamed numbered]
          simpa using (text_obj_ne_itemOf members digits).symm
        | some number =>
          rw [readsAs_numbered_iff unnamed numbered]
          simp [eq_comm]
    | null => exact iff_of_false (by simp [comparable]) not_readsAs_null
    | _ =>
      rw [readsAs_plain_iff (by simp) (by simp [Json.member?]) rfl]
      simp [comparable, eq_comm]

theorem selects_statement?_iff {line : String} {row : Row} {command : Command}
    (accepted : Row.read? line = some row) (enters : command.Enters row) (claim : Claim) :
    claim.statement?.any (Execution.selects command) = true ↔ claim.Meets row := by
  obtain ⟨-, -, values⟩ := Row.parts_of_read? accepted
  rw [Claim.statement?, Claim.Meets]
  by_cases empty : claim.id = ""
  · simp [empty]
  · rw [if_neg empty, Option.any_some, Execution.selects, enters.value]
    cases named : row.value with
    | none => simp [empty]
    | some filter =>
      obtain ⟨digits, all, rfl⟩ := values filter named
      simp [empty, Row.uppered_itemOf all, comparable_eq_itemOf_iff]

section

variable {line : String} {row : Row} {command : Command} {claims : List Claim}

theorem find?_eq_none (accepted : Row.read? line = some row) (enters : command.Enters row)
    (unmet : ∀ claim ∈ claims, ¬ claim.Meets row) :
    (claims.filterMap Claim.statement?).find? (Execution.selects command) = none := by
  rw [List.find?_filterMap, List.find?_eq_none.mpr, Option.bind_none]
  intro claim member selected
  exact unmet claim member ((selects_statement?_iff accepted enters claim).mp selected)

theorem find?_eq_some (accepted : Row.read? line = some row) (enters : command.Enters row)
    {before rest : List Claim} {claim : Claim} (split : claims = before ++ claim :: rest)
    (unmet : ∀ earlier ∈ before, ¬ earlier.Meets row) (met : claim.Meets row) :
    (claims.filterMap Claim.statement?).find? (Execution.selects command) =
      some ⟨.str claim.id, comparable claim.value⟩ := by
  have first : claims.find? (·.statement?.any (Execution.selects command)) = some claim := by
    refine List.find?_eq_some_iff_append.mpr
      ⟨(selects_statement?_iff accepted enters claim).mpr met, before, rest, split, ?_⟩
    intro earlier member
    have unselected := mt (selects_statement?_iff accepted enters earlier).mp (unmet earlier member)
    simpa using unselected
  rw [List.find?_filterMap, first, Option.bind_some, Claim.statement?, if_neg met.1]

end

end Wiki.Statements

/-! ## Carrying out a deletion -/

namespace Execution

variable {σ : Type} {client : EditClient σ} {now : Nat} {state : σ} {command : Command}
  {ref : String} {statements : List Statement}

theorem perform_delete_none
    (read : (client.perform now (.readStatements ref command.prop) state).1.outcome =
      .ok statements) (unmet : statements.find? (selects command) = none) :
    ((delete command ref).perform client now state).calls =
        [⟨now, .readStatements ref command.prop⟩] ∧
      ((delete command ref).perform client now state).result = .ok (.success none) := by
  simp only [delete, Plan.perform, read, unmet, succeed, and_self]

theorem perform_endWith (outcome : Except CallFailure Unit) :
    ((endWith outcome).perform client now state).calls = [] ∧
      (((endWith outcome).perform client now state).result = .ok (.success none) ↔
        outcome = .ok ()) := by
  match outcome with
  | .ok () => exact ⟨rfl, iff_of_true rfl rfl⟩
  | .error (.remote message) => exact ⟨rfl, by simp [endWith, failAt, Plan.perform]⟩
  | .error (.semantic code info) => exact ⟨rfl, by simp [endWith, failAt, Plan.perform]⟩
  | .error (.fault reason) => exact ⟨rfl, by simp [endWith, failAt, Plan.perform]⟩
  | .error .fatal => exact ⟨rfl, by simp [endWith, failAt, Plan.perform]⟩

theorem perform_delete_some {statement : Statement} {later : Nat} {after : σ}
    (read : (client.perform now (.readStatements ref command.prop) state).1.outcome =
      .ok statements) (met : statements.find? (selects command) = some statement)
    (delay : later = now + (client.perform now (.readStatements ref command.prop) state).1.delay)
    (left : after = (client.perform now (.readStatements ref command.prop) state).2) :
    ((delete command ref).perform client now state).calls =
        [⟨now, .readStatements ref command.prop⟩, ⟨later, .removeStatement statement.id⟩] ∧
      (((delete command ref).perform client now state).result = .ok (.success none) ↔
        (client.perform later (.removeStatement statement.id) after).1.outcome = .ok ()) := by
  subst delay left
  simp only [delete, Plan.perform, read, met]
  constructor
  · rw [(perform_endWith _).1]
  · exact (perform_endWith _).2

end Execution

namespace Wiki

open Statements (Claim ShowsClaims)

variable {σ : Type} (endpoints : Endpoints) (server : Server σ)

/-- A performance made no call but one, and was a success. -/
structure Spares (call : CallRecord) (log : List RequestRecord)
    (done : Performance (σ × List RequestRecord) (Except Escape CommandResult)) : Prop where
  calls : done.calls = [call]
  logged : done.client.2 = log
  result : done.result = .ok (.success none)

/-- A performance made two calls, of which the second one is to remove a statement; it was a success
if and only if the proxy accepted that. -/
structure Attempts (call : CallRecord) (log : List RequestRecord) (now : Nat) (state : σ)
    (id : String)
    (done : Performance (σ × List RequestRecord) (Except Escape CommandResult)) : Prop where
  calls : done.calls = [call, ⟨now, .removeStatement (.str id)⟩]
  logged : done.client.2 =
    log ++ (sentFor? endpoints ⟨now, .removeStatement (.str id)⟩).toList
  result : done.result = .ok (.success none) ↔
    ∃ members, Accepts (server.send now (requestOf endpoints (.removeStatement (.str id)))
      state).1.outcome members

/-- The request to remove a statement was sent, and no other. -/
structure Removes (edits : Url) (call : CallRecord) (log : List RequestRecord) (now : Nat)
    (state : σ) (id : String)
    (done : Performance (σ × List RequestRecord) (Except Escape CommandResult)) : Prop where
  calls : done.calls = [call, ⟨now, .removeStatement (.str id)⟩]
  logged : done.client.2 = log ++
    [⟨now, { requestOf endpoints (.removeStatement (.str id)) with url := edits.text }⟩]
  result : done.result = .ok (.success none) ↔
    ∃ members, Accepts (server.send now (requestOf endpoints (.removeStatement (.str id)))
      state).1.outcome members

/-- The request to remove a statement was not sent, which is a failure. -/
structure Withholds (call : CallRecord) (log : List RequestRecord) (now : Nat) (id : String)
    (done : Performance (σ × List RequestRecord) (Except Escape CommandResult)) : Prop where
  calls : done.calls = [call, ⟨now, .removeStatement (.str id)⟩]
  logged : done.client.2 = log
  result : done.result ≠ .ok (.success none)

section attempts

variable {endpoints : Endpoints} {server : Server σ} {call : CallRecord}
  {log : List RequestRecord} {now : Nat} {state : σ} {id : String}
  {done : Performance (σ × List RequestRecord) (Except Escape CommandResult)}

theorem Attempts.removes (attempts : Attempts endpoints server call log now state id done)
    {edits : Url} (address : Url.read? endpoints.edits.url = some edits)
    (short : (queryOf (requestOf endpoints (.removeStatement (.str id))).params).length ≤
      lengthLimit) : Removes endpoints server edits call log now state id done := by
  have sent := @sent?_of_le (requestOf endpoints (.removeStatement (.str id))) edits address short
  refine ⟨attempts.calls, ?_, attempts.result⟩
  rw [attempts.logged, sentFor?, sent]
  rfl

theorem Attempts.withholds (attempts : Attempts endpoints server call log now state id done)
    (unsent : sent? (requestOf endpoints (.removeStatement (.str id))) = none) :
    Withholds call log now id done := by
  refine ⟨attempts.calls, ?_, ?_⟩
  · rw [attempts.logged, sentFor?, unsent]
    exact List.append_nil log
  · rw [Ne, attempts.result, send_of_unsent server unsent]
    rintro ⟨members, ⟨response, came, -⟩, -⟩
    cases came

end attempts

theorem replyOf_removeStatement_eq_ok_iff {outcome : Http.Outcome} {id : Json} :
    replyOf outcome (.removeStatement id) = .ok () ↔ ∃ members, Accepts outcome members := by
  simp only [replyOf, bind_eq_ok_iff, EditProxy.accepted_eq_ok_iff]
  constructor
  · rintro ⟨_, ⟨members, accepts, rfl⟩, -⟩
    exact ⟨members, accepts⟩
  · rintro ⟨members, accepts⟩
    exact ⟨_, ⟨members, accepts, rfl⟩, rfl⟩

theorem execution_of_delete {row : Row} {command : Command} (enters : command.Enters row)
    (deletes : row.mode = .delete) {item : String} (concrete : Item.isPlaceholder item = false)
    (wiki : String) : command.execution item wiki = Execution.delete command item := by
  simp only [Command.execution, concrete, enters.mode, deletes, Bool.and_false,
    Bool.false_eq_true, if_false]

section deletion

variable {line : String} {row : Row} {command : Command} {item : String} (wiki : String)
  (now : Nat) (state : σ) (log : List RequestRecord) {claims : List Claim} {answer : Http.Answer}
  {after : σ}

-- The document that came back tells that the request for it was sent.
theorem exists_reading
    (sent : server.send now (requestOf endpoints (.readStatements item row.prop)) state =
      (answer, after))
    (replied : ShowsClaims answer.outcome item row.prop claims) :
    ∃ url, Url.read? endpoints.queries = some url ∧
      sentFor? endpoints ⟨now, .readStatements item row.prop⟩ =
        some ⟨now, { Statements.request endpoints.queries item with url := url.text }⟩ := by
  have transported (reason : Fault) : (server.send now
      (requestOf endpoints (.readStatements item row.prop)) state).1.outcome ≠
        .error (.fault reason) := by
    rw [sent]
    obtain ⟨-, -, ⟨response, came, -⟩, -⟩ := replied
    simp [came]
  obtain ⟨url, address, reached⟩ := exists_sent server transported
  refine ⟨url, address, ?_⟩
  simp only [sentFor?, reached, Option.map_some]
  rfl

theorem perform_reading (accepted : Row.read? line = some row) (enters : command.Enters row)
    (sent : server.send now (requestOf endpoints (.readStatements item row.prop)) state =
      (answer, after))
    (replied : ShowsClaims answer.outcome item row.prop claims) :
    (client endpoints server).perform now (.readStatements item command.prop) state =
      (⟨.ok (claims.filterMap Claim.statement?), answer.delay⟩, after) := by
  -- The claims are looked up under the property in capitals, which is how the row has it.
  obtain ⟨-, ⟨digits, all, named⟩, -⟩ := Row.parts_of_read? accepted
  have capital : uppered row.prop = row.prop := by
    rw [named]
    exact Row.uppered_propertyOf all
  rw [enters.prop]
  simp only [client, sent]
  simp only [replyOf, Statements.read_of_showsClaims capital replied]

theorem perform_deletion (deletes : row.mode = .delete) (enters : command.Enters row)
    (concrete : Item.isPlaceholder item = false) :
    (command.execution item wiki).perform (client endpoints server.recorded) now (state, log) =
      let plain := (Execution.delete command item).perform (client endpoints server) now state
      { plain with
        client := (plain.client, log ++ plain.calls.filterMap (sentFor? endpoints)) } := by
  rw [execution_of_delete enters deletes concrete, perform_recorded]

theorem spares_of_unmet (accepted : Row.read? line = some row) (deletes : row.mode = .delete)
    (enters : command.Enters row) (concrete : Item.isPlaceholder item = false)
    (sent : server.send now (requestOf endpoints (.readStatements item row.prop)) state =
      (answer, after))
    (replied : ShowsClaims answer.outcome item row.prop claims) {reading : RequestRecord}
    (asked : sentFor? endpoints ⟨now, .readStatements item row.prop⟩ = some reading)
    (unmet : ∀ claim ∈ claims, ¬ claim.Meets row) :
    Spares ⟨now, .readStatements item row.prop⟩ (log ++ [reading])
      ((command.execution item wiki).perform (client endpoints server.recorded) now
        (state, log)) := by
  have reply := perform_reading endpoints server now state accepted enters sent replied
  obtain ⟨calls, result⟩ := Execution.perform_delete_none (congrArg (·.1.outcome) reply)
    (Statements.find?_eq_none accepted enters unmet)
  rw [enters.prop] at calls
  rw [perform_deletion endpoints server wiki now state log deletes enters concrete]
  refine ⟨calls, ?_, result⟩
  simp only [calls, filterMap_sentFor?_cons, asked]
  rfl

theorem attempts_of_met (accepted : Row.read? line = some row) (deletes : row.mode = .delete)
    (enters : command.Enters row) (concrete : Item.isPlaceholder item = false)
    (sent : server.send now (requestOf endpoints (.readStatements item row.prop)) state =
      (answer, after))
    (replied : ShowsClaims answer.outcome item row.prop claims) {reading : RequestRecord}
    (asked : sentFor? endpoints ⟨now, .readStatements item row.prop⟩ = some reading)
    {before rest : List Claim} {claim : Claim} (split : claims = before ++ claim :: rest)
    (unmet : ∀ earlier ∈ before, ¬ earlier.Meets row) (met : claim.Meets row) :
    Attempts endpoints server ⟨now, .readStatements item row.prop⟩ (log ++ [reading])
      (now + answer.delay) after claim.id
      ((command.execution item wiki).perform (client endpoints server.recorded) now
        (state, log)) := by
  have reply := perform_reading endpoints server now state accepted enters sent replied
  have delay := congrArg (now + ·.1.delay) reply.symm
  obtain ⟨calls, result⟩ := Execution.perform_delete_some (congrArg (·.1.outcome) reply)
    (Statements.find?_eq_some accepted enters split unmet met) delay (congrArg Prod.snd reply.symm)
  rw [enters.prop] at calls
  rw [perform_deletion endpoints server wiki now state log deletes enters concrete]
  refine ⟨calls, ?_, result.trans replyOf_removeStatement_eq_ok_iff⟩
  simp only [calls, filterMap_sentFor?_cons, asked, List.filterMap_nil, List.append_nil,
    List.append_assoc]
  rfl

end deletion

def documentOf (shown : List Json) : List (String × Json) :=
  [("entities", .obj [("Q42", .obj [("claims", .obj [("P31", .arr shown)])])])]

def snakOf (value : List (String × Json)) : Json :=
  .obj [("datavalue", .obj [("value", .obj value)])]

/-- Four claims: three for the same item, of which the first has no id and the last gives the item
by its number, and one for another item. -/
def stacked : List (String × Json) :=
  documentOf
    [.obj [("mainsnak", snakOf [("id", .str "Q5")])],
      .obj [("id", .str "Q42$1"), ("mainsnak", snakOf [("numeric-id", .int 6)])],
      .obj [("id", .str "Q42$2"), ("mainsnak", snakOf [("id", .str "q5")])],
      .obj [("id", .str "Q42$3"), ("mainsnak", snakOf [("numeric-id", .int 5)])]]

def inTurn : Server (List Json) where
  answer _ _ documents :=
    (⟨.ok ⟨200, .json (documents.headD .null)⟩, 5⟩, documents.tail)

def stackedThenOk : List Json := [.obj stacked, .obj [("error", .str "OK")]]

def deletion : Row := ⟨.delete, "P31", some "Q5"⟩

def listed (id : String) (value : List (String × Json)) : Claim := ⟨id, some (.obj value)⟩

def skipped : List Claim :=
  [listed "" [("id", .str "Q5")], listed "Q42$1" [("numeric-id", .int 6)]]

def hit : Claim := listed "Q42$2" [("id", .str "q5")]

theorem showsClaims_documentOf {shown : List Json} {claims : List Claim}
    (each : List.Forall₂ Statements.Shows shown claims) :
    ShowsClaims (.ok ⟨200, .json (.obj (documentOf shown))⟩) "Q42" "P31" claims := by
  refine ⟨documentOf shown, shown, ⟨_, rfl, Nat.le_refl 200, ?_, rfl⟩, ?_,
    ⟨_, _, _, .object _, .object _, .object _, .array _⟩, each⟩
  · exact show 200 < 300 by decide
  · intro error reported
    cases reported

theorem shows_listed {members value : List (String × Json)} {id : String}
    (named : (members.lookup "id").getD (.str "") = .str id)
    (snak : members.lookup "mainsnak" = some (snakOf value)) :
    Statements.Shows (.obj members) (listed id value) := by
  have outer : Statements.Opens (members.lookup "mainsnak")
      [("datavalue", .obj [("value", .obj value)])] := by
    rw [snak]
    exact .object _
  exact .members named outer (.object _)

theorem showsClaims_stacked :
    ShowsClaims (.ok ⟨200, .json (.obj stacked)⟩) "Q42" "P31"
      (skipped ++ hit :: [listed "Q42$3" [("numeric-id", .int 5)]]) :=
  showsClaims_documentOf (.cons (shows_listed rfl rfl) (.cons (shows_listed rfl rfl)
    (.cons (shows_listed rfl rfl) (.cons (shows_listed rfl rfl) .nil))))

theorem listed_meets {id : String} (named : id ≠ "") :
    (listed id [("id", .str "q5")]).Meets deletion := by
  have same : uppered "Q5" = uppered (Json.str "q5").text := by decide +kernel
  have reads : Statements.ReadsAs (.obj [("id", .str "q5")]) (uppered "Q5") := by
    rw [same]
    exact .named rfl rfl
  refine ⟨named, fun filter given => ⟨_, rfl, ?_⟩⟩
  cases given
  exact reads

theorem skipped_not_meets : ∀ earlier ∈ skipped, ¬ earlier.Meets deletion := by
  have other : uppered "Q5" ≠ "Q" ++ (Json.int 6).text := by decide +kernel
  refine List.forall_mem_cons.mpr ⟨fun meets => meets.1 rfl, ?_⟩
  refine List.forall_mem_singleton.mpr fun meets => ?_
  obtain ⟨value, given, reads⟩ := meets.2 "Q5" rfl
  cases given
  refine other ((Statements.readsAs_numbered_iff (fun id found => ?_) rfl).mp reads)
  cases found

theorem accepted_deletion : Row.read? " -p31 : q5" = some deletion := by decide +kernel

theorem concrete_Q42 : Item.isPlaceholder "Q42" = false := by decide +kernel

theorem enters_deletion :
    (Selection.edit 0 "Q42" { entityRef := some "Q42" } deletion).Enters deletion :=
  Selection.enters_edit _ 0 "Q42" deletion

theorem send_reading (documents : List Json) :
    inTurn.send 0 (requestOf wikidata (.readStatements "Q42" "P31")) documents =
      (⟨.ok ⟨200, .json (documents.headD .null)⟩, 5⟩, documents.tail) := by
  obtain ⟨url, read, named, short⟩ : ∃ url,
      Url.read? (requestOf wikidata (.readStatements "Q42" "P31")).url = some url ∧
      url.namesServer = true ∧
      (queryOf (requestOf wikidata (.readStatements "Q42" "P31")).params).length ≤ lengthLimit :=
    ⟨⟨"https", ⟨"", "www.wikidata.org", none⟩, "/w/api.php"⟩, by decide +kernel⟩
  exact send_eq inTurn read named short 0 documents

theorem text_queries {url : Url} (address : Url.read? wikidata.queries = some url) :
    url.text = "https://www.wikidata.org/w/api.php" :=
  text_of_read? address (by decide +kernel)

def proxy : Url := ⟨"https", ⟨"", "tools.wmflabs.org", none⟩, "/widar/index.php"⟩

theorem read?_proxy : Url.read? wikidata.edits.url = some proxy := by decide +kernel

def overlongId : String := String.ofList (List.replicate lengthLimit 'x')

def overlong : List (String × Json) :=
  documentOf [.obj [("id", .str overlongId), ("mainsnak", snakOf [("id", .str "q5")])]]

theorem overlongId_ne_empty : overlongId ≠ "" := by
  intro empty
  have none : List.replicate lengthLimit 'x' = [] := String.ofList_injective empty
  rw [List.replicate_eq_nil_iff] at none
  exact absurd none (by decide)

theorem lengthLimit_lt_overlongId : lengthLimit <
    (queryOf (requestOf wikidata (.removeStatement (.str overlongId))).params).length := by
  have among : ("id", overlongId) ∈
      (requestOf wikidata (.removeStatement (.str overlongId))).params :=
    List.mem_cons_of_mem _ List.mem_cons_self
  have unreserved : ∀ c ∈ List.replicate lengthLimit 'x', isUnreserved c = true := by
    intro c member
    rw [List.eq_of_mem_replicate member]
    decide
  have longer := length_lt_queryOf among
  rw [overlongId, queryComponent_of_unreserved unreserved, List.length_replicate] at longer
  exact longer

end Wiki

end EditBatch
