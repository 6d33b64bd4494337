import EditBatch.Proofs.Wiki.Replies
import EditBatch.Proofs.Wiki.Requests

/-! What the proxy's answer to an edit is taken for.

Every edit is one request. Its regular outcomes are told apart without remainder: an edit is
accepted, refused with a code, or has failed remotely. New items have ids in their normal form.
-/

set_option autoImplicit false

namespace EditBatch

open Http

def EditCall.IsEdit : EditCall → Prop
  | .readStatements _ _ => False
  | .createEntity _ _ | .setLabel _ _ _ | .setStatement _ _ _ | .removeStatement _ => True

theorem Json.beq_str_iff {value : Json} {text : String} :
    (value == .str text) = true ↔ value = .str text := by
  change value.same (.str text) = true ↔ _
  cases value <;> simp [Json.same]

namespace Wiki

/-- An object came whose member `error` is the text `OK`. -/
def Accepts (outcome : Http.Outcome) (members : List (String × Json)) : Prop :=
  Brings outcome (.obj members) ∧ members.lookup "error" = some (.str "OK")

def Refuses (outcome : Http.Outcome) (code info : String) : Prop :=
  ∃ members error reason, Brings outcome (.obj members) ∧
    members.lookup "error" = some (.obj error) ∧
    error.lookup "code" = some reason ∧ reason.holds = true ∧ code = reason.text ∧
    info = ((error.lookup "info").map Json.text).getD ""

namespace EditProxy

variable {action : Action} {outcome : Http.Outcome}

theorem complaint_eq_semantic_iff {error : Json} {code info : String} :
    complaint action error = .semantic code info ↔
      ∃ members reason, error = .obj members ∧ members.lookup "code" = some reason ∧
        reason.holds = true ∧ code = reason.text ∧
        info = ((members.lookup "info").map Json.text).getD "" := by
  constructor
  · intro semantic
    unfold complaint failure at semantic
    split at semantic
    next members =>
      simp only [Json.member?] at semantic
      split at semantic
      next reason found =>
        split at semantic
        next holds =>
          cases semantic
          exact ⟨members, reason, rfl, found, holds, rfl, rfl⟩
        next => simp at semantic
      next => simp at semantic
    next => simp at semantic
  · rintro ⟨members, reason, rfl, found, holds, rfl, rfl⟩
    simp only [complaint, Json.member?, found, holds, if_true]

theorem accepted_of_brings {members : List (String × Json)}
    (brings : Brings outcome (.obj members)) :
    accepted action outcome =
      if (members.lookup "error").getD .null == .str "OK" then .ok (.obj members)
      else .error (complaint action ((members.lookup "error").getD .null)) := by
  simp only [accepted, document_eq_ok_iff.mpr brings]

theorem getD_eq_str_iff {found : Option Json} {text : String} :
    (found.getD .null == .str text) = true ↔ found = some (.str text) := by
  rw [Json.beq_str_iff]
  cases found <;> simp

theorem accepted_eq_ok_iff {answer : Json} :
    accepted action outcome = .ok answer ↔
      ∃ members, Accepts outcome members ∧ answer = .obj members := by
  constructor
  · intro accept
    unfold accepted at accept
    split at accept
    · simp at accept
    · simp at accept
    · simp at accept
    next members read =>
      simp only at accept
      split at accept
      next ok =>
        cases accept
        exact ⟨members, ⟨document_eq_ok_iff.mp read, getD_eq_str_iff.mp ok⟩, rfl⟩
      · simp at accept
    · simp at accept
  · rintro ⟨members, ⟨brings, ok⟩, rfl⟩
    rw [accepted_of_brings brings, if_pos (getD_eq_str_iff.mpr ok)]

theorem accepted_eq_semantic_iff {code info : String} :
    accepted action outcome = .error (.semantic code info) ↔ Refuses outcome code info := by
  constructor
  · intro refuse
    unfold accepted at refuse
    split at refuse
    · simp [failure] at refuse
    · simp [failure] at refuse
    · simp at refuse
    next members read =>
      simp only at refuse
      split at refuse
      · simp at refuse
      · obtain ⟨error, reason, is, found, holds, rfl, rfl⟩ :=
          complaint_eq_semantic_iff.mp (Except.error.inj refuse)
        refine ⟨members, error, reason, document_eq_ok_iff.mp read, ?_, found, holds, rfl, rfl⟩
        cases given : members.lookup "error" with
        | none => simp [given] at is
        | some value => simpa [given] using is
    · simp [failure] at refuse
  · rintro ⟨members, error, reason, brings, is, found, holds, rfl, rfl⟩
    have differs : ¬ ((members.lookup "error").getD .null == .str "OK") = true := by
      rw [getD_eq_str_iff, is]
      simp
    rw [accepted_of_brings brings, if_neg differs, is]
    exact congrArg _ (complaint_eq_semantic_iff.mpr ⟨error, reason, rfl, found, holds, rfl, rfl⟩)

theorem complaint_ne_fault (error : Json) (reason : Fault) :
    complaint action error ≠ .fault reason := by
  unfold complaint failure
  split
  · split
    · split
      · simp
      · simp
    · simp
  · simp

theorem accepted_ne_fault (regular : Http.IsRegular outcome) (reason : Fault) :
    accepted action outcome ≠ .error (.fault reason) := by
  obtain ⟨value, read⟩ | ⟨message, read⟩ | read := document_of_regular regular
  · unfold accepted
    rw [read]
    cases value with
    | obj members =>
      simp only
      split
      · simp
      · simpa using complaint_ne_fault _ reason
    | _ => simp [failure]
  · simp [accepted, read, failure]
  · simp [accepted, read, failure]

theorem normalizeId_eq_ok_iff {text id : String} :
    Item.normalizeId text = .ok id ↔ Item.normalizeId? text = some id := by
  unfold Item.normalizeId
  split <;> simp_all

theorem createdId_eq_ok_iff {members : List (String × Json)} {id : String} :
    createdId (.obj members) = .ok id ↔
      ∃ raw, members.lookup "q" = some raw ∧ raw.holds = true ∧
        Item.normalizeId? raw.text = some id := by
  constructor
  · intro created
    cases found : members.lookup "q" with
    | none => simp [createdId, Json.member?, found, Json.holds] at created
    | some raw =>
      simp only [createdId, Json.member?, found, Option.getD_some] at created
      split at created
      next holds =>
        split at created
        next normal =>
          cases created
          exact ⟨raw, rfl, holds, normalizeId_eq_ok_iff.mp normal⟩
        next => simp at created
      next => simp at created
  · rintro ⟨raw, found, holds, normal⟩
    simp only [createdId, Json.member?, found, Option.getD_some, holds, if_true,
      normalizeId_eq_ok_iff.mpr normal]

theorem createdId_cases (answer : Json) :
    (∃ id, createdId answer = .ok id) ∨ ∃ message, createdId answer = .error (.remote message) := by
  unfold createdId
  simp only
  split
  · split
    next id _ => exact .inl ⟨id, rfl⟩
    next reason _ => exact .inr ⟨_, rfl⟩
  · exact .inr ⟨_, rfl⟩

end EditProxy

/-- What an accepted edit returns: the normal form of the id that a creation was given, and nothing
for other edits. -/
def Returns (members : List (String × Json)) : (call : EditCall) → call.Reply → Prop
  | .createEntity _ _, id => ∃ raw, members.lookup "q" = some raw ∧ raw.holds = true ∧
      Item.normalizeId? raw.text = some id
  | .setLabel _ _ _, _ | .setStatement _ _ _, _ | .removeStatement _, _ => True
  | .readStatements _ _, _ => False

/-- Ids that are returned are in their normal form, and an accepted creation without an id that has
one counts as a remote failure. -/
def Numbers (outcome : Http.Outcome) : (call : EditCall) → Except CallFailure call.Reply → Prop
  | .createEntity _ _, reply =>
    (∀ id, reply = .ok id → Item.IsNormal id ∧ id ≠ "" ∧ Item.isPlaceholder id = false) ∧
      ∀ members, Accepts outcome members →
        (∀ raw, members.lookup "q" = some raw → Item.normalizeId? raw.text = none) →
        ∃ message, reply = .error (.remote message)
  | _, _ => True

/-- How the outcome of its request is taken as the reply to an edit. -/
structure Judges (outcome : Http.Outcome) (call : EditCall)
    (reply : Except CallFailure call.Reply) : Prop where
  accepted : ∀ value, reply = .ok value ↔
    ∃ members, Accepts outcome members ∧ Returns members call value
  refused : ∀ code info, reply = .error (.semantic code info) ↔ Refuses outcome code info
  otherwise : (∃ value, reply = .ok value) ∨ (∃ code info, reply = .error (.semantic code info)) ∨
    ∃ message, reply = .error (.remote message)
  numbers : Numbers outcome call reply

section

variable {outcome : Http.Outcome} {action : EditProxy.Action} {call : EditCall}
  {next : Json → Except CallFailure call.Reply}

theorem accepted_cases (action : EditProxy.Action) (regular : Http.IsRegular outcome) :
    (∃ members, Accepts outcome members ∧ EditProxy.accepted action outcome = .ok (.obj members)) ∨
      (∃ code info, EditProxy.accepted action outcome = .error (.semantic code info)) ∨
      ∃ message, EditProxy.accepted action outcome = .error (.remote message) := by
  cases judged : EditProxy.accepted action outcome with
  | ok answer =>
    obtain ⟨members, accepts, rfl⟩ := EditProxy.accepted_eq_ok_iff.mp judged
    exact .inl ⟨members, accepts, rfl⟩
  | error failure =>
    cases failure with
    | remote message => exact .inr (.inr ⟨message, rfl⟩)
    | semantic code info => exact .inr (.inl ⟨code, info, rfl⟩)
    | fault reason => exact absurd judged (EditProxy.accepted_ne_fault regular reason)
    | fatal => exact absurd judged (EditProxy.accepted_ne_fatal action outcome)

theorem judges_bind (regular : Http.IsRegular outcome)
    (returned : ∀ members value, next (.obj members) = .ok value ↔ Returns members call value)
    (ends : ∀ answer, (∃ value, next answer = .ok value) ∨
      ∃ message, next answer = .error (.remote message))
    (numbers : Numbers outcome call (EditProxy.accepted action outcome >>= next)) :
    Judges outcome call (EditProxy.accepted action outcome >>= next) := by
  refine ⟨fun value => ?_, fun code info => ?_, ?_, numbers⟩
  · constructor
    · intro reply
      obtain ⟨members, accepts, judged⟩ | ⟨code, info, judged⟩ | ⟨message, judged⟩ :=
        accepted_cases action regular
      · rw [judged] at reply
        exact ⟨members, accepts, (returned members value).mp reply⟩
      · simp [judged, bind, Except.bind] at reply
      · simp [judged, bind, Except.bind] at reply
    · rintro ⟨members, accepts, returns⟩
      rw [EditProxy.accepted_eq_ok_iff.mpr ⟨members, accepts, rfl⟩]
      exact (returned members value).mpr returns
  -- What follows an accepted document fails remotely only: a refusal is the proxy's own.
  · rw [← @EditProxy.accepted_eq_semantic_iff action]
    cases judged : EditProxy.accepted action outcome with
    | error failure => simp [bind, Except.bind]
    | ok answer =>
      obtain ⟨value, returns⟩ | ⟨message, fails⟩ := ends answer
      · simp [bind, Except.bind, returns]
      · simp [bind, Except.bind, fails]
  · obtain ⟨members, -, judged⟩ | ⟨code, info, judged⟩ | ⟨message, judged⟩ :=
      accepted_cases action regular
    · rw [judged]
      exact (ends (.obj members)).imp_right .inr
    · rw [judged]
      exact .inr (.inl ⟨code, info, rfl⟩)
    · rw [judged]
      exact .inr (.inr ⟨message, rfl⟩)

theorem replyOf_judged (regular : Http.IsRegular outcome) (edits : call.IsEdit) :
    Judges outcome call (replyOf outcome call) := by
  cases call with
  | createEntity site page =>
    refine judges_bind regular (fun members id => EditProxy.createdId_eq_ok_iff)
      EditProxy.createdId_cases ⟨fun id reply => ?_, fun members accepts unnumbered => ?_⟩
    · obtain ⟨answer, -, created⟩ := bind_eq_ok_iff.mp reply
      have normal := EditProxy.isNormal_of_createdId created
      exact ⟨normal, normal.ne_empty, normal.isPlaceholder⟩
    · rw [EditProxy.accepted_eq_ok_iff.mpr ⟨members, accepts, rfl⟩]
      obtain ⟨id, created⟩ | remote := EditProxy.createdId_cases (.obj members)
      · obtain ⟨raw, found, -, normal⟩ := EditProxy.createdId_eq_ok_iff.mp created
        rw [unnumbered raw found] at normal
        simp at normal
      · exact remote
  | setLabel | setStatement | removeStatement =>
    exact judges_bind regular (fun _ _ => by simp [pure, Except.pure, Returns])
      (fun _ => .inl ⟨(), rfl⟩) trivial
  | readStatements => exact edits.elim

end

/-- An edit whose request has a regular outcome was one request. Its reply is a success if and only
if the proxy accepted it and, for a creation, gave it an id; a refusal with the code and the
information of the proxy if and only if it gave a code; and a remote failure otherwise. -/
theorem edits_judged {σ : Type} (endpoints : Endpoints) (server : Server σ) (now : Nat) (state : σ)
    (log : List RequestRecord) {call : EditCall} (edits : call.IsEdit)
    (regular : Http.IsRegular (server.send now (requestOf endpoints call) state).1.outcome) :
    (∃ url, Url.read? endpoints.edits.url = some url ∧
      ((client endpoints server.recorded).perform now call (state, log)).2.2 =
        log ++ [⟨now, { requestOf endpoints call with url := url.text }⟩]) ∧
      Judges (server.send now (requestOf endpoints call) state).1.outcome call
        ((client endpoints server.recorded).perform now call (state, log)).1.outcome := by
  rw [client_recorded]
  refine ⟨?_, replyOf_judged regular edits⟩
  obtain ⟨url, read, sent⟩ := exists_sent server regular.transported
  have address : (requestOf endpoints call).url = endpoints.edits.url := by
    cases call with
    | readStatements => exact edits.elim
    | _ => rfl
  refine ⟨url, address ▸ read, ?_⟩
  simp only [sentFor?, sent, Option.map_some, Option.toList_some]

def always (outcome : Http.Outcome) : Server Unit where
  answer _ _ state := (⟨outcome, 5⟩, state)

def wikidata : Endpoints :=
  ⟨⟨"https://tools.wmflabs.org/widar/index.php", "petscan"⟩, "https://www.wikidata.org/w/api.php"⟩

def linking : EditCall := .createEntity (some "enwiki") (some "Foo")

def numbered : Http.Outcome :=
  .ok ⟨201, .json (.obj [("q", .str " q42\n"), ("error", .str "OK")])⟩

theorem text_of_read? {address text : String} {url : Url} (read : Url.read? address = some url)
    (written : (Url.read? address).map Url.text = some text) : url.text = text := by
  rw [read] at written
  exact Option.some.inj written

theorem send_linking :
    (always numbered).send 0 (requestOf wikidata linking) () = (⟨numbered, 5⟩, ()) := by
  obtain ⟨url, read, named, short⟩ : ∃ url,
      Url.read? (requestOf wikidata linking).url = some url ∧ url.namesServer = true ∧
      (queryOf (requestOf wikidata linking).params).length ≤ lengthLimit :=
    ⟨⟨"https", ⟨"", "tools.wmflabs.org", none⟩, "/widar/index.php"⟩, by decide +kernel⟩
  exact send_eq (always numbered) read named short 0 ()

theorem edits_judged_linking :
    linking.IsEdit ∧
      Http.IsRegular ((always numbered).send 0 (requestOf wikidata linking) ()).1.outcome ∧
      ((client wikidata (always numbered).recorded).perform 0 linking ((), [])).2.2 =
        [⟨0, "https://tools.wmflabs.org/widar/index.php",
          [("action", "create_item_from_page"), ("site", "enwiki"), ("page", "Foo"),
            ("tool_hashtag", "petscan"), ("botmode", "1")]⟩] ∧
      ((client wikidata (always numbered).recorded).perform 0 linking ((), [])).1.outcome =
        .ok "Q42" := by
  have edits : linking.IsEdit := trivial
  have regular : Http.IsRegular
      ((always numbered).send 0 (requestOf wikidata linking) ()).1.outcome := by
    rw [send_linking]
    exact isRegular_json 201 _
  obtain ⟨⟨url, read, log⟩, judges⟩ := edits_judged wikidata (always numbered) 0 () [] edits regular
  have text : url.text = "https://tools.wmflabs.org/widar/index.php" :=
    text_of_read? read (by decide +kernel)
  refine ⟨edits, regular, ?_, ?_⟩
  · rw [log, text]
    rfl
  · rw [send_linking] at judges
    have normal : Item.normalizeId? " q42\n" = some "Q42" := by decide +kernel
    have accepts : Accepts numbered [("q", .str " q42\n"), ("error", .str "OK")] :=
      ⟨⟨_, rfl, by decide, by decide, rfl⟩, rfl⟩
    exact (judges.accepted "Q42").mpr ⟨_, accepts, _, rfl, rfl, normal⟩

end Wiki

end EditBatch
