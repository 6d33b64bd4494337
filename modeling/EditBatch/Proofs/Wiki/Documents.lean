import EditBatch.Proofs.Http.Delivery
import EditBatch.Wiki.Statements
import Mathlib.Data.List.Forall2
import Mathlib.Data.List.ReduceOption

/-! Entity documents, and what comes of reading one.

A document has the shape of an entity document if each of its parts that matter is missing, empty or
of the right kind. Reading a document of that shape gives its statements; reading any other JSON
value is a fault, so that the statements of an item are read, or cannot be had, or the document is
misshapen.
-/

set_option autoImplicit false

namespace EditBatch.Wiki.Statements

open Http Text

/-- A part of a document has these members; one that is missing or empty has none. -/
inductive Opens : Option Json → List (String × Json) → Prop where
  | object (members : List (String × Json)) : Opens (some (.obj members)) members
  | empty {value : Json} : value.holds = false → Opens (some value) []
  | missing : Opens none []

/-- A part of a document has these items; one that is missing or empty has none. -/
inductive Lists : Option Json → List Json → Prop where
  | array (items : List Json) : Lists (some (.arr items)) items
  | empty {value : Json} : value.holds = false → Lists (some value) []
  | missing : Lists none []

/-- A claim makes a statement if it has an id, and none otherwise. -/
inductive Tells : Json → Option Statement → Prop where
  | named {members snak dataValue : List (String × Json)} {id : Json} :
      members.lookup "id" = some id → id.holds = true →
      Opens (members.lookup "mainsnak") snak → Opens (snak.lookup "datavalue") dataValue →
      Tells (.obj members) (some ⟨id, comparable (dataValue.lookup "value")⟩)
  | unnamed {members : List (String × Json)} :
      (∀ id, members.lookup "id" = some id → id.holds = false) → Tells (.obj members) none

/-- An object has these claims about an item for a property. -/
def Claims (entity prop : String) (document : List (String × Json)) (claims : List Json) : Prop :=
  ∃ entities item byProperty, Opens (document.lookup "entities") entities ∧
    Opens (entities.lookup entity) item ∧ Opens (item.lookup "claims") byProperty ∧
    Lists (byProperty.lookup prop) claims

def IsSound (document : List (String × Json)) : Prop :=
  ∀ error, document.lookup "error" = some error → error.holds = false

/-- An object has the shape of an entity document as far as an item and a property matter. -/
def IsReadable (entity prop : String) (document : List (String × Json)) : Prop :=
  ∃ claims told, Claims entity prop document claims ∧ List.Forall₂ Tells claims told

theorem opens_iff {found : Option Json} {members : List (String × Json)} :
    Opens found members ↔ part found = .obj members := by
  constructor
  · rintro (_ | empty | _)
    · simp only [part]
      split
      · rfl
      next hollow => simpa [Json.holds] using hollow
    · simp [part, empty]
    · rfl
  · intro is
    cases found with
    | none =>
      cases is
      exact .missing
    | some value =>
      simp only [part] at is
      split at is
      · subst is
        exact .object members
      next hollow =>
        cases is
        exact .empty (by simpa using hollow)

theorem member?_eq_ok_iff {name : String} {value : Json} {found : Option Json} :
    member? name value = .ok found ↔
      ∃ members, value = .obj members ∧ found = members.lookup name := by
  cases value <;> simp [member?, eq_comm]

theorem member?_part_eq_ok_iff {name : String} {given found : Option Json} :
    member? name (part given) = .ok found ↔
      ∃ members, Opens given members ∧ found = members.lookup name := by
  simp only [member?_eq_ok_iff, opens_iff]

theorem memberPart_eq_ok_iff {name : String} {given : Option Json} {value : Json} :
    memberPart name (part given) = .ok value ↔
      ∃ members, Opens given members ∧ value = part (members.lookup name) := by
  simp only [memberPart, bind_eq_ok_iff, member?_part_eq_ok_iff]
  constructor
  · rintro ⟨found, ⟨members, opens, rfl⟩, ⟨⟩⟩
    exact ⟨members, opens, rfl⟩
  · rintro ⟨members, opens, rfl⟩
    exact ⟨_, ⟨members, opens, rfl⟩, rfl⟩

theorem snakValue_eq_ok_iff {snak : Option Json} {value : Option String} :
    snakValue snak = .ok value ↔
      ∃ members dataValue, Opens snak members ∧ Opens (members.lookup "datavalue") dataValue ∧
        value = comparable (dataValue.lookup "value") := by
  simp only [snakValue, bind_eq_ok_iff, memberPart_eq_ok_iff]
  constructor
  · rintro ⟨_, ⟨members, opens, rfl⟩, found, read, ⟨⟩⟩
    obtain ⟨dataValue, inner, rfl⟩ := member?_part_eq_ok_iff.mp read
    exact ⟨members, dataValue, opens, inner, rfl⟩
  · rintro ⟨members, dataValue, opens, inner, rfl⟩
    exact ⟨_, ⟨members, opens, rfl⟩, _, member?_part_eq_ok_iff.mpr ⟨dataValue, inner, rfl⟩, rfl⟩

theorem ofClaim_eq_ok_iff {claim : Json} {told : Option Statement} :
    ofClaim claim = .ok told ↔ Tells claim told := by
  constructor
  · intro read
    obtain ⟨id?, found, read⟩ := bind_eq_ok_iff.mp read
    obtain ⟨members, rfl, rfl⟩ := member?_eq_ok_iff.mp found
    cases id : members.lookup "id" with
    | none =>
      rw [id] at read
      cases read
      exact .unnamed (by simp [id])
    | some value =>
      rw [id] at read
      simp only at read
      split at read
      next holds =>
        obtain ⟨snak?, found, read⟩ := bind_eq_ok_iff.mp read
        obtain ⟨same, is, rfl⟩ := member?_eq_ok_iff.mp found
        cases is
        obtain ⟨held, value, ⟨⟩⟩ := bind_eq_ok_iff.mp read
        obtain ⟨snak, dataValue, outer, inner, rfl⟩ := snakValue_eq_ok_iff.mp value
        exact .named id holds outer inner
      next hollow =>
        cases read
        exact .unnamed (by simpa [id] using hollow)
  · intro tells
    cases tells with
    | named id holds outer inner =>
      have value := snakValue_eq_ok_iff.mpr ⟨_, _, outer, inner, rfl⟩
      simp only [ofClaim, member?, id, holds, value, bind, Except.bind, if_true]
      rfl
    | @unnamed members hollow =>
      cases id : members.lookup "id" with
      | none =>
        simp only [ofClaim, member?, id, bind, Except.bind]
        rfl
      | some value =>
        have empty := hollow value id
        simp only [ofClaim, member?, id, empty, bind, Except.bind, Bool.false_eq_true, if_false]
        rfl

theorem ofClaims_eq_ok_iff {claims : List Json} {statements : List Statement} :
    ofClaims claims = .ok statements ↔
      ∃ told, List.Forall₂ Tells claims told ∧ statements = told.reduceOption := by
  induction claims generalizing statements with
  | nil => simp [ofClaims, List.reduceOption, eq_comm]
  | cons claim rest ih =>
    simp only [ofClaims, bind_eq_ok_iff, ofClaim_eq_ok_iff, ih]
    constructor
    · rintro ⟨first, tells, others, ⟨told, rests, rfl⟩, ⟨⟩⟩
      refine ⟨first :: told, .cons tells rests, ?_⟩
      cases first <;> rfl
    · rintro ⟨told, tells, rfl⟩
      cases tells with
      | @cons _ first _ told tells rests =>
        refine ⟨first, tells, _, ⟨told, rests, rfl⟩, ?_⟩
        cases first <;> rfl

theorem eq_nil_of_ofClaims_texts {texts : List String} {statements : List Statement}
    (read : ofClaims (texts.map Json.str) = .ok statements) : texts = [] := by
  obtain ⟨told, tells, -⟩ := ofClaims_eq_ok_iff.mp read
  cases texts with
  | nil => rfl
  | cons text rest => nomatch tells

-- A text or an object is gone through as well, by characters or names, and fails at the first.
theorem eq_arr_of_items {value : Json} {claims : List Json} {statements : List Statement}
    (holds : value.holds = true) (listed : items value = .ok claims)
    (read : ofClaims claims = .ok statements) : value = .arr claims := by
  cases value with
  | arr items =>
    cases listed
    rfl
  | obj members =>
    cases listed
    have none := eq_nil_of_ofClaims_texts
      (show ofClaims ((members.map Prod.fst).map Json.str) = .ok statements by
        simpa [Function.comp_def] using read)
    simp [Json.holds, List.map_eq_nil_iff.mp none] at holds
  | str text =>
    cases listed
    have none := eq_nil_of_ofClaims_texts
      (show ofClaims ((text.toList.map String.singleton).map Json.str) = .ok statements by
        simpa [Function.comp_def] using read)
    simp [Json.holds, String.toList_eq_nil_iff.mp (List.map_eq_nil_iff.mp none)] at holds
  | _ => simp [items] at listed

theorem items_part_of_lists {given : Option Json} {claims : List Json}
    (lists : Lists given claims) : items (part given) = .ok claims := by
  cases lists with
  | array =>
    cases claims with
    | nil => rfl
    | cons => rfl
  | empty hollow =>
    simp only [part, hollow]
    rfl
  | missing => rfl

theorem lists_of_items_part {given : Option Json} {claims : List Json}
    {statements : List Statement} (listed : items (part given) = .ok claims)
    (read : ofClaims claims = .ok statements) : Lists given claims := by
  cases given with
  | none =>
    cases listed
    exact .missing
  | some value =>
    simp only [part] at listed
    split at listed
    next holds =>
      rw [eq_arr_of_items holds listed read]
      exact .array claims
    next hollow =>
      cases listed
      exact .empty (by simpa using hollow)

/-- Reading the claims of an object gives the statements that they make. -/
theorem ofDocument_eq_ok_iff {entity prop : String} {document : List (String × Json)}
    {statements : List Statement} :
    ofDocument entity prop (.obj document) = .ok statements ↔
      ∃ claims told, Claims entity prop document claims ∧ List.Forall₂ Tells claims told ∧
        statements = told.reduceOption := by
  have start :
      memberPart "entities" (.obj document) = .ok (part (document.lookup "entities")) := rfl
  simp only [ofDocument, start]
  -- Every part on the way is opened by the step before it, in both directions.
  constructor
  · intro read
    obtain ⟨_, ⟨⟩, read⟩ := bind_eq_ok_iff.mp read
    obtain ⟨_, first, read⟩ := bind_eq_ok_iff.mp read
    obtain ⟨entities, opensEntities, rfl⟩ := memberPart_eq_ok_iff.mp first
    obtain ⟨_, second, read⟩ := bind_eq_ok_iff.mp read
    obtain ⟨item, opensItem, rfl⟩ := memberPart_eq_ok_iff.mp second
    obtain ⟨_, third, read⟩ := bind_eq_ok_iff.mp read
    obtain ⟨byProperty, opensClaims, rfl⟩ := memberPart_eq_ok_iff.mp third
    obtain ⟨claims, listed, read⟩ := bind_eq_ok_iff.mp read
    obtain ⟨told, tells, rfl⟩ := ofClaims_eq_ok_iff.mp read
    exact ⟨claims, told, ⟨entities, item, byProperty, opensEntities, opensItem, opensClaims,
      lists_of_items_part listed read⟩, tells, rfl⟩
  · rintro ⟨claims, told, ⟨entities, item, byProperty, opensEntities, opensItem, opensClaims,
      lists⟩, tells, rfl⟩
    refine bind_eq_ok_iff.mpr ⟨_, rfl, ?_⟩
    refine bind_eq_ok_iff.mpr ⟨_, memberPart_eq_ok_iff.mpr ⟨entities, opensEntities, rfl⟩, ?_⟩
    refine bind_eq_ok_iff.mpr ⟨_, memberPart_eq_ok_iff.mpr ⟨item, opensItem, rfl⟩, ?_⟩
    refine bind_eq_ok_iff.mpr ⟨_, memberPart_eq_ok_iff.mpr ⟨byProperty, opensClaims, rfl⟩, ?_⟩
    exact bind_eq_ok_iff.mpr
      ⟨claims, items_part_of_lists lists, ofClaims_eq_ok_iff.mpr ⟨told, tells, rfl⟩⟩

/-! ## From the outcome to the statements -/

theorem isSound_iff {document : List (String × Json)} :
    IsSound document ↔ ((document.lookup "error").getD .null).holds = false := by
  unfold IsSound
  cases document.lookup "error" <;> simp [Json.holds]

theorem ofReply_of_told {entity prop : String} {document : List (String × Json)}
    {statements : List Statement} (sound : IsSound document)
    (told : ofDocument entity (uppered prop) (.obj document) = .ok statements) :
    ofReply entity prop (.obj document) = .ok statements := by
  simp only [ofReply, member?, isSound_iff.mp sound, told, Bool.false_eq_true, if_false]

theorem ofReply_of_fault {entity prop : String} {document : List (String × Json)} {reason : Fault}
    (sound : IsSound document)
    (fault : ofDocument entity (uppered prop) (.obj document) = .error reason) :
    ofReply entity prop (.obj document) = .error (.fault reason) := by
  simp only [ofReply, member?, isSound_iff.mp sound, fault, Bool.false_eq_true, if_false]

theorem ofReply_of_unsound {entity prop : String} {document : List (String × Json)}
    (unsound : ¬ IsSound document) :
    ∃ message, ofReply entity prop (.obj document) = .error (.remote message) := by
  have holds : ((document.lookup "error").getD .null).holds = true := by
    simpa [isSound_iff] using unsound
  simp only [ofReply, member?, holds, if_true]
  exact ⟨_, rfl⟩

theorem ofReply_of_ne_obj {entity prop : String} {value : Json}
    (shapeless : ∀ document, value ≠ .obj document) :
    ofReply entity prop value = .error (.fault (.noMembers value.kind)) := by
  cases value with
  | obj document => exact absurd rfl (shapeless document)
  | _ => rfl

/-- How the outcome of its request is taken as the reply to a read. -/
structure Reads (entity prop : String) (outcome : Http.Outcome)
    (reply : Except CallFailure (List Statement)) : Prop where
  told : ∀ statements, reply = .ok statements ↔
    ∃ document claims told, Brings outcome (.obj document) ∧ IsSound document ∧
      Claims entity (uppered prop) document claims ∧ List.Forall₂ Tells claims told ∧
      statements = told.reduceOption
  remote : (∃ message, reply = .error (.remote message)) ↔
    (∀ value, ¬ Brings outcome value) ∨
      ∃ document, Brings outcome (.obj document) ∧ ¬ IsSound document
  misshapen : (∃ reason, reply = .error (.fault reason)) ↔
    ∃ value, Brings outcome value ∧ ∀ document, value = .obj document →
      IsSound document ∧ ¬ IsReadable entity (uppered prop) document
  otherwise : (∃ statements, reply = .ok statements) ∨
    (∃ message, reply = .error (.remote message)) ∨ ∃ reason, reply = .error (.fault reason)

section

variable {entity prop : String} {outcome : Http.Outcome}

theorem read_of_brings {value : Json} (brings : Brings outcome value) :
    read entity prop outcome = ofReply entity prop value := by
  simp only [read, document_eq_ok_iff.mpr brings]

theorem reads_nothing (nothing : ∀ value, ¬ Brings outcome value)
    (fails : ∃ message, read entity prop outcome = .error (.remote message)) :
    Reads entity prop outcome (read entity prop outcome) := by
  obtain ⟨message, remote⟩ := fails
  refine ⟨fun statements => ?_, ?_, ?_, .inr (.inl ⟨message, remote⟩)⟩
  · refine iff_of_false (by simp [remote]) ?_
    rintro ⟨document, -, -, brings, -⟩
    exact nothing _ brings
  · exact iff_of_true ⟨message, remote⟩ (.inl nothing)
  · refine iff_of_false (by simp [remote]) ?_
    rintro ⟨value, brings, -⟩
    exact nothing value brings

theorem reads_shapeless {value : Json} (brings : Brings outcome value)
    (shapeless : ∀ document, value ≠ .obj document) :
    Reads entity prop outcome (read entity prop outcome) := by
  have fault : read entity prop outcome = .error (.fault (.noMembers value.kind)) :=
    (read_of_brings brings).trans (ofReply_of_ne_obj shapeless)
  refine ⟨fun statements => ?_, ?_, ?_, .inr (.inr ⟨_, fault⟩)⟩
  · refine iff_of_false (by simp [fault]) ?_
    rintro ⟨document, -, -, other, -⟩
    exact shapeless document (brings.eq other)
  · refine iff_of_false (by simp [fault]) ?_
    rintro (nothing | ⟨document, other, -⟩)
    · exact nothing value brings
    · exact shapeless document (brings.eq other)
  · exact iff_of_true ⟨_, fault⟩
      ⟨value, brings, fun document is => absurd is (shapeless document)⟩

theorem reads_unsound {document : List (String × Json)} (brings : Brings outcome (.obj document))
    (unsound : ¬ IsSound document) : Reads entity prop outcome (read entity prop outcome) := by
  obtain ⟨message, remote⟩ : ∃ message, read entity prop outcome = .error (.remote message) := by
    rw [read_of_brings brings]
    exact ofReply_of_unsound unsound
  refine ⟨fun statements => ?_, ?_, ?_, .inr (.inl ⟨message, remote⟩)⟩
  · refine iff_of_false (by simp [remote]) ?_
    rintro ⟨other, -, -, others, sound, -⟩
    cases brings.eq others
    exact unsound sound
  · exact iff_of_true ⟨message, remote⟩ (.inr ⟨document, brings, unsound⟩)
  · refine iff_of_false (by simp [remote]) ?_
    rintro ⟨value, others, shape⟩
    exact unsound (shape document (others.eq brings)).1

theorem reads_sound {document : List (String × Json)} (brings : Brings outcome (.obj document))
    (sound : IsSound document) : Reads entity prop outcome (read entity prop outcome) := by
  -- Only one document came, so that it decides which of the three replies it is.
  have unique {other : List (String × Json)} (others : Brings outcome (.obj other)) :
      other = document := by
    cases brings.eq others
    rfl
  have remote : ¬ ((∀ value, ¬ Brings outcome value) ∨
      ∃ document, Brings outcome (.obj document) ∧ ¬ IsSound document) := by
    rintro (nothing | ⟨other, others, unsound⟩)
    · exact nothing _ brings
    · exact unsound (unique others ▸ sound)
  cases told : ofDocument entity (uppered prop) (.obj document) with
  | ok statements =>
    have reply := (read_of_brings brings).trans (ofReply_of_told sound told)
    obtain ⟨claims, each, found, tells, rfl⟩ := ofDocument_eq_ok_iff.mp told
    refine ⟨fun statements => ?_, iff_of_false (by simp [reply]) remote,
      iff_of_false (by simp [reply]) ?_, .inl ⟨_, reply⟩⟩
    · constructor
      · intro same
        cases reply.symm.trans same
        exact ⟨document, claims, each, brings, sound, found, tells, rfl⟩
      · rintro ⟨other, others, those, brought, -, elsewhere, tell, rfl⟩
        cases unique brought
        have same := ofDocument_eq_ok_iff.mpr ⟨others, those, elsewhere, tell, rfl⟩
        rw [reply, Except.ok.inj (told.symm.trans same)]
    · rintro ⟨value, others, shape⟩
      exact (shape document (others.eq brings)).2 ⟨claims, each, found, tells⟩
  | error reason =>
    have reply := (read_of_brings brings).trans (ofReply_of_fault sound told)
    have unreadable : ¬ IsReadable entity (uppered prop) document := by
      rintro ⟨claims, each, found, tells⟩
      have read := ofDocument_eq_ok_iff.mpr ⟨claims, each, found, tells, rfl⟩
      simp [told] at read
    refine ⟨fun statements => ?_, iff_of_false (by simp [reply]) remote,
      iff_of_true ⟨reason, reply⟩ ?_, .inr (.inr ⟨reason, reply⟩)⟩
    · refine iff_of_false (by simp [reply]) ?_
      rintro ⟨other, claims, each, others, -, found, tells, -⟩
      cases unique others
      exact unreadable ⟨claims, each, found, tells⟩
    · refine ⟨_, brings, ?_⟩
      rintro other ⟨⟩
      exact ⟨sound, unreadable⟩

end

/-- A read whose request has a regular outcome gives the statements that an entity document tells,
in its order; it fails remotely if and only if no JSON value came or an error is reported; and it is
a fault if and only if the value that came is no object, or is one that reports no error and has not
the shape of an entity document. -/
theorem remote_unless_misshapen (entity prop : String) {outcome : Http.Outcome}
    (regular : Http.IsRegular outcome) : Reads entity prop outcome (read entity prop outcome) := by
  obtain ⟨value, came⟩ | ⟨message, lost⟩ | unread := document_of_regular regular
  · have brings := document_eq_ok_iff.mp came
    by_cases shape : ∃ document, value = .obj document
    · obtain ⟨document, rfl⟩ := shape
      by_cases sound : IsSound document
      · exact reads_sound brings sound
      · exact reads_unsound brings sound
    · exact reads_shapeless brings fun document is => shape ⟨document, is⟩
  · have nothing (value : Json) : ¬ Brings outcome value := fun brings => by
      simp [document_eq_ok_iff.mpr brings] at lost
    refine reads_nothing nothing ?_
    simp only [read, lost]
    exact ⟨_, rfl⟩
  · have nothing (value : Json) : ¬ Brings outcome value := fun brings => by
      simp [document_eq_ok_iff.mpr brings] at unread
    refine reads_nothing nothing ?_
    simp only [read, unread]
    exact ⟨_, rfl⟩

def numberedValue : List (String × Json) := [("value", .obj [("numeric-id", .int 5)])]

def numberedClaim : List (String × Json) :=
  [("id", .str "Q42$1"), ("mainsnak", .obj [("datavalue", .obj numberedValue)])]

def shelved : List (String × Json) :=
  [("entities", .obj [("Q42", .obj [("claims", .obj [("P31",
    .arr [.obj [("mainsnak", .null)], .obj numberedClaim])])])])]

theorem remote_unless_misshapen_shelved :
    Http.IsRegular (.ok ⟨200, .json (.obj shelved)⟩) ∧
      read "Q42" "p31" (.ok ⟨200, .json (.obj shelved)⟩) = .ok [⟨.str "Q42$1", some "Q5"⟩] := by
  have regular := isRegular_json 200 (.obj shelved)
  have brings : Brings (.ok ⟨200, .json (.obj shelved)⟩) (.obj shelved) :=
    ⟨_, rfl, by decide, by decide, rfl⟩
  have prop : uppered "p31" = "P31" := by decide +kernel
  have claims : Claims "Q42" (uppered "p31") shelved
      [.obj [("mainsnak", .null)], .obj numberedClaim] := by
    rw [prop]
    exact ⟨_, _, _, .object _, .object _, .object _, .array _⟩
  have first : Tells (.obj [("mainsnak", .null)]) none := by
    refine .unnamed fun id found => ?_
    cases found
  have second : Tells (.obj numberedClaim) (some ⟨.str "Q42$1", some "Q5"⟩) := by
    have value : comparable (numberedValue.lookup "value") = some "Q5" := by decide +kernel
    rw [← value]
    exact .named rfl rfl (.object _) (.object _)
  have sound : IsSound shelved := by
    intro error reported
    cases reported
  exact ⟨regular, ((remote_unless_misshapen "Q42" "p31" regular).told _).mpr
    ⟨shelved, _, _, brings, sound, claims, .cons first (.cons second .nil), rfl⟩⟩

/-- A read to which a list is replied in place of an object neither gives statements nor fails
remotely. -/
theorem list_is_misshapen :
    Http.IsRegular (.ok ⟨200, .json (.arr [])⟩) ∧
      ¬ ((∃ statements, read "Q42" "P31" (.ok ⟨200, .json (.arr [])⟩) = .ok statements) ∨
        ∃ message, read "Q42" "P31" (.ok ⟨200, .json (.arr [])⟩) = .error (.remote message)) := by
  have fault : read "Q42" "P31" (.ok ⟨200, .json (.arr [])⟩) =
      .error (.fault (.noMembers "list")) := rfl
  exact ⟨isRegular_json 200 _, by simp [fault]⟩

end EditBatch.Wiki.Statements
