import EditBatch.Http.Basic
import EditBatch.Text.Upper

/-! Reading the statements of an item from entity documents.

A missing or empty part of a document counts as having no statements; a part of another shape
than expected is a fault. Statements without an id are left out.
-/

set_option autoImplicit false

namespace EditBatch.Wiki.Statements

open EditBatch.Text

def request (url entity : String) : Http.Request where
  url := url
  params :=
    [("action", "wbgetentities"), ("ids", entity), ("props", "claims"), ("format", "json")]

def member? (name : String) : Json → Except Fault (Option Json)
  | .obj members => .ok (members.lookup name)
  | value => .error (.noMembers value.kind)

/-- A part that is missing or empty is taken as one without members. -/
def part : Option Json → Json
  | some value => if value.holds then value else .obj []
  | none => .obj []

def memberPart (name : String) (value : Json) : Except Fault Json :=
  return part (← member? name value)

/-- The comparable value of a statement: of an item its id, of other objects nothing. -/
def comparable : Option Json → Option String
  | none | some .null => none
  | some (.obj members) =>
    let id := (members.lookup "id").getD .null
    if id.holds then some (uppered id.text)
    else (members.lookup "numeric-id").map fun number => "Q" ++ number.text
  | some value => some value.text

def snakValue (snak : Option Json) : Except Fault (Option String) := do
  let dataValue ← memberPart "datavalue" (part snak)
  return comparable (← member? "value" dataValue)

def ofClaim (claim : Json) : Except Fault (Option Statement) := do
  match ← member? "id" claim with
  | none => return none
  | some id =>
    if id.holds then
      let value ← snakValue (← member? "mainsnak" claim)
      return some ⟨id, value⟩
    else return none

def ofClaims : List Json → Except Fault (List Statement)
  | [] => .ok []
  | claim :: rest => do
    let first ← ofClaim claim
    let others ← ofClaims rest
    return first.toList ++ others

def items : Json → Except Fault (List Json)
  | .arr items => .ok items
  | .obj members => .ok (members.map fun (name, _) => .str name)
  | .str text => .ok (text.toList.map fun c => .str (String.singleton c))
  | value => .error (.noItems value.kind)

def ofDocument (entity prop : String) (document : Json) : Except Fault (List Statement) := do
  let documents ← memberPart "entities" document
  let item ← memberPart entity documents
  let claims ← memberPart "claims" item
  ofClaims (← items (← memberPart prop claims))

def errorText (error : Json) : String :=
  match error with
  | .obj members => ((members.lookup "info").map (·.text)).getD "unknown error"
  | _ => error.text

def ofReply (entity prop : String) (document : Json) :
    Except CallFailure (List Statement) :=
  match member? "error" document with
  | .error reason => .error (.fault reason)
  | .ok error =>
    let error := error.getD .null
    if error.holds then
      .error (.remote ("wbgetentities error for " ++ entity ++ ": " ++ errorText error))
    else
      match ofDocument entity (uppered prop) document with
      | .ok statements => .ok statements
      | .error reason => .error (.fault reason)

def read (entity prop : String) (outcome : Http.Outcome) :
    Except CallFailure (List Statement) :=
  match Http.document outcome with
  | .error (.notDelivered message) =>
    .error (.remote ("wbgetentities failed for " ++ entity ++ ": " ++ message))
  | .error .notJson => .error (.remote "wbgetentities returned invalid JSON")
  | .error (.fault reason) => .error (.fault reason)
  | .ok document => ofReply entity prop document

end EditBatch.Wiki.Statements
