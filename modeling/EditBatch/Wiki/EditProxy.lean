import EditBatch.Http.Basic
import EditBatch.Item.Id

/-! The proxy WiDaR, which performs edits for a logged-in user.

Every edit is one request whose parameter `action` names it. The answer is a JSON object whose
member `error` is the text `OK`, or tells what went wrong: an object with a code if the edit
itself was refused.
-/

set_option autoImplicit false

namespace EditBatch.Wiki.EditProxy

structure Endpoint where
  url : String
  hashtag : String
  deriving DecidableEq, Repr

structure Action where
  name : String
  params : List (String × String)
  deriving DecidableEq, Repr

/-- A new item is linked to a page if both the site and the page are given and not empty. -/
def createItem (site page : Option String) : Action :=
  match site, page with
  | some site, some page =>
    if site ≠ "" ∧ page ≠ "" then ⟨"create_item_from_page", [("site", site), ("page", page)]⟩
    else ⟨"create_blank_item", []⟩
  | _, _ => ⟨"create_blank_item", []⟩

def setLabel (entity language text : String) : Action :=
  ⟨"set_label", [("q", entity), ("lang", language), ("label", text)]⟩

def setClaim (entity prop value : String) : Action :=
  ⟨"set_claims", [("ids", entity), ("prop", prop), ("target", value)]⟩

def scalarText : Json → String
  | .bool true => "true"
  | .bool false => "false"
  | .null => ""
  | value => value.text

/-- A JSON value as query text. Of an array, the first item counts. -/
def queryText : Json → String
  | .arr (item :: _) => scalarText item
  | .arr [] => ""
  | value => scalarText value

def removeClaim (id : Json) : Action := ⟨"remove_claim", [("id", queryText id)]⟩

def request (endpoint : Endpoint) (action : Action) : Http.Request where
  url := endpoint.url
  params :=
    ("action", action.name) :: action.params ++
      [("tool_hashtag", endpoint.hashtag), ("botmode", "1")]

def failure (action : Action) (complaint : String) : CallFailure :=
  .remote ("WiDaR " ++ action.name ++ complaint)

def complaint (action : Action) (error : Json) : CallFailure :=
  match error with
  | .obj _ =>
    match error.member? "code" with
    | some code =>
      if code.holds then .semantic code.text (((error.member? "info").map (·.text)).getD "")
      else failure action (" error: " ++ error.literal)
    | none => failure action (" error: " ++ error.literal)
  | _ => failure action (" error: " ++ error.literal)

def accepted (action : Action) (outcome : Http.Outcome) : Except CallFailure Json :=
  match Http.document outcome with
  | .error (.notDelivered message) => .error (failure action (" failed: " ++ message))
  | .error .notJson => .error (failure action " returned invalid JSON")
  | .error (.fault reason) => .error (.fault reason)
  | .ok (.obj members) =>
    let error := (members.lookup "error").getD .null
    if error == .str "OK" then .ok (.obj members) else .error (complaint action error)
  | .ok value => .error (failure action (" returned " ++ value.kind))

def createdId (answer : Json) : Except CallFailure String :=
  let raw := (answer.member? "q").getD .null
  if raw.holds then
    match Item.normalizeId raw.text with
    | .ok id => .ok id
    | .error reason => .error (.remote reason.message)
  else .error (.remote ("Creation response has no item id: " ++ answer.literal))

end EditBatch.Wiki.EditProxy
