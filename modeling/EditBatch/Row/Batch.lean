import EditBatch.Item.Id
import EditBatch.Row.Sheet

/-! A batch: every selected item combined with every statement row.

The commands of a selection stand together: its creation first, if it asks for one, then one
command a row. All share one ref, and the last one closes the group.
-/

set_option autoImplicit false

namespace EditBatch

/-- One selected item, existing or to be created. The group id is the caller's name for it. -/
structure Selection where
  entityRef : Option String := none
  page : String := ""
  fromRedlink : Bool := false
  create : Bool := false
  groupId : Option String := none
  deriving DecidableEq, Repr

inductive SelectionFault where
  | nothingSelected
  | badId (reason : Item.InvalidId)
  deriving DecidableEq, Repr

/-- A numbered selection with neither a usable item nor a creation. -/
structure MalformedSelection where
  index : Nat
  fault : SelectionFault
  deriving DecidableEq, Repr

def MalformedSelection.message (e : MalformedSelection) : String :=
  let start := "Selection " ++ toString e.index
  match e.fault with
  | .nothingSelected => start ++ " has no item id and no creation request"
  | .badId reason => start ++ ": " ++ reason.message

namespace Selection

def ref (index : Nat) (selection : Selection) : Except MalformedSelection String :=
  match selection.entityRef with
  | none | some "" =>
    if selection.create then .ok (Item.placeholder index) else .error ⟨index, .nothingSelected⟩
  | some ref =>
    if Item.isPlaceholder ref then .ok ref
    else
      match Item.normalizeId ref with
      | .ok id => .ok id
      | .error reason => .error ⟨index, .badId reason⟩

def creation (id : Nat) (ref : String) (selection : Selection) : Command :=
  { id := id, entityRef := ref, mode := .create, page := selection.page
    fromRedlink := selection.fromRedlink, groupId := selection.groupId }

def edit (id : Nat) (ref : String) (selection : Selection) (row : Row) : Command :=
  { id := id, entityRef := ref, mode := row.mode, prop := row.prop, value := row.value
    groupId := selection.groupId }

def edits (id : Nat) (ref : String) (selection : Selection) : List Row → List Command
  | [] => []
  | row :: rest => selection.edit id ref row :: selection.edits (id + 1) ref rest

/-- The commands of a selection before its group is closed; ids count from the given one. -/
def openGroup (id : Nat) (ref : String) (rows : List Row) (selection : Selection) :
    List Command :=
  if selection.create then
    selection.creation id ref :: selection.edits (id + 1) ref rows
  else selection.edits id ref rows

end Selection

def closeGroup : List Command → List Command
  | [] => []
  | [last] => [{ last with closesGroup := true }]
  | command :: rest => command :: closeGroup rest

def combine (rows : List Row) :
    (index id : Nat) → List Selection → Except MalformedSelection (List Command)
  | _, _, [] => .ok []
  | index, id, selection :: rest => do
    let ref ← selection.ref index
    let group := closeGroup (selection.openGroup id ref rows)
    let others ← combine rows (index + 1) (id + group.length) rest
    return group ++ others

structure Batch where
  commands : List Command
  malformed : List MalformedRow
  deriving DecidableEq, Repr

def Batch.read (text : String) (selections : List Selection) :
    Except MalformedSelection Batch := do
  let sheet := Sheet.read text
  let commands ← combine sheet.rows 0 0 selections
  return ⟨commands, sheet.malformed⟩

end EditBatch
