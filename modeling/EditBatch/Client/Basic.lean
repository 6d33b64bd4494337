import EditBatch.Json.Basic

/-! The remote edits a batch is made of, and clients that perform them.

A client is a function from a call and its own state to an answer and a new state. The answer
comes some milliseconds after the call began; the state may remember anything, so replies may
depend on all earlier calls.
-/

set_option autoImplicit false

namespace EditBatch

/-- A statement of an item. The id is kept as the remote side gives it; the value is missing
if the statement says that there is none or that it is unknown. -/
structure Statement where
  id : Json
  value : Option String
  deriving Repr, BEq

inductive EditCall where
  /-- Creates an item, blank or linked to a page of a site. -/
  | createEntity (site page : Option String)
  | setLabel (entity language text : String)
  | setStatement (entity prop value : String)
  | readStatements (entity prop : String)
  | removeStatement (id : Json)
  deriving Repr, BEq

/-- What a call returns when it succeeds: the id of the new item, the statements read, or
nothing. -/
abbrev EditCall.Reply : EditCall → Type
  | .createEntity _ _ => String
  | .readStatements _ _ => List Statement
  | .setLabel _ _ _ | .setStatement _ _ _ | .removeStatement _ => Unit

/-- A failure that says nothing about the edit itself. -/
inductive Fault where
  | internal (message : String)
  | invalidAddress (message : String)
  /-- Members were asked of a value that has none. -/
  | noMembers (kind : String)
  /-- Items were asked of a value that has none. -/
  | noItems (kind : String)
  /-- Too many JSON values of a kind lie one inside another. -/
  | tooDeep (kind : String)
  deriving DecidableEq, Repr

def Fault.message : Fault → String
  | .internal message | .invalidAddress message => message
  | .noMembers kind => "no members in a value of kind " ++ kind
  | .noItems kind => "no items in a value of kind " ++ kind
  | .tooDeep kind =>
    "maximum recursion depth exceeded while decoding a JSON " ++ kind ++ " from a unicode string"

inductive CallFailure where
  /-- The call did not get through, or its answer cannot be understood. -/
  | remote (message : String)
  /-- The remote side refused the edit. -/
  | semantic (code info : String)
  | fault (reason : Fault)
  /-- A failure that nothing recovers from. -/
  | fatal
  deriving DecidableEq, Repr

def semanticMessage (code info : String) : String :=
  if info = "" then code else code ++ ": " ++ info

structure Answer (α : Type) where
  outcome : Except CallFailure α
  /-- Milliseconds from the beginning of the call to the answer. -/
  delay : Nat

structure EditClient (σ : Type) where
  /-- Performs a call that begins at the given time. -/
  perform : (now : Nat) → (call : EditCall) → σ → Answer call.Reply × σ

structure CallRecord where
  time : Nat
  call : EditCall
  deriving Repr, BEq

end EditBatch
