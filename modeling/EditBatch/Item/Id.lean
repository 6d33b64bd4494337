import EditBatch.Json.Basic
import EditBatch.Text.Blank
import EditBatch.Text.Digit

/-! Ids of items and properties, and the placeholders of items that do not exist yet. -/

set_option autoImplicit false

namespace EditBatch.Item

open EditBatch.Text

inductive IdKind where
  | item
  | property
  deriving DecidableEq, Repr

structure InvalidId where
  kind : IdKind
  shown : String
  deriving DecidableEq, Repr

def InvalidId.message (e : InvalidId) : String :=
  match e.kind with
  | .item => "Not an item id: " ++ e.shown
  | .property => "Not a property id: " ++ e.shown

def isNumber (text : List Char) : Bool := !text.isEmpty && text.all isDigit

def afterItemLetter : List Char → List Char
  | [] => []
  | c :: rest => if c = 'Q' || c = 'q' then rest else c :: rest

/-- The normal form `Q<digits>` of an item id, given with or without its letter. -/
def normalizeId? (text : String) : Option String :=
  let digits := afterItemLetter (trim text.toList)
  if isNumber digits then some (String.ofList ('Q' :: digits)) else none

def normalizeId (text : String) : Except InvalidId String :=
  match normalizeId? text with
  | some id => .ok id
  | none => .error ⟨.item, quoted text⟩

def idOfJson (value : Json) : Except InvalidId String :=
  match normalizeId? value.text with
  | some id => .ok id
  | none => .error ⟨.item, value.literal⟩

def normalizeProperty (text : String) : Except InvalidId String :=
  match trim text.toList with
  | c :: digits =>
    if (c = 'P' || c = 'p') && isNumber digits then .ok (String.ofList ('P' :: digits))
    else .error ⟨.property, quoted text⟩
  | [] => .error ⟨.property, quoted text⟩

def placeholderStem : String := "create_item_"

/-- The ref that stands for the item to be created for a numbered selection. -/
def placeholder (index : Int) : String := placeholderStem ++ toString index

def isPlaceholder (ref : String) : Bool := placeholderStem.toList.isPrefixOf ref.toList

theorem isPlaceholder_placeholder (index : Int) : isPlaceholder (placeholder index) = true := by
  rw [isPlaceholder, List.isPrefixOf_iff_prefix, placeholder, String.toList_append]
  exact List.prefix_append _ _

theorem placeholder_inj {one other : Nat} (same : placeholder one = placeholder other) :
    one = other := by
  have texts := congrArg String.toList same
  simp only [placeholder, String.toList_append, List.append_cancel_left_eq] at texts
  have digits : Nat.toDigits 10 one = Nat.toDigits 10 other := by
    rw [← Nat.toList_repr, ← Nat.toList_repr]
    exact texts
  rw [← Nat.ofDigitChars_ten_toDigits (n := one), digits, Nat.ofDigitChars_ten_toDigits]

example : normalizeId? "\u00a0q\u0664\u0662\n" = some "Q\u0664\u0662" := by decide +kernel
example : isPlaceholder (placeholder 3) = true := by decide +kernel

end EditBatch.Item
