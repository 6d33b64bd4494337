import EditBatch.Command.Basic
import EditBatch.Text.Blank
import EditBatch.Text.Digit

/-! Statement rows: what to do on every selected item.

* `-P31` deletes the first statement of a property,
* `-P31:Q5` the first one with that value,
* `P31:Q5` adds a statement.

Letters may be in either case, and blanks may stand around the parts except behind the minus.
Behind a deletion anything may follow.
-/

set_option autoImplicit false

namespace EditBatch

open EditBatch.Text

structure Row where
  mode : Mode
  prop : String
  value : Option String := none
  deriving DecidableEq, Repr

structure MalformedRow where
  text : String
  line : Int
  deriving DecidableEq, Repr

def malformedRowMessage (line row : String) : String :=
  "Unrecognized command row " ++ line ++ ": " ++ row

def MalformedRow.message (e : MalformedRow) : String :=
  malformedRowMessage (toString e.line) (quoted e.text)

namespace Row

def readId? (capital small : Char) : List Char → Option (List Char × List Char)
  | [] => none
  | c :: rest =>
    if (c = capital || c = small) && !(rest.takeWhile isDigit).isEmpty then
      some (rest.takeWhile isDigit, rest.dropWhile isDigit)
    else none

def readValue? (text : List Char) : Option (List Char × List Char) :=
  match trimStart text with
  | ':' :: rest => readId? 'Q' 'q' (trimStart rest)
  | _ => none

def propertyOf (digits : List Char) : String := String.ofList ('P' :: digits)

def itemOf (digits : List Char) : String := String.ofList ('Q' :: digits)

def readDeletion? (text : List Char) : Option Row :=
  (readId? 'P' 'p' text).map fun (digits, rest) =>
    ⟨.delete, propertyOf digits, (readValue? rest).map fun (digits, _) => itemOf digits⟩

def readAddition? (text : List Char) : Option Row :=
  match readId? 'P' 'p' text with
  | some (property, rest) =>
    match readValue? rest with
    | some (item, rest) =>
      if rest.all isBlank then some ⟨.add, propertyOf property, some (itemOf item)⟩ else none
    | none => none
  | none => none

def readChars? (text : List Char) : Option Row :=
  match trimStart text with
  | '-' :: rest => readDeletion? rest
  | rest => readAddition? rest

def read? (text : String) : Option Row := readChars? text.toList

def read (text : String) (line : Int) : Except MalformedRow Row :=
  match read? text with
  | some row => .ok row
  | none => .error ⟨text, line⟩

example : read? "\u2003-p3\u0661 : q5x" = some ⟨.delete, "P3\u0661", some "Q5"⟩ := by
  decide +kernel
example : read? "P31:Q5 \n" = some ⟨.add, "P31", some "Q5"⟩ ∧ read? "P31:Q5x" = none := by
  decide +kernel

end Row

end EditBatch
