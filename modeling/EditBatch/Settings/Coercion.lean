import EditBatch.Decimal.Literal
import EditBatch.Json.Basic
import EditBatch.Text.Blank

/-! What a given value means for a setting of a certain type.

Text stands for numbers and switches, a number without fraction for an integer, and a switch
for the numbers zero and one. Nothing but text stands for text.
-/

set_option autoImplicit false

namespace EditBatch.Settings

open EditBatch.Decimal EditBatch.Text

/-- The text without the underscores that join its characters; none may stand at an end of the
text or beside another one. -/
def ungrouped? (text : List Char) : Option (List Char) :=
  let alone := (text.zip (text.drop 1)).all fun (c, next) => c ≠ '_' || next ≠ '_'
  if alone && text.head? ≠ some '_' && text.getLast? ≠ some '_' then some (text.filter (· ≠ '_'))
  else none

/-- The text without the zeros and underscores at its start. The last one stays before a point
and at the end. -/
def dropZeros : List Char → List Char
  | c :: next :: rest =>
    if (c = '0' || c = '_') && next ≠ '.' then dropZeros (next :: rest) else c :: next :: rest
  | text => text

def dropFraction (text : List Char) : List Char :=
  let fraction := (text.dropWhile (· ≠ '.')).drop 1
  if !fraction.isEmpty && fraction.all (· = '0') then text.takeWhile (· ≠ '.') else text

/-- The integer that digits are, perhaps behind a minus. The first digit is zero only if it is
the only one. -/
def plainInteger? (text : List Char) : Option Int :=
  let (negative, digits) :=
    match text with
    | '-' :: digits => (true, digits)
    | digits => (false, digits)
  if !digits.isEmpty && digits.all Char.isDigit && digits.length ≤ digitLimit &&
      (digits.head? ≠ some '0' || digits.length = 1) then
    some (signed negative (naturalOf digits))
  else none

/-- The integer that a text is. White space around it and a plus do not count, nor do zeros
before it, underscores between digits and a fraction of zeros. Behind zeros a minus may stand. -/
def integerOfText? (text : String) : Option Int :=
  let (minus, unsigned) :=
    match trimWhiteSpace text.toList with
    | '+' :: rest => ([], rest)
    | '-' :: rest => (['-'], rest)
    | rest => ([], rest)
  if unsigned.head?.any Char.isDigit then
    let digits := if unsigned.head? = some '0' then dropZeros unsigned else unsigned
    (ungrouped? (dropFraction digits)).bind fun digits => plainInteger? (minus ++ digits)
  else none

def numberOfText? (text : String) : Option Double :=
  Double.ofText? (trimWhiteSpace text.toList) <|> (ungrouped? text.toList).bind Double.ofText?

/-- Numbers from this size on are not taken for integers. -/
def wholeLimit : Nat := Nat.pow 2 63

def integer? : Json → Option Int
  | .int value => some value
  | .bool value => some (if value then 1 else 0)
  | .float value => value.toInt?.filter fun whole => whole.natAbs < wholeLimit
  | .str text => integerOfText? text
  | _ => none

def optionalInteger? : Json → Option (Option Int)
  | .null => some none
  | value => (integer? value).map some

def onWords : List String := ["1", "t", "y", "on", "yes", "true"]

def offWords : List String := ["0", "f", "n", "no", "off", "false"]

def switchOfText? (text : String) : Option Bool :=
  let word := String.ofList (text.toList.map Char.toLower)
  if onWords.contains word then some true
  else if offWords.contains word then some false
  else none

def switch? : Json → Option Bool
  | .bool value => some value
  | .str text => switchOfText? text
  | .null | .arr _ | .obj _ => none
  | number =>
    match integer? number with
    | some 0 => some false
    | some 1 => some true
    | _ => none

def number? : Json → Option Double
  | .float value => some value
  | .int value =>
    match Double.ofInt value with
    | .infinite _ => none
    | number => some number
  | .bool value => some (.ofInt (if value then 1 else 0))
  | .str text => numberOfText? text
  | _ => none

def text? : Json → Option String
  | .str text => some text
  | _ => none

example : integerOfText? " +0__07.0 " = some 7 ∧ integerOfText? "00-5_0" = some (-50) := by
  decide +kernel
example : integerOfText? "1." = none ∧ integerOfText? "1__0" = none := by
  decide +kernel
example : numberOfText? "1_e_5" = some (.ofDecimal false 1 5) ∧ numberOfText? "1__0" = none := by
  decide +kernel

end EditBatch.Settings
