import EditBatch.Decimal.Literal
import EditBatch.Text.Blank
import EditBatch.Text.Digit

/-! Integers in digits of any script.

White space may stand around an integer, a sign before it, and single underscores between its
digits.
-/

set_option autoImplicit false

namespace EditBatch.Text

open EditBatch.Decimal

def valueOfDigits (digits : List Char) : Nat :=
  digits.foldl (fun value c => 10 * value + (digitValue? c).getD 0) 0

def readInteger? (text : String) : Option Int :=
  let (negative, unsigned) := readSign (trimWhiteSpace text.toList)
  (integerDigits? isDigit unsigned).map fun digits => signed negative (valueOfDigits digits)

example : readInteger? "\u00a0+1_0\u0664 " = some 104 ∧ readInteger? "1__0" = none := by
  decide +kernel
example : readInteger? "\x1c2" = none := by decide +kernel

end EditBatch.Text
