import EditBatch.Row.Basic
import EditBatch.Text.Line

/-! A text of statement rows, one a line. Blank lines are skipped. -/

set_option autoImplicit false

namespace EditBatch

open EditBatch.Text

structure Sheet where
  rows : List Row
  malformed : List MalformedRow
  deriving DecidableEq, Repr

namespace Sheet

def isBlankLine (line : String) : Bool := line.toList.all isBlank

def ofLines (number : Nat) : List String → Sheet
  | [] => ⟨[], []⟩
  | line :: rest =>
    let sheet := ofLines (number + 1) rest
    if isBlankLine line then sheet
    else
      match Row.read line number with
      | .ok row => { sheet with rows := row :: sheet.rows }
      | .error e => { sheet with malformed := e :: sheet.malformed }

def read (text : String) : Sheet := ofLines 1 (lines text)

end Sheet

end EditBatch
