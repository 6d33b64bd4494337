import EditBatch.Text.CodeRange

/-! The lines of a text.

Line feed, carriage return, line tabulation, form feed, the separators `U+001C` to `U+001E`,
`U+0085`, `U+2028` and `U+2029` end a line; carriage return and line feed together end one.
A text that ends with a break has no further empty line after it.
-/

set_option autoImplicit false

namespace EditBatch.Text

def lineBreakRanges : List (Nat × Nat) :=
  [(0xA, 0xD), (0x1C, 0x1E), (0x85, 0x85), (0x2028, 0x2029)]

def isLineBreak (c : Char) : Bool := inRanges lineBreakRanges c.toNat

/-- The text `c` followed by the lines of the rest, where `c` breaks no line. -/
def consToLines (c : Char) : List (List Char) → List (List Char)
  | [] => [[c]]
  | line :: rest => (c :: line) :: rest

def splitLines : List Char → List (List Char)
  | [] => []
  | '\r' :: '\n' :: rest => [] :: splitLines rest
  | c :: rest => if isLineBreak c then [] :: splitLines rest else consToLines c (splitLines rest)

def lines (text : String) : List String := (splitLines text.toList).map String.ofList

example : lines "a\r\nb\n\nc\u2028" = ["a", "b", "", "c"] := by decide +kernel

end EditBatch.Text
