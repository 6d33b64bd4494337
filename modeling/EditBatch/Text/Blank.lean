import EditBatch.Text.CodeRange

/-! Blank characters, and text without the blanks around it.

The class is Unicode white space together with the four information separators
`U+001C` to `U+001F`; zero-width characters do not belong to it.
-/

set_option autoImplicit false

namespace EditBatch.Text

def blankRanges : List (Nat × Nat) :=
  [(0x9, 0xD), (0x1C, 0x20), (0x85, 0x85), (0xA0, 0xA0), (0x1680, 0x1680), (0x2000, 0x200A),
   (0x2028, 0x2029), (0x202F, 0x202F), (0x205F, 0x205F), (0x3000, 0x3000)]

def isBlank (c : Char) : Bool := inRanges blankRanges c.toNat

/-- White space in the sense of Unicode, which has no separators. -/
def isWhiteSpace (c : Char) : Bool := isBlank c && !(0x1C ≤ c.toNat && c.toNat ≤ 0x1F)

def trimStart (text : List Char) : List Char := text.dropWhile isBlank

def trimEnd (text : List Char) : List Char := (text.reverse.dropWhile isBlank).reverse

def trim (text : List Char) : List Char := trimEnd (trimStart text)

def trimWhiteSpace (text : List Char) : List Char :=
  ((text.dropWhile isWhiteSpace).reverse.dropWhile isWhiteSpace).reverse

def trimmed (text : String) : String := String.ofList (trim text.toList)

example : trimmed "\u00a0Q1 \u2003\n" = "Q1" := by decide +kernel

end EditBatch.Text
