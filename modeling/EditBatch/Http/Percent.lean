/-! Characters as percent signs and hexadecimal digits, and the query of an address. -/

set_option autoImplicit false

namespace EditBatch.Http

def hexadecimalByte (byte : UInt8) : List Char :=
  [Nat.digitChar (byte.toNat / 16), Nat.digitChar (byte.toNat % 16)].map Char.toUpper

def percentEncoded (c : Char) : List Char :=
  (String.singleton c).toUTF8.data.toList.flatMap fun byte => '%' :: hexadecimalByte byte

def encodeUnsafe (isSafe : Char → Bool) (text : List Char) : List Char :=
  text.flatMap fun c => if isSafe c then [c] else percentEncoded c

def isUnreserved (c : Char) : Bool := c.isAlphanum || ['-', '.', '_', '~'].contains c

def isPathCharacter (c : Char) : Bool :=
  '!' ≤ c && c ≤ '~' && !("\x22#<>?\x60\x7b\x7d".toList.contains c)

def isUserCharacter (c : Char) : Bool :=
  isPathCharacter c && !("/;=@[\\]^|".toList.contains c)

def isHostCharacter (c : Char) : Bool :=
  isUnreserved c || "!$&\x27()*+,;=\x22\x60\x7b\x7d%|\\".toList.contains c

/-- A name or a value inside a query, where a plus stands for a blank. -/
def queryComponent (text : String) : List Char :=
  text.toList.flatMap fun c =>
    if c = ' ' then ['+'] else if isUnreserved c then [c] else percentEncoded c

def queryOf (params : List (String × String)) : List Char :=
  ['&'].intercalate (params.map fun (name, value) =>
    queryComponent name ++ '=' :: queryComponent value)

example : queryOf [("q", "a b"), ("label", "é&")] = "q=a+b&label=%C3%A9%26".toList := by
  decide +kernel

end EditBatch.Http
