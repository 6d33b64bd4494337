import EditBatch.Json.Reader

/-! Documents in other encodings than UTF-8.

A JSON document begins with two characters below `U+0080`, or is one such character. Zero bytes
among its first four therefore tell in which encoding it is, and in which order the bytes of a
unit stand.
-/

set_option autoImplicit false

namespace EditBatch.Json

inductive ByteOrder where
  | bigEndian
  | littleEndian
  deriving DecidableEq, Repr

inductive Encoding where
  | utf8
  | utf16 (order : ByteOrder)
  | utf32 (order : ByteOrder)
  deriving DecidableEq, Repr

def Encoding.ofBytes : List Nat → Encoding
  | [a, b] =>
    if a = 0 then .utf16 .bigEndian else if b = 0 then .utf16 .littleEndian else .utf8
  | a :: b :: c :: d :: _ =>
    if a = 0 then if b = 0 then .utf32 .bigEndian else .utf16 .bigEndian
    else if b = 0 then if c = 0 && d = 0 then .utf32 .littleEndian else .utf16 .littleEndian
    else .utf8
  | _ => .utf8

def ByteOrder.unit (order : ByteOrder) (bytes : List Nat) : Nat :=
  let bytes :=
    match order with
    | .bigEndian => bytes
    | .littleEndian => bytes.reverse
  bytes.foldl (fun value byte => 256 * value + byte) 0

def units16? (order : ByteOrder) : List Nat → Option (List Nat)
  | [] => some []
  | a :: b :: rest => (units16? order rest).map (order.unit [a, b] :: ·)
  | _ => none

def units32? (order : ByteOrder) : List Nat → Option (List Nat)
  | [] => some []
  | a :: b :: c :: d :: rest => (units32? order rest).map (order.unit [a, b, c, d] :: ·)
  | _ => none

def character? (code : Nat) : Option Char :=
  if code.isValidChar then some (Char.ofNat code) else none

/-- The characters of UTF-16 units, of which surrogates must come in pairs. -/
def charactersOfUnits? : List Nat → Option (List Char)
  | [] => some []
  | [unit] => (character? unit).map ([·])
  | high :: low :: rest =>
    if isHighSurrogate high && isLowSurrogate low then do
      let c ← character? (0x10000 + (high - 0xD800) * 1024 + (low - 0xDC00))
      return c :: (← charactersOfUnits? rest)
    else do
      let c ← character? high
      return c :: (← charactersOfUnits? (low :: rest))

def decoded? (content : String) : Option String :=
  let bytes := content.toUTF8.data.toList.map UInt8.toNat
  match Encoding.ofBytes bytes with
  | .utf8 => some content
  | .utf16 order => ((units16? order bytes).bind charactersOfUnits?).map String.ofList
  | .utf32 order => ((units32? order bytes).bind (·.mapM character?)).map String.ofList

def readDocument (content : String) : Except ReadFailure Json :=
  match decoded? content with
  | some text => read text
  | none => .error .malformed

example : decoded? "[\x00]\x00" = some "[]" ∧ decoded? "\x005" = some "5" := by decide +kernel
example : decoded? "\x00[\x00" = some "\x00[\x00" ∧ decoded? "[]" = some "[]" := by decide +kernel

end EditBatch.Json
