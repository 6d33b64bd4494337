import EditBatch.Http.Punycode
import EditBatch.Text.Split
import EditBatch.Text.Upper

/-! Host names with letters outside ASCII.

A name is made of labels with dots between them. Labels hold small letters, digits and hyphens;
a hyphen stands neither at an end nor, with another one, in the third and fourth place. Capitals
are made small first. The letters outside ASCII are those of the Latin, Greek, Cyrillic and
Georgian scripts and of Chinese, Japanese and Korean; a label that holds one is sent in
Punycode, behind `xn--`.
-/

set_option autoImplicit false

namespace EditBatch.Http.HostName

open EditBatch.Text

def smallLetters : List CaseRange :=
  [⟨0x41, 0x5A, 1, 32⟩, ⟨0xC0, 0xD6, 1, 32⟩, ⟨0xD8, 0xDE, 1, 32⟩, ⟨0x100, 0x12E, 2, 1⟩,
   ⟨0x132, 0x136, 2, 1⟩, ⟨0x139, 0x147, 2, 1⟩, ⟨0x14A, 0x176, 2, 1⟩, ⟨0x178, 0x178, 1, -121⟩,
   ⟨0x179, 0x17D, 2, 1⟩, ⟨0x386, 0x386, 1, 38⟩, ⟨0x388, 0x38A, 1, 37⟩, ⟨0x38C, 0x38C, 1, 64⟩,
   ⟨0x38E, 0x38F, 1, 63⟩, ⟨0x391, 0x3A1, 1, 32⟩, ⟨0x3A3, 0x3AB, 1, 32⟩, ⟨0x400, 0x40F, 1, 80⟩,
   ⟨0x410, 0x42F, 1, 32⟩, ⟨0x460, 0x480, 2, 1⟩, ⟨0x48A, 0x4BE, 2, 1⟩, ⟨0x4C0, 0x4C0, 1, 15⟩,
   ⟨0x4C1, 0x4CD, 2, 1⟩, ⟨0x4D0, 0x52E, 2, 1⟩]

def small (c : Char) : Char :=
  match smallLetters.find? (·.contains c.toNat) with
  | some range => Char.ofNat (c.toNat + range.shift).toNat
  | none => c

def letters : List (Nat × Nat × Nat) :=
  [(0xDF, 0xF6, 1), (0xF8, 0xFF, 1), (0x101, 0x131, 2), (0x135, 0x137, 2), (0x138, 0x13E, 2),
   (0x142, 0x148, 2), (0x14B, 0x177, 2), (0x17A, 0x17E, 2), (0x390, 0x390, 1),
   (0x3AC, 0x3CE, 1), (0x430, 0x45F, 1), (0x461, 0x481, 2), (0x48B, 0x4BF, 2), (0x4C2, 0x4CE, 2),
   (0x4CF, 0x52F, 2), (0x10D0, 0x10FA, 1), (0x3005, 0x3007, 1), (0x3041, 0x3096, 1),
   (0x309D, 0x309E, 1), (0x30A1, 0x30FA, 1), (0x30FC, 0x30FE, 1), (0x3400, 0x4DBF, 1),
   (0x4E00, 0x9FFF, 1), (0xAC00, 0xD7A3, 1)]

def isLetter (c : Char) : Bool :=
  letters.any fun (first, last, stride) =>
    first ≤ c.toNat && c.toNat ≤ last && (c.toNat - first) % stride == 0

def isNameCharacter (c : Char) : Bool := c.isLower || c.isDigit || c = '-' || isLetter c

def isDot (c : Char) : Bool := ['.', '\u3002', '\uff0e', '\uff61'].contains c

def isLabel (label : List Char) : Bool :=
  !label.isEmpty && label.all isNameCharacter && (label.drop 2).take 2 ≠ ['-', '-'] &&
    label.head? ≠ some '-' && label.getLast? ≠ some '-'

def encodeLabel? (label : List Char) : Option (List Char) :=
  if !isLabel label then none
  else
    let sent :=
      if label.all Punycode.isAscii then label else "xn--".toList ++ Punycode.encode label
    if sent.length ≤ 63 then some sent else none

def encode? (name : List Char) : Option (List Char) :=
  let labels := splitAt '.' (name.map fun c => if isDot c then '.' else small c)
  let isClosed := labels.getLast? = some []
  do
    let sent ← (if isClosed then labels.dropLast else labels).mapM encodeLabel?
    let sent := ['.'].intercalate (if isClosed then sent ++ [[]] else sent)
    guard (sent.length ≤ if isClosed then 254 else 253)
    return sent

example : encode? "B\u00dcCHER\u3002Test".toList = some "xn--bcher-kva.test".toList := by
  decide +kernel
example : (encode? "\u4f8b..test".toList).isNone = true ∧
    (encode? "a_\u4f8b".toList).isNone = true := by decide +kernel

end EditBatch.Http.HostName
