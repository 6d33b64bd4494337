/-! Labels of host names in the letters, digits and hyphens of ASCII.

The ASCII characters of a label stand first. The others are put in one by one, in the order of
their code points; for each a number says how many places and code points were passed over
since the one before. Numbers are written with the least digit first, in a base of 36 with a
threshold for each digit: a digit below it is the last one. The thresholds follow a bias that
adapts to the numbers written so far.
-/

set_option autoImplicit false

namespace EditBatch.Http.Punycode

def digit (value : Nat) : Char :=
  if value < 26 then Char.ofNat ('a'.toNat + value) else Char.ofNat ('0'.toNat + (value - 26))

/-- The threshold of a digit, whose place is a multiple of 36. -/
def threshold (bias place : Nat) : Nat := max 1 (min 26 (place - bias))

theorem threshold_pos (bias place : Nat) : 0 < threshold bias place := by
  unfold threshold
  omega

theorem threshold_le (bias place : Nat) : threshold bias place ≤ 26 := by
  unfold threshold
  omega

def digits (bias place value : Nat) : List Char :=
  let least := threshold bias place
  if value < least then [digit value]
  else
    digit (least + (value - least) % (36 - least)) ::
      digits bias (place + 36) ((value - least) / (36 - least))
termination_by value
decreasing_by
  have positive := threshold_pos bias place
  exact Nat.lt_of_le_of_lt (Nat.div_le_self _ _) (by omega)

def settleBias (steps value : Nat) : Nat :=
  if 455 < value then settleBias (steps + 36) (value / 35) else steps + 36 * value / (value + 38)
termination_by value
decreasing_by exact Nat.div_lt_self (by omega) (by omega)

def adaptedBias (isFirst : Bool) (length value : Nat) : Nat :=
  let value := if isFirst then value / 700 else value / 2
  settleBias 0 (value + value / length)

/-- What has been written, and what was passed over since. -/
structure Insertion where
  written : List Char := []
  isFirst : Bool := true
  bias : Nat := 72
  passed : Nat := 0
  /-- The length of the label so far. -/
  length : Nat

def Insertion.visit (code : Nat) (insertion : Insertion) (c : Char) : Insertion :=
  if c.toNat < code then { insertion with passed := insertion.passed + 1 }
  else if c.toNat = code then
    ⟨insertion.written ++ digits insertion.bias 36 insertion.passed, false,
      adaptedBias insertion.isFirst (insertion.length + 1) insertion.passed, 0,
      insertion.length + 1⟩
  else insertion

def Insertion.run (label : List Char) (insertion : Insertion) : (next : Nat) → List Nat → Insertion
  | _, [] => insertion
  | next, code :: rest =>
    let arrived := { insertion with
      passed := insertion.passed + (code - next) * (insertion.length + 1) }
    let visited := label.foldl (Insertion.visit code) arrived
    Insertion.run label { visited with passed := visited.passed + 1 } (code + 1) rest

def insertCode (code : Nat) : List Nat → List Nat
  | [] => [code]
  | first :: rest =>
    if code < first then code :: first :: rest
    else if code = first then first :: rest
    else first :: insertCode code rest

def isAscii (c : Char) : Bool := c.toNat < 0x80

def encode (label : List Char) : List Char :=
  let plain := label.filter isAscii
  let codes := ((label.filter (!isAscii ·)).map Char.toNat).foldr insertCode []
  let insertion := Insertion.run label ⟨[], true, 72, 0, plain.length⟩ 0x80 codes
  (if plain.isEmpty then [] else plain ++ ['-']) ++ insertion.written

example : encode "b\u00fccher".toList = "bcher-kva".toList := by decide +kernel
example : encode "\u4f8b\u3048".toList = "r8jz45g".toList := by decide +kernel

end EditBatch.Http.Punycode
