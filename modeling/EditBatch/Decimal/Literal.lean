import EditBatch.Decimal.Double

/-! Decimal numbers in text. -/

set_option autoImplicit false

namespace EditBatch.Decimal

def naturalOf (digits : List Char) : Nat :=
  digits.foldl (fun value c => 10 * value + (c.toNat - '0'.toNat)) 0

/-- Longer integers are refused wherever they are read. -/
def digitLimit : Nat := 4300

def takeDigits (text : List Char) : List Char × List Char :=
  (text.takeWhile Char.isDigit, text.dropWhile Char.isDigit)

def ungroup? (isDigit : Char → Bool) : List Char → Option (List Char)
  | [] => none
  | [c] => if isDigit c then some [c] else none
  | c :: '_' :: rest => if isDigit c then (ungroup? isDigit rest).map (c :: ·) else none
  | c :: rest => if isDigit c then (ungroup? isDigit rest).map (c :: ·) else none

def integerDigits? (isDigit : Char → Bool) (text : List Char) : Option (List Char) :=
  (ungroup? isDigit text).filter fun digits => digits.length ≤ digitLimit

def readSign : List Char → Bool × List Char
  | '-' :: rest => (true, rest)
  | '+' :: rest => (false, rest)
  | text => (false, text)

def signed (negative : Bool) (magnitude : Nat) : Int :=
  if negative then -(magnitude : Int) else magnitude

def readFraction : List Char → List Char × List Char
  | '.' :: text =>
    let (digits, rest) := takeDigits text
    if digits.isEmpty then ([], '.' :: text) else (digits, rest)
  | text => ([], text)

def readExponent (text : List Char) : Option Int × List Char :=
  match text with
  | mark :: tail =>
    if mark = 'e' || mark = 'E' then
      let (negative, unsigned) := readSign tail
      let (digits, rest) := takeDigits unsigned
      if digits.isEmpty then (none, text) else (some (signed negative (naturalOf digits)), rest)
    else (none, text)
  | [] => (none, [])

/-- The number that a text without sign is, where one side of the point may be empty. -/
def magnitudeOf? (negative : Bool) (text : List Char) : Option Double :=
  let (whole, rest) := takeDigits text
  let (fraction, rest) :=
    match rest with
    | '.' :: rest => takeDigits rest
    | rest => ([], rest)
  let (exponent?, rest) := readExponent rest
  if (whole.isEmpty && fraction.isEmpty) || !rest.isEmpty then none
  else some (.ofDecimal negative (naturalOf (whole ++ fraction))
    (exponent?.getD 0 - fraction.length))

def Double.ofText? (text : List Char) : Option Double :=
  let (negative, text) := readSign (text.map Char.toLower)
  if text = "inf".toList || text = "infinity".toList then some (.infinite negative)
  else if text = "nan".toList then some .notANumber
  else magnitudeOf? negative text

example : Double.ofText? "-.25E1".toList = some (.ofDecimal true 25 (-1)) := by decide +kernel
example : Double.ofText? ".".toList = none ∧ Double.ofText? "1e".toList = none := by decide +kernel

end EditBatch.Decimal
