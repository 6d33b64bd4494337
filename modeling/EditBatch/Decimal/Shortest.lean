import EditBatch.Decimal.Double

/-! The shortest decimal that reads back as a given double-precision number.

Among the decimals with the fewest digits inside the interval of reals that round to the
number, the nearest one is taken. It is written positionally from `10 ^ -4` up to below
`10 ^ 16`, always with a fraction, and otherwise with an exponent of at least two digits.
-/

set_option autoImplicit false

namespace EditBatch.Decimal

/-- The greatest `e` with `10 ^ e ≤ numerator / denominator`, for a positive fraction. -/
def decimalMagnitude (numerator denominator : Nat) : Int :=
  if denominator ≤ numerator then ((Nat.toDigits 10 (numerator / denominator)).length : Int) - 1
  else -((Nat.toDigits 10 ((denominator + numerator - 1) / numerator - 1)).length : Int)

/-- A positive real and the interval that rounds to it, all multiplied by a common factor. -/
structure Roundable where
  value : Nat
  least : Nat
  greatest : Nat
  /-- Whether the ends themselves round to the value. -/
  closed : Bool

def Roundable.admits (r : Roundable) (candidate : Nat) : Bool :=
  if r.closed then r.least ≤ candidate && candidate ≤ r.greatest
  else r.least < candidate && candidate < r.greatest

/-- The multiple of `unit` nearest to the value that rounds to it, as a factor of `unit`. -/
def Roundable.onGrid? (r : Roundable) (unit : Nat) : Option Nat :=
  let below := r.value / unit
  let above := below + 1
  match r.admits (below * unit), r.admits (above * unit) with
  | true, true =>
    let twice := 2 * (r.value % unit)
    if twice < unit || (twice = unit && below % 2 = 0) then some below else some above
  | true, false => some below
  | false, true => some above
  | false, false => none

def Roundable.onFirstGrid (r : Roundable) (factor : Nat) (shift : Int) : List Int → Nat × Int
  | [] => (0, 0)
  | place :: rest =>
    match r.onGrid? (factor * 10 ^ (place + shift).toNat) with
    | some digits => (digits, place)
    | none => r.onFirstGrid factor shift rest

/-- The shortest digits of `mantissa * 2 ^ exponent` and the power of ten of the last one. -/
def shortestDigits (mantissa : Nat) (exponent : Int) : Nat × Int :=
  let fraction := scaleDown 2 (-exponent) mantissa 1
  let magnitude := decimalMagnitude fraction.1 fraction.2
  let places := (List.range 17).map fun (count : Nat) => magnitude - (count : Int)
  let binary := Nat.pow 2 (2 - exponent).toNat
  let shift := max 0 (16 - magnitude)
  let unit := Nat.pow 2 (exponent - 2 + (2 - exponent).toNat).toNat * Nat.pow 10 shift.toNat
  let gap := if mantissa = leastMantissa && leastExponent < exponent then 1 else 2
  let r : Roundable :=
    ⟨4 * mantissa * unit, (4 * mantissa - gap) * unit, (4 * mantissa + 2) * unit,
      mantissa % 2 = 0⟩
  r.onFirstGrid binary shift places

def significant (digits : Nat) : List Char :=
  ((Nat.toDigits 10 digits).reverse.dropWhile (· = '0')).reverse

def exponentText (exponent : Int) : List Char :=
  let digits := Nat.toDigits 10 exponent.natAbs
  'e' :: (if exponent < 0 then '-' else '+') ::
    (List.replicate (2 - digits.length) '0' ++ digits)

/-- The digits `d₀ d₁ d₂ …` as the number `d₀.d₁d₂… * 10 ^ magnitude`. -/
def decimalText (digits : List Char) (magnitude : Int) : List Char :=
  if magnitude < -4 || 15 < magnitude then
    match digits with
    | [] => []
    | [digit] => digit :: exponentText magnitude
    | digit :: rest => digit :: '.' :: rest ++ exponentText magnitude
  else if magnitude < 0 then
    '0' :: '.' :: List.replicate (-magnitude - 1).toNat '0' ++ digits
  else
    let count := magnitude.toNat + 1
    let whole := digits.take count ++ List.replicate (count - digits.length) '0'
    let fraction := digits.drop count
    whole ++ '.' :: (if fraction.isEmpty then ['0'] else fraction)

def Double.chars : Double → List Char
  | .notANumber => ['n', 'a', 'n']
  | .infinite negative => (if negative then ['-'] else []) ++ ['i', 'n', 'f']
  | .finite negative mantissa exponent =>
    (if negative then ['-'] else []) ++
      if mantissa = 0 then ['0', '.', '0']
      else
        let (digits, place) := shortestDigits mantissa exponent
        let magnitude := place + (Nat.toDigits 10 digits).length - 1
        decimalText (significant digits) magnitude

def Double.text (x : Double) : String := String.ofList x.chars

example : (Double.ofDecimal false 1 16).text = "1e+16" := by decide +kernel
example : (Double.ofDecimal false 100000 0).text = "100000.0" := by decide +kernel
example : (Double.ofDecimal false 3 (-1)).text = "0.3" := by decide +kernel
example : (Double.ofDecimal true 5 (-324)).text = "-5e-324" := by decide +kernel

end EditBatch.Decimal
