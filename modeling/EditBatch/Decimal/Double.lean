/-! Double-precision binary numbers, and the one nearest to a decimal.

A finite number is `mantissa * 2 ^ exponent` with `mantissa < 2 ^ 53` and `exponent ≥ -1074`;
the mantissa is at least `2 ^ 52` unless the exponent is the least one.
-/

set_option autoImplicit false

namespace EditBatch.Decimal

inductive Double where
  | finite (negative : Bool) (mantissa : Nat) (exponent : Int)
  | infinite (negative : Bool)
  | notANumber
  deriving DecidableEq, Repr

def leastExponent : Int := -1074

def greatestExponent : Int := 971

/-- No mantissa is less unless the exponent is the least one, and none is twice as great. -/
def leastMantissa : Nat := Nat.pow 2 52

/-- The quotient rounded to the nearest integer, a half to the even neighbour. -/
def divideToNearest (numerator denominator : Nat) : Nat :=
  let quotient := numerator / denominator
  let twice := 2 * (numerator % denominator)
  if twice < denominator || (twice = denominator && quotient % 2 = 0) then quotient
  else quotient + 1

/-- `numerator / denominator / base ^ exponent` as a fraction of natural numbers. -/
def scaleDown (base : Nat) (exponent : Int) (numerator denominator : Nat) : Nat × Nat :=
  if exponent < 0 then (numerator * Nat.pow base (-exponent).toNat, denominator)
  else (numerator, denominator * Nat.pow base exponent.toNat)

namespace Double

def zero (negative : Bool) : Double := .finite negative 0 leastExponent

def ofFraction (negative : Bool) (numerator denominator : Nat) : Double :=
  let guess : Int := (numerator.log2 : Int) - denominator.log2 - 52
  let scaled := scaleDown 2 guess numerator denominator
  let exponent :=
    max leastExponent (if scaled.1 < leastMantissa * scaled.2 then guess - 1 else guess)
  let fraction := scaleDown 2 exponent numerator denominator
  let mantissa := divideToNearest fraction.1 fraction.2
  let (mantissa, exponent) :=
    if mantissa = 2 * leastMantissa then (leastMantissa, exponent + 1) else (mantissa, exponent)
  if greatestExponent < exponent then .infinite negative else .finite negative mantissa exponent

/-- The number nearest to `digits * 10 ^ exponent`. Powers that are certain to overflow or to
vanish are not computed. -/
def ofDecimal (negative : Bool) (digits : Nat) (exponent : Int) : Double :=
  let size : Int := (Nat.toDigits 10 digits).length
  if digits = 0 || size + exponent < -330 then zero negative
  else if 310 < size + exponent then .infinite negative
  else
    let fraction := scaleDown 10 (-exponent) digits 1
    ofFraction negative fraction.1 fraction.2

def ofInt (n : Int) : Double := ofDecimal (n < 0) n.natAbs 0

def isZero : Double → Bool
  | .finite _ 0 _ => true
  | _ => false

def toInt? : Double → Option Int
  | .finite negative mantissa exponent =>
    let magnitude? :=
      if 0 ≤ exponent then some (mantissa * Nat.pow 2 exponent.toNat)
      else
        let denominator := Nat.pow 2 (-exponent).toNat
        if mantissa % denominator = 0 then some (mantissa / denominator) else none
    magnitude?.map fun magnitude => if negative then -(magnitude : Int) else magnitude
  | _ => none

example : ofDecimal false 1 (-1) = .finite false 0x1999999999999a (-56) := by decide +kernel
example : ofDecimal false 5 (-324) = .finite false 1 (-1074) := by decide +kernel
example : ofDecimal true 1 400 = .infinite true := by decide +kernel

end Double

end EditBatch.Decimal
