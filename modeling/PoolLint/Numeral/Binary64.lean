import PoolLint.Text.Digit

/-! Double precision numbers as exact values: a mantissa times a power of two. A decimal is rounded
to the nearest of them, and of two equally near ones to the one with an even mantissa. -/
namespace PoolLint

/-- A double precision number. A finite one stands for `mantissa * 2 ^ exponent`. -/
inductive Binary64 where
  | finite (negative : Bool) (mantissa : Nat) (exponent : Int)
  | infinite (negative : Bool)
  | notANumber
  deriving DecidableEq, Repr

namespace Binary64

/-- A quotient rounded to the nearest natural number, a half to the even neighbour. -/
def roundQuotient (numerator denominator : Nat) : Nat :=
  let q := numerator / denominator
  let twice := 2 * (numerator % denominator)
  if twice < denominator then q
  else if denominator < twice then q + 1
  else if q % 2 == 0 then q else q + 1

def leastExponent : Int := -1074

/-- A quotient of natural numbers in units of `2 ^ exponent`, rounded. -/
def scaledQuotient (numerator denominator : Nat) (exponent : Int) : Nat :=
  if 0 ≤ exponent then roundQuotient numerator (denominator * Nat.pow 2 exponent.toNat)
  else roundQuotient (numerator * Nat.pow 2 (-exponent).toNat) denominator

/-- The exponent at which the quotient has a mantissa of 53 bits, or the least one. -/
def exponentFor (numerator denominator : Nat) : Int :=
  let guess : Int := (numerator.log2 : Int) - (denominator.log2 : Int) - 52
  let tooLarge : Bool :=
    if 0 ≤ guess then numerator < denominator * Nat.pow 2 guess.toNat * Nat.pow 2 52
    else numerator * Nat.pow 2 (-guess).toNat < denominator * Nat.pow 2 52
  max leastExponent (if tooLarge then guess - 1 else guess)

/-- The double nearest to a quotient of natural numbers. -/
def ofQuotient (negative : Bool) (numerator denominator : Nat) : Binary64 :=
  if numerator == 0 then .finite negative 0 leastExponent
  else
    let exponent := exponentFor numerator denominator
    let mantissa := scaledQuotient numerator denominator exponent
    let (mantissa, exponent) :=
      if mantissa == Nat.pow 2 53 then (Nat.pow 2 52, exponent + 1) else (mantissa, exponent)
    if 971 < exponent then .infinite negative else .finite negative mantissa exponent

/-- The double nearest to `digits * 10 ^ scale`. Scales beyond the range of doubles are settled
without computing the power. -/
def ofDecimal (negative : Bool) (digits : Nat) (scale : Int) : Binary64 :=
  let width : Int := digits.log2
  if digits == 0 then .finite negative 0 leastExponent
  else if 1100 < scale then .infinite negative
  else if width + 3 * scale < -1400 then .finite negative 0 leastExponent
  else if 0 ≤ scale then ofQuotient negative (digits * Nat.pow 10 scale.toNat) 1
  else ofQuotient negative digits (Nat.pow 10 (-scale).toNat)

def ofNat (n : Nat) : Binary64 := ofQuotient false n 1

/-- The sixteen hexadecimal digits of the interchange format, sign first. -/
def bits : Binary64 → Nat
  | .notANumber => 0x7FF8000000000000
  | .infinite negative => (if negative then Nat.pow 2 63 else 0) + 0x7FF0000000000000
  | .finite negative mantissa exponent =>
    let sign := if negative then Nat.pow 2 63 else 0
    if mantissa < Nat.pow 2 52 then sign + mantissa
    else sign + (exponent - leastExponent + 1).toNat * Nat.pow 2 52 + (mantissa - Nat.pow 2 52)

/-- The value of a finite double in units of `2 ^ leastExponent`. -/
def units (negative : Bool) (mantissa : Nat) (exponent : Int) : Int :=
  let magnitude : Nat := mantissa * Nat.pow 2 (exponent - leastExponent).toNat
  if negative then -magnitude else magnitude

/-- An integer in units of `2 ^ leastExponent`. -/
def integerUnits (n : Int) : Int := n * Nat.pow 2 (-leastExponent).toNat

/-- Whether a double is at least an integer. Nothing that is not a number is. -/
def atLeast (x : Binary64) (n : Int) : Bool :=
  match x with
  | .notANumber => false
  | .infinite negative => !negative
  | .finite negative mantissa exponent => integerUnits n ≤ units negative mantissa exponent

/-- The integer that a double stands for, if it stands for one. -/
def toInt? : Binary64 → Option Int
  | .finite negative mantissa exponent =>
    let u := units negative mantissa exponent
    let one := integerUnits 1
    if u % one == 0 then some (u / one) else none
  | _ => none

end Binary64
end PoolLint
