import ErrorTables.Rounding

/-!
Binary floating-point numbers of 64 bits, kept as a mantissa and a binary exponent. They are made
from quotients of natural numbers by rounding to the nearest one, a tie going to the even mantissa.
-/

namespace ErrorTables

/-- A floating-point number. The finite ones are `mantissa * 2 ^ exponent` with their sign. -/
inductive Binary64 where
  | finite (negative : Bool) (mantissa : Nat) (exponent : Int)
  | infinite (negative : Bool)
  | nan
  deriving DecidableEq, Repr

namespace Binary64

/-- The least binary exponent. -/
def minExponent : Int := -1074

/-- The greatest binary exponent. -/
def maxExponent : Int := 971

/-- The first number that a mantissa does not reach. -/
def mantissaBound : Nat := Nat.pow 2 53

/-- Zero. -/
def zero : Binary64 :=
  .finite false 0 minExponent

/-- Numerator and denominator of a quotient divided by a power of the base. -/
def scaleDown (base : Nat) (power : Int) (numerator denominator : Nat) : Nat × Nat :=
  (numerator * base.pow (-power).toNat, denominator * base.pow power.toNat)

/-- The binary exponent at which a positive quotient has a mantissa of 53 bits, or the least one
if it is too small for that. -/
def exponentOf (numerator denominator : Nat) : Int :=
  let low : Int := (numerator.log2 : Int) - denominator.log2 - 53
  let (scaled, unit) := scaleDown 2 low numerator denominator
  max minExponent (if scaled / unit < mantissaBound then low else low + 1)

/-- The number nearest to a quotient. -/
def ofQuotient (negative : Bool) (numerator denominator : Nat) : Binary64 :=
  if numerator = 0 then .finite negative 0 minExponent
  else
    let exponent := exponentOf numerator denominator
    let (scaled, unit) := scaleDown 2 exponent numerator denominator
    let mantissa := roundedQuotient scaled unit
    let (mantissa, exponent) :=
      if mantissa < mantissaBound then (mantissa, exponent) else (mantissa / 2, exponent + 1)
    if maxExponent < exponent then .infinite negative else .finite negative mantissa exponent

/-- The number nearest to `digits * 10 ^ power`. Powers far outside the range of exponents are
decided without computing them. -/
def ofDecimal (negative : Bool) (digits : Nat) (power : Int) : Binary64 :=
  let magnitude : Int := (Nat.toDigits 10 digits).length + power
  if digits = 0 || magnitude < -330 then .finite negative 0 minExponent
  else if 330 < magnitude then .infinite negative
  else
    let (numerator, denominator) := scaleDown 10 (-power) digits 1
    ofQuotient negative numerator denominator

/-- The number nearest to a natural number. -/
def ofNat (number : Nat) : Binary64 :=
  ofQuotient false number 1

/-- The number with the other sign. -/
def negate : Binary64 → Binary64
  | .finite negative mantissa exponent => .finite (!negative) mantissa exponent
  | .infinite negative => .infinite (!negative)
  | .nan => .nan

/-- A finite magnitude as a quotient. -/
def quotient (mantissa : Nat) (exponent : Int) : Nat × Nat :=
  scaleDown 2 (-exponent) mantissa 1

/-- The sum of two numbers that are not negative. -/
def addMagnitudes : Binary64 → Binary64 → Binary64
  | .finite _ first power, .finite _ second other =>
      let (a, b) := quotient first power
      let (c, d) := quotient second other
      ofQuotient false (a * d + c * b) (b * d)
  | .nan, _ | _, .nan => .nan
  | _, _ => .infinite false

/-- The product of two numbers that are positive or finite. -/
def mulMagnitudes : Binary64 → Binary64 → Binary64
  | .finite _ first power, .finite _ second other =>
      let (a, b) := quotient first power
      let (c, d) := quotient second other
      ofQuotient false (a * c) (b * d)
  | .nan, _ | _, .nan => .nan
  | _, _ => .infinite false

/-- The number is zero, of either sign. -/
def isZero : Binary64 → Bool
  | .finite _ mantissa _ => mantissa = 0
  | _ => false

/-- The number is the given integer. -/
def isInteger (number : Binary64) (integer : Int) : Bool :=
  match number with
  | .finite negative mantissa exponent =>
      let (numerator, denominator) := quotient mantissa exponent
      let signed : Int := if negative then -numerator else numerator
      signed = integer * denominator
  | _ => false

/-- The two numbers are equal as numbers: zeros of either sign are, and nothing equals what is not
a number. -/
def equal : Binary64 → Binary64 → Bool
  | .finite negative first power, .finite other second exponent =>
      (first = 0 && second = 0) ||
        (negative = other && quotient first power = quotient second exponent)
  | .infinite negative, .infinite other => negative = other
  | _, _ => false

end Binary64

end ErrorTables
