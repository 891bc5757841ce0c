import ErrorTables.Binary64

/-!
Writing floating-point numbers with the fewest decimal digits that read back. Of the decimal
numbers with that many digits the nearest one is taken, a tie going to the even digit.
-/

namespace ErrorTables.Binary64

/-- A positive decimal number: its digits after the point, and the power of ten that they are
multiplied by. -/
structure Decimal where
  digits : List Char
  point : Int
  deriving DecidableEq, Repr

/-- The real numbers that round to a finite number, in quarters of its unit in the last place:
the number itself, the ends of the interval, and whether the ends belong to it. -/
structure RoundingInterval where
  value : Nat
  low : Nat
  high : Nat
  closed : Bool

/-- The interval of a finite number. It is narrower below a power of two. -/
def roundingInterval (mantissa : Nat) (exponent : Int) : RoundingInterval where
  value := 4 * mantissa
  low := if 2 * mantissa = mantissaBound && minExponent < exponent then 4 * mantissa - 1
    else 4 * mantissa - 2
  high := 4 * mantissa + 2
  closed := mantissa % 2 = 0

/-- The place of the decimal point of a quotient: the least power of ten above it. -/
def pointOf (numerator denominator : Nat) : Int :=
  let estimate := (((numerator.log2 : Int) - denominator.log2) * 30103).fdiv 100000
  let reaches := fun point : Int =>
    let (scaled, unit) := scaleDown 10 point numerator denominator
    scaled < unit
  ([estimate - 1, estimate, estimate + 1].find? reaches).getD (estimate + 2)

/-- The nearest multiple of `10 ^ power` in the interval, whose unit is a quotient. -/
def nearestInGrid? (interval : RoundingInterval) (numerator denominator : Nat) (power : Int)
    : Option Nat :=
  let (unit, step) := scaleDown 10 power numerator denominator
  let value := interval.value * unit
  let below := value / step
  let inside := fun multiple : Nat =>
    let place := multiple * step
    if interval.closed then interval.low * unit ≤ place && place ≤ interval.high * unit
    else interval.low * unit < place && place < interval.high * unit
  let lower := value - below * step
  let upper := (below + 1) * step - value
  let prefersLower := lower < upper || (lower = upper && below % 2 = 0)
  match inside below, inside (below + 1) with
  | true, true => some (if prefersLower then below else below + 1)
  | true, false => some below
  | false, true => some (below + 1)
  | false, false => none

/-- The number of digits that tell all finite numbers apart. -/
def maxDigits : Nat := 17

/-- The shortest decimal number that rounds to a positive finite number. -/
def shortest (mantissa : Nat) (exponent : Int) : Decimal :=
  let interval := roundingInterval mantissa exponent
  let (numerator, denominator) := scaleDown 2 (2 - exponent) 1 1
  let point := pointOf (interval.value * numerator) denominator
  let ofGrid := fun count : Nat =>
    (nearestInGrid? interval numerator denominator (point - count)).map fun multiple =>
      (multiple, point - count)
  let (multiple, power) :=
    ((List.range maxDigits).findSome? fun index => ofGrid (index + 1)).getD (0, 0)
  let written := Nat.toDigits 10 multiple
  let digits := (written.reverse.dropWhile (· = '0')).reverse
  ⟨digits, written.length + power⟩

/-- How decimal numbers are laid out: the range of points at which they are written without an
exponent, and the least number of digits of an exponent. -/
structure Layout where
  lowestPoint : Int
  highestPoint : Int
  exponentDigits : Nat

/-- The layout without an exponent: a digit on each side of the point at least. -/
def positionalText (decimal : Decimal) : List Char :=
  let count : Int := decimal.digits.length
  if decimal.point ≤ 0 then
    ['0', '.'] ++ List.replicate (-decimal.point).toNat '0' ++ decimal.digits
  else if count ≤ decimal.point then
    decimal.digits ++ List.replicate (decimal.point - count).toNat '0' ++ ['.', '0']
  else decimal.digits.take decimal.point.toNat ++ ['.'] ++ decimal.digits.drop decimal.point.toNat

/-- The layout with an exponent: one digit in front of the point. -/
def exponentText (layout : Layout) (decimal : Decimal) : List Char :=
  let power := decimal.point - 1
  let digits := Nat.toDigits 10 power.natAbs
  let fraction := decimal.digits.drop 1
  decimal.digits.take 1 ++ (if fraction.isEmpty then [] else '.' :: fraction) ++
    ['e', if power < 0 then '-' else '+'] ++
    List.replicate (layout.exponentDigits - digits.length) '0' ++ digits

/-- The text of a number in a layout. -/
def text (layout : Layout) : Binary64 → String
  | .nan => "nan"
  | .infinite negative => if negative then "-inf" else "inf"
  | .finite negative mantissa exponent =>
      let decimal : Decimal := if mantissa = 0 then ⟨['0'], 1⟩ else shortest mantissa exponent
      let positional := layout.lowestPoint ≤ decimal.point && decimal.point ≤ layout.highestPoint
      let magnitude := if positional then positionalText decimal else exponentText layout decimal
      String.ofList (if negative then '-' :: magnitude else magnitude)

end ErrorTables.Binary64
