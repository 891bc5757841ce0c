/-!
Rounding of quotients of natural numbers.
-/

namespace ErrorTables

/-- The quotient rounded to the nearest number, a tie going to the even one. -/
def roundedQuotient (numerator denominator : Nat) : Nat :=
  let quotient := numerator / denominator
  let twice := 2 * (numerator % denominator)
  if twice < denominator || (twice = denominator && quotient % 2 = 0) then quotient
  else quotient + 1

end ErrorTables
