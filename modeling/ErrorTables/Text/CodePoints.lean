/-!
Sets of characters given by ranges of code points, the form in which the tables of character
properties are stored.
-/

namespace ErrorTables.Text

/-- A range of code points by its first and its last member. -/
abbrev CodePointRange := Nat × Nat

/-- The code point of the character lies in one of the ranges. -/
def inRanges (ranges : List CodePointRange) (c : Char) : Bool :=
  ranges.any fun range => range.1 ≤ c.toNat && c.toNat ≤ range.2

end ErrorTables.Text
