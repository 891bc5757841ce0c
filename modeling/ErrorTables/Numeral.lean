import ErrorTables.Text.Blank
import ErrorTables.Text.DecimalDigit
import ErrorTables.Text.Quoted

/-!
Numerals in the four customary radices. Reading accepts blanks around the numeral, a sign, the
marker of the radix, digits of any script and single underscores between digits; decimal numerals
are bounded in length. Writing gives plain decimal and marked hexadecimal numerals.
-/

namespace ErrorTables

/-- The radices that a numeral may be written in. -/
inductive Radix where
  | binary
  | octal
  | decimal
  | hexadecimal
  deriving DecidableEq, Repr

namespace Radix

/-- The number of digits of a radix. -/
def size : Radix → Nat
  | .binary => 2
  | .octal => 8
  | .decimal => 10
  | .hexadecimal => 16

/-- The letter, in lower case, that marks a radix after a zero. -/
def marker : Radix → Option Char
  | .binary => some 'b'
  | .octal => some 'o'
  | .decimal => none
  | .hexadecimal => some 'x'

end Radix

namespace Numeral

open Text

/-- Why a text is refused as a numeral. -/
inductive Fault where
  | malformed (radix : Radix) (text : String)
  | tooLong (digits : Nat)
  | tooLarge
  deriving DecidableEq, Repr

/-- The most digits that a decimal numeral may have. -/
def maxDecimalDigits : Nat := 4300

/-- The wording of a fault. The quoted text is cut after two hundred characters. -/
def Fault.message : Fault → String
  | .malformed radix text =>
      let shown := String.ofList ((quoted text).toList.take 200)
      s!"invalid literal for int() with base {radix.size}: {shown}"
  | .tooLong digits =>
      s!"Exceeds the limit ({maxDecimalDigits} digits) for integer string conversion: " ++
        s!"value has {digits} digits; use sys.set_int_max_str_digits() to increase the limit"
  | .tooLarge =>
      s!"Exceeds the limit ({maxDecimalDigits} digits) for integer string conversion; " ++
        "use sys.set_int_max_str_digits() to increase the limit"

/-- The value of an ASCII digit or letter as a digit, letters counting on from ten. -/
def asciiDigit? (c : Char) : Option Nat :=
  if c.isDigit then some (c.toNat - '0'.toNat)
  else if c.isLower then some (c.toNat - 'a'.toNat + 10)
  else if c.isUpper then some (c.toNat - 'A'.toNat + 10)
  else none

/-- The value of a digit of the radix, in any script. -/
def digit? (radix : Radix) (c : Char) : Option Nat :=
  ((asciiDigit? c).or (decimalDigit? c)).filter (· < radix.size)

/-- A blank that may surround a numeral: all but the information separators of ASCII. -/
def isPadding (c : Char) : Bool :=
  isBlank c && !(0x1c ≤ c.toNat && c.toNat ≤ 0x1f)

/-- The number that a list of digits stands for, the first digit weighing most. -/
def ofDigits (radix : Radix) (digits : List Nat) : Nat :=
  digits.foldl (fun number digit => number * radix.size + digit) 0

/-- The sign in front of a numeral, as whether it is a minus, and what follows it. -/
def splitSign : List Char → Bool × List Char
  | '-' :: rest => (true, rest)
  | '+' :: rest => (false, rest)
  | rest => (false, rest)

/-- The numeral without the marker of its radix, and without one underscore after the marker. -/
def dropMarker (radix : Radix) (text : List Char) : List Char :=
  match radix.marker, text with
  | some marker, nought :: letter :: rest =>
      if digit? radix nought = some 0 && letter.toLower = marker then
        if rest.head? = some '_' then rest.tail else rest
      else text
  | _, _ => text

/-- Underscores stand one at a time and between digits only. -/
def WellSpaced (digits : List Char) : Prop :=
  ∀ part ∈ digits.splitOn '_', part ≠ []

instance (digits : List Char) : Decidable (WellSpaced digits) :=
  inferInstanceAs (Decidable (∀ part ∈ digits.splitOn '_', part ≠ []))

/-- The number of a numeral without sign and marker, if blanks alone follow its digits. -/
def readUnsigned (radix : Radix) (text : List Char) (malformed : Fault) : Except Fault Nat :=
  let isPart := fun c => c == '_' || (digit? radix c).isSome
  let written := text.takeWhile isPart
  let digits := written.filterMap (digit? radix)
  if ¬ WellSpaced written then .error malformed
  else if radix = .decimal && maxDecimalDigits < digits.length then .error (.tooLong digits.length)
  else if (text.dropWhile isPart).all isPadding then .ok (ofDigits radix digits)
  else .error malformed

/-- The integer that a text stands for in a radix. -/
def read (radix : Radix) (text : String) : Except Fault Int :=
  let (negative, unsigned) := splitSign (text.toList.dropWhile isPadding)
  let number := readUnsigned radix (dropMarker radix unsigned) (.malformed radix text)
  number.map fun number => if negative then -(number : Int) else number

/-- The plain decimal numeral of an integer. -/
def decimal (number : Int) : String :=
  toString number

/-- The plain decimal numeral of an integer, if it is not too long. -/
def decimal? (number : Int) : Except Fault String :=
  if number.natAbs < Nat.pow 10 maxDecimalDigits then .ok (decimal number) else .error .tooLarge

/-- The hexadecimal numeral of an integer: a minus if negative, the marker, lower-case digits. -/
def hex (number : Int) : String :=
  let digits := String.ofList (Nat.toDigits 16 number.natAbs)
  if number < 0 then "-0x" ++ digits else "0x" ++ digits

end Numeral

end ErrorTables
