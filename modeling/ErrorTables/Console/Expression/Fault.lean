import ErrorTables.Text.CellWidth
import ErrorTables.Text.Printable

/-!
What can be wrong with an expression that describes the parameters of an event, and the wording.
-/

namespace ErrorTables.Console.Expression

open Text

/-- The forms of numbers. -/
inductive NumberForm where
  | binary
  | octal
  | decimal
  | hexadecimal
  | imaginary
  deriving DecidableEq, Repr

/-- The name of a form. -/
def NumberForm.name : NumberForm → String
  | .binary => "binary"
  | .octal => "octal"
  | .decimal => "decimal"
  | .hexadecimal => "hexadecimal"
  | .imaginary => "imaginary"

/-- Why a text is no expression. -/
inductive Fault where
  | unclosed (bracket : Char)
  | unopened (bracket : Char)
  | mismatched (closing opening : Char) (openingLine : Option Nat)
  | tooDeep
  | openQuote (line : Nat)
  | openTripleQuote (line : Nat)
  | number (form : NumberForm)
  | digit (c : Char) (form : NumberForm)
  | leadingZeros
  | foreign (c : Char)
  | continuation
  | endOfText
  | missingComma
  | missingElse
  | missingParentheses (name : String)
  | singleEquals
  | assigned (kind : String)
  | assignedArgument (kind : Option String)
  | namedOther (kind : String)
  | starred
  | doublyStarred
  | starredValue
  | missingValue
  | missingColon
  | unexpected
  deriving DecidableEq, Repr

/-- A code point in at least four hexadecimal digits. -/
def codeName (c : Char) : String :=
  let digits := (Nat.toDigits 16 c.toNat).map Char.toUpper
  "U+" ++ String.ofList (List.replicate (4 - digits.length) '0' ++ digits)

/-- The wording of a fault. -/
def Fault.message : Fault → String
  | .unclosed bracket => s!"'{bracket}' was never closed"
  | .unopened bracket => s!"unmatched '{bracket}'"
  | .mismatched closing opening line =>
      let place := (line.map fun line => s!" on line {line}").getD ""
      s!"closing parenthesis '{closing}' does not match opening parenthesis '{opening}'{place}"
  | .tooDeep => "too many nested parentheses"
  | .openQuote line => s!"unterminated string literal (detected at line {line})"
  | .openTripleQuote line =>
      s!"unterminated triple-quoted string literal (detected at line {line})"
  | .number form => s!"invalid {form.name} literal"
  | .digit c form => s!"invalid digit '{c}' in {form.name} literal"
  | .leadingZeros =>
      "leading zeros in decimal integer literals are not permitted; " ++
        "use an 0o prefix for octal integers"
  | .foreign c =>
      if isPrintable c then s!"invalid character '{c}' ({codeName c})"
      else s!"invalid non-printable character {codeName c}"
  | .continuation => "unexpected character after line continuation character"
  | .endOfText => "unexpected EOF while parsing"
  | .missingComma => "invalid syntax. Perhaps you forgot a comma?"
  | .missingElse => "expected 'else' after 'if' expression"
  | .missingParentheses name =>
      s!"Missing parentheses in call to '{name}'. Did you mean {name}(...)?"
  | .singleEquals => "invalid syntax. Maybe you meant '==' or ':=' instead of '='?"
  | .assigned kind => s!"cannot assign to {kind} here. Maybe you meant '==' instead of '='?"
  | .assignedArgument (some kind) => s!"cannot assign to {kind}"
  | .assignedArgument none =>
      "expression cannot contain assignment, perhaps you meant \"==\"?"
  | .namedOther kind => s!"cannot use assignment expressions with {kind}"
  | .starred => "cannot use starred expression here"
  | .doublyStarred => "cannot use double starred expression here"
  | .starredValue => "cannot use a starred expression in a dictionary value"
  | .missingValue => "expression expected after dictionary key and ':'"
  | .missingColon => "':' expected after dictionary key"
  | .unexpected => "invalid syntax"

end ErrorTables.Console.Expression
