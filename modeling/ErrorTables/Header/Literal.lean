/-!
Texts inside string literals of C. A backslash and a double quote are escaped by a backslash, and
all other characters stand for themselves.
-/

namespace ErrorTables.Header

/-- One character as it stands in a string literal. -/
def escapeChar (c : Char) : List Char :=
  if c = '\\' || c = '"' then ['\\', c] else [c]

/-- The body of the string literal of a text. -/
def literalBody (text : String) : String :=
  String.ofList (text.toList.flatMap escapeChar)

/-- The string literal of a text. -/
def literal (text : String) : String :=
  s!"\"{literalBody text}\""

theorem literalBody_append (first second : String) :
    literalBody (first ++ second) = literalBody first ++ literalBody second := by
  simp [literalBody]

end ErrorTables.Header
