import ErrorTables.Text.UpperCase

/-!
The words that generated headers define: the symbol of an entry as a macro and as an enumerator,
and the token that guards a file against being included twice.
-/

namespace ErrorTables.Header

open Text

/-- The symbol of an entry as a macro: group and tag as they are written. -/
def macroSymbol (group tag : String) : String :=
  s!"{group}_{tag}"

/-- The name of a group in upper case. -/
def upperName (group : String) : String :=
  String.ofList (upper group.toList)

/-- The symbol of an entry as an enumerator: the group in upper case, the tag as it is written. -/
def enumSymbol (group tag : String) : String :=
  s!"{upperName group}_{tag}"

/-- A character that a guard may hold as it is. -/
def isGuardChar (c : Char) : Bool :=
  ('A' ≤ c && c ≤ 'Z') || ('0' ≤ c && c ≤ '9')

/-- The inclusion guard of a file: its name in upper case, with an underscore for each character
that is not a capital letter or a digit of ASCII. -/
def guardToken (fileName : String) : String :=
  String.ofList ((upper fileName.toList).map fun c => if isGuardChar c then c else '_')

end ErrorTables.Header
