import ErrorTables.Numeral

/-!
The base of a group as it is written: hexadecimal after `0x`, octal after any other zero, and
decimal otherwise.
-/

namespace ErrorTables.Definition

open Text

/-- Why a text is refused as a base. -/
inductive BaseFault where
  | empty
  | numeral (fault : Numeral.Fault)
  deriving DecidableEq, Repr

/-- The wording of a refusal. -/
def BaseFault.message : BaseFault → String
  | .empty => "empty base"
  | .numeral fault => fault.message

/-- The number that a trimmed base stands for. -/
def readTrimmedBase (text : List Char) : Except Numeral.Fault Int :=
  match text with
  | '0' :: 'x' :: digits | '0' :: 'X' :: digits =>
      Numeral.read .hexadecimal (String.ofList digits)
  | '0' :: _ => Numeral.read .octal (String.ofList text)
  | _ => Numeral.read .decimal (String.ofList text)

/-- The number that a base stands for. -/
def readBase (text : String) : Except BaseFault Int :=
  let trimmed := trim text.toList
  if trimmed.isEmpty then .error .empty else (readTrimmedBase trimmed).mapError .numeral

end ErrorTables.Definition
