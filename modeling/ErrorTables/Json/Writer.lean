import ErrorTables.Fault
import ErrorTables.Value

/-!
Writing JSON. A value is laid out over lines, two spaces deeper at each level; an empty sequence
and an empty mapping stay on one line. Only control characters, quotes and backslashes are escaped.
An encoder refuses integers of more than 64 bits.
-/

namespace ErrorTables.Json

/-- The digit of a number below sixteen, in lower case. -/
def hexDigit (number : Nat) : Char :=
  Nat.digitChar number

/-- A character as it is written inside quotes. -/
def escapeChar (c : Char) : List Char :=
  match c with
  | '"' => ['\\', '"']
  | '\\' => ['\\', '\\']
  | '\x08' => ['\\', 'b']
  | '\x0c' => ['\\', 'f']
  | '\n' => ['\\', 'n']
  | '\r' => ['\\', 'r']
  | '\t' => ['\\', 't']
  | c =>
      if c.toNat < 0x20 then
        ['\\', 'u', '0', '0', hexDigit (c.toNat / 16), hexDigit (c.toNat % 16)]
      else [c]

/-- A text in quotes. -/
def writeText (text : String) : List Char :=
  '"' :: text.toList.flatMap escapeChar ++ ['"']

/-- Floating-point numbers are written without an exponent from `0.00001` up to sixteen digits. -/
def realLayout : Binary64.Layout := ⟨-4, 16, 1⟩

/-- A number that is not finite has no numeral and is written as nothing. -/
def writeReal : Binary64 → List Char
  | .finite negative mantissa exponent =>
      (Binary64.text realLayout (.finite negative mantissa exponent)).toList
  | _ => "null".toList

/-- The text of a key. A key that is no text is named by its plain text. -/
def keyText : Value → String
  | .text content => content
  | key => ((Value.plain key).toOption).getD ""

/-- A line break and the indentation of a level. -/
def newLine (level : Nat) : List Char :=
  '\n' :: List.replicate (2 * level) ' '

mutual

/-- A value at a level of nesting. Bytes and sets have no notation and are written as nothing. -/
def writeValue (level : Nat) : Value → List Char
  | .null | .bytes _ | .set _ => "null".toList
  | .boolean truth => if truth then "true".toList else "false".toList
  | .integer number => (Numeral.decimal number).toList
  | .real number => writeReal number
  | .text content => writeText content
  | .date day => writeText (Calendar.dateText day)
  | .moment time => writeText (Calendar.momentText time)
  | .sequence [] | .tuple [] => ['[', ']']
  | .sequence (item :: items) | .tuple (item :: items) =>
      '[' :: newLine (level + 1) ++ writeValue (level + 1) item ++
        writeItems (level + 1) items ++ newLine level ++ [']']
  | .mapping [] => ['\x7b', '\x7d']
  | .mapping ((key, value) :: pairs) =>
      '\x7b' :: newLine (level + 1) ++ writeText (keyText key) ++ [':', ' '] ++
        writeValue (level + 1) value ++ writePairs (level + 1) pairs ++ newLine level ++ ['\x7d']

/-- The items of a sequence from the second one on. -/
def writeItems (level : Nat) : List Value → List Char
  | [] => []
  | item :: items => ',' :: newLine level ++ writeValue level item ++ writeItems level items

/-- The pairs of a mapping from the second one on. -/
def writePairs (level : Nat) : List (Value × Value) → List Char
  | [] => []
  | (key, value) :: pairs =>
      ',' :: newLine level ++ writeText (keyText key) ++ [':', ' '] ++ writeValue level value ++
        writePairs level pairs

end

/-- The text of a value. -/
def write (value : Value) : String :=
  String.ofList (writeValue 0 value)

/-- The integer fits in 64 bits, with a sign or without one. -/
def IsPortable (number : Int) : Prop :=
  -0x8000000000000000 ≤ number ∧ number < 0x10000000000000000

instance (number : Int) : Decidable (IsPortable number) :=
  inferInstanceAs (Decidable (_ ∧ _))

mutual

/-- All integers of a value are portable, those of its keys aside. -/
def isPortable : Value → Bool
  | .integer number => IsPortable number
  | .sequence items | .tuple items => arePortable items
  | .mapping pairs => havePortableValues pairs
  | _ => true

/-- All integers of a list of values are portable. -/
def arePortable : List Value → Bool
  | [] => true
  | item :: items => isPortable item && arePortable items

/-- All integers of the values of a list of pairs are portable. -/
def havePortableValues : List (Value × Value) → Bool
  | [] => true
  | (_, value) :: pairs => isPortable value && havePortableValues pairs

end

/-- The bytes of a document, unless one of its integers is too wide. -/
def encode (document : Value) : Except ErrorTables.Fault ByteArray :=
  if isPortable document then .ok (write document).toUTF8 else .error .integerTooWide

end ErrorTables.Json
