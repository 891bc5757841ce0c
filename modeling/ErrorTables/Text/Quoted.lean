import ErrorTables.Text.Printable

/-!
Quoting a text for a message. The text stands between single quotes, or between double quotes if
it holds a single quote and no double quote; backslashes, the quote and all unprintable characters
are written as escapes.
-/

namespace ErrorTables.Text.Quoted

/-- The number in hexadecimal digits, filled up with zeros to the width. -/
def hexDigits (width number : Nat) : List Char :=
  let digits := Nat.toDigits 16 number
  List.replicate (width - digits.length) '0' ++ digits

/-- The escape of an unprintable character, as short as its code point allows. -/
def escapeCode (code : Nat) : List Char :=
  if code < 0x100 then '\\' :: 'x' :: hexDigits 2 code
  else if code < 0x10000 then '\\' :: 'u' :: hexDigits 4 code
  else '\\' :: 'U' :: hexDigits 8 code

/-- One character between the given quotes. -/
def quoteChar (quote c : Char) : List Char :=
  if c = quote || c = '\\' then ['\\', c]
  else if c = '\t' then ['\\', 't']
  else if c = '\n' then ['\\', 'n']
  else if c = '\r' then ['\\', 'r']
  else if isPrintable c then [c]
  else escapeCode c.toNat

/-- The quotes that a text is put between. -/
def quoteFor (text : List Char) : Char :=
  if text.contains '\'' && !text.contains '"' then '"' else '\''

/-- The text as a quoted literal. -/
def encode (text : List Char) : List Char :=
  let quote := quoteFor text
  quote :: text.flatMap (quoteChar quote) ++ [quote]

end ErrorTables.Text.Quoted

namespace ErrorTables.Text

/-- The text as a quoted literal. -/
def quoted (text : String) : String :=
  String.ofList (Quoted.encode text.toList)

end ErrorTables.Text
