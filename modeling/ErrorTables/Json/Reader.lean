import ErrorTables.Value

/-!
Reading JSON. The reader takes one value with white space around it; it also takes the names of
infinities and of what is not a number, and refuses control characters inside strings. A fault is
reported with its line, its column and its position in the text. The depth of nesting has no bound
here.
-/

namespace ErrorTables.Json

/-- What keeps a text from being JSON. -/
inductive FaultKind where
  | byteOrderMark
  | expectedValue
  | expectedKey
  | expectedColon
  | expectedComma
  | extraData
  | unterminatedString
  | controlCharacter
  | invalidEscape
  | invalidCodeEscape
  deriving DecidableEq, Repr

/-- The wording of a kind of fault. -/
def FaultKind.message : FaultKind → String
  | .byteOrderMark => "Unexpected UTF-8 BOM (decode using utf-8-sig)"
  | .expectedValue => "Expecting value"
  | .expectedKey => "Expecting property name enclosed in double quotes"
  | .expectedColon => "Expecting ':' delimiter"
  | .expectedComma => "Expecting ',' delimiter"
  | .extraData => "Extra data"
  | .unterminatedString => "Unterminated string starting at"
  | .controlCharacter => "Invalid control character at"
  | .invalidEscape => "Invalid \\escape"
  | .invalidCodeEscape => "Invalid \\uXXXX escape"

/-- A fault with its place: the line and the column, counted from one, and the position, counted
from zero. -/
structure SyntaxFault where
  kind : FaultKind
  line : Nat
  column : Nat
  position : Nat
  deriving DecidableEq, Repr

/-- The wording of a fault, place included. -/
def SyntaxFault.message (fault : SyntaxFault) : String :=
  let place := s!"line {fault.line} column {fault.column} (char {fault.position})"
  s!"{fault.kind.message}: {place}"

/-- Why a text is refused: it is not JSON, or it holds a number with too many digits. -/
inductive Fault where
  | malformed (fault : SyntaxFault)
  | numeral (fault : Numeral.Fault)
  deriving DecidableEq, Repr

/-- A fault on the way, placed by the number of characters that were left. -/
inductive Stop where
  | malformed (kind : FaultKind) (left : Nat)
  | numeral (fault : Numeral.Fault)

/-- Stops in front of a text. -/
def stopAt {α : Type} (kind : FaultKind) (text : List Char) : Except Stop α :=
  .error (.malformed kind text.length)

/-- A character that may stand between the parts of a value. -/
def isSpace (c : Char) : Bool :=
  c == ' ' || c == '\t' || c == '\n' || c == '\r'

/-- The text without the white space at its start. -/
def skipSpace (text : List Char) : List Char :=
  text.dropWhile isSpace

/-- The number that four hexadecimal digits in ASCII stand for. -/
def code? (digits : List Char) : Option Nat :=
  if digits.length = 4 then
    (digits.mapM fun c => (Numeral.asciiDigit? c).filter (· < 16)).map
      (Numeral.ofDigits .hexadecimal)
  else none

/-- The character of a short escape. -/
def shortEscape? : Char → Option Char
  | '"' => some '"'
  | '\\' => some '\\'
  | '/' => some '/'
  | 'b' => some '\x08'
  | 'f' => some '\x0c'
  | 'n' => some '\n'
  | 'r' => some '\r'
  | 't' => some '\t'
  | _ => none

/-- The first half of a character that is written as two codes. -/
def isHighSurrogate (code : Nat) : Bool :=
  0xd800 ≤ code && code ≤ 0xdbff

/-- The second half of a character that is written as two codes. -/
def isLowSurrogate (code : Nat) : Bool :=
  0xdc00 ≤ code && code ≤ 0xdfff

/-- The character of a code, or the replacement character for a half of one. -/
def charOfCode (code : Nat) : Char :=
  if isHighSurrogate code || isLowSurrogate code then '\ufffd' else Char.ofNat code

/-- Reads the second half of a character whose first half has been read. It is left where it is if
it is not a second half. -/
def readSecondHalf (high : Nat) (text : List Char) : Except Stop (Char × List Char) :=
  match text with
  | '\\' :: 'u' :: rest =>
      if rest.length ≤ 4 then .ok (charOfCode high, text)
      else
        match code? (rest.take 4) with
        | none => stopAt .invalidCodeEscape ('u' :: rest)
        | some low =>
            if isLowSurrogate low then
              .ok (Char.ofNat (0x10000 + (high - 0xd800) * 0x400 + (low - 0xdc00)), rest.drop 4)
            else .ok (charOfCode high, text)
  | _ => .ok (charOfCode high, text)

/-- Reads the code of an escape, behind its letter. -/
def readCode (text : List Char) : Except Stop (Char × List Char) :=
  match code? (text.take 4), text.drop 4 with
  | none, _ | some _, [] => stopAt .invalidCodeEscape ('u' :: text)
  | some code, rest =>
      if isHighSurrogate code then readSecondHalf code rest else .ok (charOfCode code, rest)

/-- Reads an escape, behind its backslash. `opening` is the text from the opening quote on. -/
def readEscape (opening text : List Char) : Except Stop (Char × List Char) :=
  match text with
  | [] => stopAt .unterminatedString opening
  | 'u' :: rest => readCode rest
  | c :: rest =>
      match shortEscape? c with
      | some meant => .ok (meant, rest)
      | none => stopAt .invalidEscape ('\\' :: text)

/-- Reads the characters of a string up to the closing quote. Each step takes a character at least,
so that the length of the text is fuel enough. -/
def readChars (opening : List Char) : Nat → List Char → Except Stop (List Char × List Char)
  | fuel + 1, c :: rest =>
      if c = '"' then .ok ([], rest)
      else if c = '\\' then do
        let (first, rest) ← readEscape opening rest
        let (chars, rest) ← readChars opening fuel rest
        return (first :: chars, rest)
      else if c.toNat < 0x20 then stopAt .controlCharacter (c :: rest)
      else do
        let (chars, rest) ← readChars opening fuel rest
        return (c :: chars, rest)
  | _, _ => stopAt .unterminatedString opening

/-- Reads a string, behind its opening quote. -/
def readString (text : List Char) : Except Stop (String × List Char) := do
  let (chars, rest) ← readChars ('"' :: text) (text.length + 1) text
  return (String.ofList chars, rest)

/-- The digits at the start of a text and what follows them. -/
def spanDigits (text : List Char) : List Char × List Char :=
  text.span Char.isDigit

/-- The digits of a fraction, behind its point; none if there is no fraction. -/
def spanFraction (text : List Char) : List Char × List Char :=
  match text with
  | '.' :: rest => if rest.head?.any Char.isDigit then spanDigits rest else ([], text)
  | _ => ([], text)

/-- The power of ten behind its letter, if there is one. -/
def spanPower (text : List Char) : Option Int × List Char :=
  match text with
  | letter :: rest =>
      if letter = 'e' || letter = 'E' then
        let (negative, rest) := Numeral.splitSign rest
        let (digits, rest) := spanDigits rest
        let power := Numeral.ofDigits .decimal (digits.filterMap (Numeral.digit? .decimal))
        if digits.isEmpty then (none, text)
        else (some (if negative then -(power : Int) else power), rest)
      else (none, text)
  | [] => (none, text)

/-- The digits in front of the point: a zero alone, or digits that start with another one. -/
def spanWhole (text : List Char) : List Char × List Char :=
  match text with
  | '0' :: rest => (['0'], rest)
  | _ => spanDigits text

/-- Reads a number. It is an integer if it has neither a fraction nor a power. -/
def readNumber (text : List Char) : Except Stop (Value × List Char) :=
  let (negative, unsigned) := match text with
    | '-' :: rest => (true, rest)
    | _ => (false, text)
  let (whole, afterWhole) := spanWhole unsigned
  let (fraction, afterFraction) := spanFraction afterWhole
  let (power, rest) := spanPower afterFraction
  let value := fun digits =>
    Numeral.ofDigits .decimal (digits.filterMap (Numeral.digit? .decimal))
  if whole.isEmpty then stopAt .expectedValue text
  else if fraction.isEmpty && power.isNone then
    if Numeral.maxDecimalDigits < whole.length then .error (.numeral (.tooLong whole.length))
    else
      let number : Int := value whole
      .ok (.integer (if negative then -number else number), rest)
  else
    let power := power.getD 0 - fraction.length
    .ok (.real (Binary64.ofDecimal negative (value (whole ++ fraction)) power), rest)

/-- The names of values. -/
def namedValues : List (String × Value) :=
  [ ("null", .null), ("true", .boolean true), ("false", .boolean false), ("NaN", .real .nan),
    ("Infinity", .real (.infinite false)), ("-Infinity", .real (.infinite true)) ]

/-- Reads a value that is given by its name. -/
def readNamed? (text : List Char) : Option (Value × List Char) :=
  namedValues.findSome? fun (name, value) =>
    if name.toList.isPrefixOf text then some (value, text.drop name.length) else none

mutual

/-- Reads a value. -/
def readValue : Nat → List Char → Except Stop (Value × List Char)
  | 0, text => stopAt .expectedValue text
  | fuel + 1, text =>
      match text with
      | '"' :: rest => do
          let (content, rest) ← readString rest
          return (.text content, rest)
      | '[' :: rest =>
          match skipSpace rest with
          | ']' :: rest => .ok (.sequence [], rest)
          | rest => do
              let (items, rest) ← readItems fuel rest
              return (.sequence items, rest)
      | '\x7b' :: rest =>
          match skipSpace rest with
          | '\x7d' :: rest => .ok (.mapping [], rest)
          | rest => do
              let (pairs, rest) ← readPairs fuel rest
              return (.mapping (Value.ofPairs pairs), rest)
      | _ =>
          match readNamed? text with
          | some (value, rest) => .ok (value, rest)
          | none => readNumber text

/-- Reads the items of a sequence up to the closing bracket. -/
def readItems : Nat → List Char → Except Stop (List Value × List Char)
  | 0, text => stopAt .expectedValue text
  | fuel + 1, text => do
      let (item, rest) ← readValue fuel text
      match skipSpace rest with
      | ']' :: rest => return ([item], rest)
      | ',' :: rest =>
          let (items, rest) ← readItems fuel (skipSpace rest)
          return (item :: items, rest)
      | rest => stopAt .expectedComma rest

/-- Reads the pairs of a mapping up to the closing brace. -/
def readPairs : Nat → List Char → Except Stop (List (Value × Value) × List Char)
  | 0, text => stopAt .expectedKey text
  | fuel + 1, text =>
      match text with
      | '"' :: rest => do
          let (key, rest) ← readString rest
          match skipSpace rest with
          | ':' :: rest =>
              let (value, rest) ← readValue fuel (skipSpace rest)
              match skipSpace rest with
              | '\x7d' :: rest => return ([(.text key, value)], rest)
              | ',' :: rest =>
                  let (pairs, rest) ← readPairs fuel (skipSpace rest)
                  return ((.text key, value) :: pairs, rest)
              | rest => stopAt .expectedComma rest
          | rest => stopAt .expectedColon rest
      | _ => stopAt .expectedKey text

end

/-- Reads a whole text. Each value, item or pair takes a character or hands its text on once, so
that twice the length of the text is fuel enough. -/
def readWhole (text : List Char) : Except Stop Value := do
  if text.head? = some '\ufeff' then stopAt .byteOrderMark text
  let (value, rest) ← readValue (2 * text.length + 2) (skipSpace text)
  match skipSpace rest with
  | [] => return value
  | rest => stopAt .extraData rest

/-- The fault of a text at a position. -/
def faultAt (kind : FaultKind) (text : List Char) (position : Nat) : SyntaxFault :=
  let before := text.take position
  let column := (before.reverse.takeWhile (· ≠ '\n')).length + 1
  ⟨kind, before.count '\n' + 1, column, position⟩

/-- The value that a text stands for. -/
def read (text : String) : Except Fault Value :=
  let chars := text.toList
  (readWhole chars).mapError fun
    | .numeral fault => .numeral fault
    | .malformed kind left => .malformed (faultAt kind chars (chars.length - left))

end ErrorTables.Json
