import ErrorTables.Console.Expression.Fault
import ErrorTables.Numeral
import ErrorTables.Text.Word

/-!
The lexemes of expressions that describe the parameters of events: names, numbers, texts between
quotes, and signs. Brackets must match. A fault of the lexemes counts before any other, wherever it
stands.
-/

namespace ErrorTables.Console.Expression

open Text

/-- A lexeme. The end of a line counts outside brackets only. Where the text cannot be divided any
further, the fault stands in place of a lexeme, since a fault in front of it counts first. -/
inductive Lexeme where
  | name (text : String)
  | number
  | quoted
  | sign (text : String)
  | lineEnd
  | stray (fault : Fault)
  deriving DecidableEq, Repr

/-! ### Numbers -/

/-- A character that a name starts with, as far as the first look tells. -/
def opensName (c : Char) : Bool :=
  c.isAlpha || c == '_' || 0x80 ≤ c.toNat

/-- A character that a name goes on with, as far as the first look tells. -/
def continuesName (c : Char) : Bool :=
  opensName c || c.isDigit

/-- The words that may follow a number without a blank. -/
def numberFollowers : List (List Char) :=
  ["and", "else", "for", "not", "or"].map String.toList

/-- The first letters of the short words that may follow a number without a blank. -/
def shortFollowers : List (List Char) :=
  ["if", "in", "is"].map String.toList

/-- What follows a number, which must not run into a name. -/
def endNumber (form : NumberForm) (text : List Char) : Except Fault (List Char) :=
  let word := text.takeWhile continuesName
  let runsOn := text.head?.any fun c => continuesName c && c.toNat < 0x80
  if !runsOn || numberFollowers.contains word || shortFollowers.any (·.isPrefixOf word) then
    .ok text
  else .error (.number form)

/-- What follows groups of digits that underscores divide. Each group must have a digit. -/
def skipGroups (form : NumberForm) (isDigit : Char → Bool) : Nat → List Char
    → Except Fault (List Char)
  | 0, text => .ok text
  | fuel + 1, text =>
      if !text.head?.any isDigit then .error (.number form)
      else
        match text.dropWhile isDigit with
        | '_' :: rest => skipGroups form isDigit fuel rest
        | rest => .ok rest

/-- What follows decimal digits. -/
def skipDigits (text : List Char) : Except Fault (List Char) :=
  skipGroups .decimal Char.isDigit (text.length + 1) text

/-- What follows the digits of a number in a radix, behind its marker. -/
def skipMarked (form : NumberForm) (isDigit : Char → Bool) (text : List Char)
    : Except Fault (List Char) :=
  let text := if text.head? = some '_' then text.tail else text
  match text with
  | c :: _ =>
      if c.isDigit && !isDigit c && form ≠ .hexadecimal then .error (.digit c form)
      else do
        let rest ← skipGroups form isDigit (text.length + 1) text
        match rest with
        | c :: _ => if c.isDigit then throw (.digit c form) else endNumber form rest
        | [] => return []
  | [] => .error (.number form)

/-- What follows the power and the imaginary mark of a decimal number. -/
def skipPower (text : List Char) : Except Fault (List Char) :=
  match text with
  | c :: rest =>
      if c = 'e' || c = 'E' then
        match rest with
        | sign :: digits =>
            if sign = '+' || sign = '-' then
              if digits.head?.any Char.isDigit then do skipImaginary (← skipDigits digits)
              else .error (.number .decimal)
            else if sign.isDigit then do skipImaginary (← skipDigits rest)
            else endNumber .decimal text
        | [] => endNumber .decimal text
      else skipImaginary text
  | [] => .ok []
where
  /-- What follows the mark of an imaginary number. -/
  skipImaginary (text : List Char) : Except Fault (List Char) :=
    match text with
    | 'j' :: rest | 'J' :: rest => endNumber .imaginary rest
    | _ => endNumber .decimal text

/-- What follows the fraction, the power and the imaginary mark of a decimal number. -/
def skipFraction (text : List Char) : Except Fault (List Char) :=
  match text with
  | '.' :: rest => do
      if rest.head?.any Char.isDigit then skipPower (← skipDigits rest) else skipPower rest
  | _ => skipPower text

/-- What follows a number. -/
def skipNumber (text : List Char) : Except Fault (List Char) :=
  match text with
  | '0' :: 'x' :: rest | '0' :: 'X' :: rest =>
      skipMarked .hexadecimal (fun c => (Numeral.asciiDigit? c).any (· < 16)) rest
  | '0' :: 'o' :: rest | '0' :: 'O' :: rest =>
      skipMarked .octal (fun c => '0' ≤ c && c ≤ '7') rest
  | '0' :: 'b' :: rest | '0' :: 'B' :: rest =>
      skipMarked .binary (fun c => c == '0' || c == '1') rest
  | '.' :: _ => skipFraction text
  | _ => do
      let rest ← skipDigits text
      let digits := text.take (text.length - rest.length)
      let isReal := rest.head?.any fun c => ['.', 'e', 'E', 'j', 'J'].contains c
      if digits.head? = some '0' && digits.any (fun c => c != '0' && c != '_') && !isReal then
        throw .leadingZeros
      skipFraction rest

/-! ### Texts and names -/

/-- The words that may stand in front of a quote. -/
def quoteMarks : List String :=
  ["r", "u", "b", "f", "br", "rb", "fr", "rf"]

/-- The number of line feeds in a text. -/
def lineFeeds (text : List Char) : Nat :=
  text.count '\n'

/-- What follows a text in single quotes, behind the opening one. -/
def skipQuoted (quote : Char) (line : Nat) : List Char → Except Fault (List Char)
  | [] => .error (.openQuote line)
  | '\\' :: _ :: rest => skipQuoted quote line rest
  | c :: rest =>
      if c = quote then .ok rest
      else if c = '\n' then .error (.openQuote line)
      else skipQuoted quote line rest

/-- What follows a text in triple quotes, behind the opening ones. -/
def skipTripleQuoted (quote : Char) (lastLine : Nat) : List Char → Except Fault (List Char)
  | [] => .error (.openTripleQuote lastLine)
  | '\\' :: _ :: rest => skipTripleQuoted quote lastLine rest
  | c :: rest =>
      if c = quote && rest.take 2 = [quote, quote] then .ok (rest.drop 2)
      else skipTripleQuoted quote lastLine rest

/-- What follows a text between quotes, from the opening quote on. -/
def skipText (quote : Char) (line : Nat) (text : List Char) : Except Fault (List Char) :=
  if text.take 3 = [quote, quote, quote] then
    skipTripleQuoted quote (line + lineFeeds text) (text.drop 3)
  else skipQuoted quote line text.tail

/-- A character that a name may hold. -/
def isNameChar (c : Char) : Bool :=
  isWord c || (isPrintable c && inRanges zeroWidthRanges c)

/-- The first character that a name must not hold. -/
def foreignChar? (name : List Char) : Option Char :=
  match name with
  | [] => none
  | first :: rest =>
      if isWord first && (first.toNat < 0x80 || (decimalDigit? first).isNone) then
        rest.find? (!isNameChar ·)
      else some first

/-! ### Signs -/

/-- The signs of several characters, longer ones first. -/
def longSigns : List (List Char) :=
  [ "...", "**=", "//=", "<<=", ">>=", "!=", "%=", "&=", "**", "*=", "+=", "-=", "->", "//", "/=",
    ":=", "<<", "<=", "==", ">=", ">>", "@=", "^=", "|=" ].map String.toList

/-- The sign at the start of a text. -/
def signOf (text : List Char) : List Char :=
  (longSigns.find? (·.isPrefixOf text)).getD (text.take 1)

/-- The bracket that a closing one belongs to. -/
def openingOf? : Char → Option Char
  | ')' => some '('
  | ']' => some '['
  | '\x7d' => some '\x7b'
  | _ => none

/-- The character opens a bracket. -/
def opensBracket (c : Char) : Bool :=
  c == '(' || c == '[' || c == '\x7b'

/-- The most brackets that may be open at a time. -/
def maxDepth : Nat := 199

/-- The open brackets with their lines, the latest first, behind a sign. -/
def track (opened : List (Char × Nat)) (line : Nat) (sign : List Char)
    : Except Fault (List (Char × Nat)) :=
  match sign with
  | [c] =>
      if opensBracket c then
        if maxDepth < opened.length then .error .tooDeep else .ok ((c, line) :: opened)
      else
        match openingOf? c, opened with
        | none, _ => .ok opened
        | some _, [] => .error (.unopened c)
        | some opening, (bracket, openingLine) :: rest =>
            if bracket = opening then .ok rest
            else
              let place := if openingLine = line then none else some openingLine
              .error (.mismatched c bracket place)
  | _ => .ok opened

/-! ### All lexemes -/

/-- The next lexeme, if there is one in front of the next blank, and what follows. -/
def next (opened : List (Char × Nat)) (line : Nat) (text : List Char)
    : Except Fault (Option Lexeme × List Char) :=
  match text with
  | [] => .ok (none, [])
  | c :: rest =>
      if c = '\n' then .ok (if opened.isEmpty then some .lineEnd else none, rest)
      else if c = ' ' || c = '\t' || c = '\x0c' then .ok (none, rest)
      else if c = '#' then .ok (none, rest.dropWhile (· ≠ '\n'))
      else if c = '\\' then
        match rest with
        | ['\n'] => .ok (some (.stray .endOfText), [])
        | '\n' :: rest => .ok (none, rest)
        | _ => .ok (some (.stray .continuation), [])
      else if c.isDigit || (c = '.' && rest.head?.any Char.isDigit) then
        (skipNumber text).map fun rest => (some .number, rest)
      else if c = '\'' || c = '"' then
        (skipText c line text).map fun rest => (some .quoted, rest)
      else if opensName c then
        let name := text.takeWhile continuesName
        let rest := text.drop name.length
        let isMark := quoteMarks.contains (String.ofList (name.map Char.toLower))
        match rest.head?, foreignChar? name with
        | some quote, none =>
            if isMark && (quote = '\'' || quote = '"') then
              (skipText quote line rest).map fun rest => (some .quoted, rest)
            else .ok (some (.name (String.ofList name)), rest)
        | none, none => .ok (some (.name (String.ofList name)), rest)
        | _, some c => .error (.foreign c)
      else if !isPrintable c then .error (.foreign c)
      else
        let sign := signOf text
        .ok (some (.sign (String.ofList sign)), text.drop sign.length)

/-- The open brackets behind a lexeme. -/
def trackLexeme (opened : List (Char × Nat)) (line : Nat)
    : Option Lexeme → Except Fault (List (Char × Nat))
  | some (.sign text) => track opened line text.toList
  | _ => .ok opened

/-- The lexemes of a text, and the latest of the brackets that are open at its end. Each step takes
a character, so that the length of the text is fuel enough. -/
def lexemesFrom (opened : List (Char × Nat)) (line : Nat)
    : Nat → List Char → Except Fault (List Lexeme × Option Char)
  | 0, _ => .ok ([], opened.head?.map Prod.fst)
  | fuel + 1, text =>
      if text.isEmpty then .ok ([], opened.head?.map Prod.fst)
      else do
        let (lexeme, rest) ← next opened line text
        let opened ← trackLexeme opened line lexeme
        let passed := text.take (text.length - rest.length)
        let (lexemes, latest) ← lexemesFrom opened (line + lineFeeds passed) fuel rest
        return (lexeme.toList ++ lexemes, latest)

/-- The lexemes of a text, and the latest of the brackets that are open at its end. -/
def lexemes (text : List Char) : Except Fault (List Lexeme × Option Char) :=
  lexemesFrom [] 1 (text.length + 1) text

end ErrorTables.Console.Expression
