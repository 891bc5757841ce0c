import ErrorTables.Text.Blank
import ErrorTables.Text.Quoted
import ErrorTables.Text.Word

/-!
The lines of a definition file. A line opens a group, closes one, gives an entry, or is ignored;
`Line.classify` decides which by the shape of the line alone.
-/

namespace ErrorTables.Definition

open Text

/-- The first line of a group: `name = base "label" qualifier {`, where the qualifier may be
missing. The base is kept as it is written. -/
structure Opening where
  name : String
  base : String
  label : String
  qualifier : Option String
  deriving DecidableEq, Repr

/-- What a line of a definition file says. -/
inductive Line where
  | ignored
  | opening (opening : Opening)
  | closing
  | entry (tag message : String)
  deriving DecidableEq, Repr

/-- A character of a base as it is written. -/
def isBaseChar (c : Char) : Bool :=
  c.isDigit || ('a' ≤ c && c ≤ 'f') || ('A' ≤ c && c ≤ 'F') || c == 'x' || c == 'X'

/-- A character that a qualifier may go on with. -/
def isQualifierChar (c : Char) : Bool :=
  isWord c || c == ':'

/-- The name at the start of a text and what follows it. -/
def takeName? (text : List Char) : Option (List Char × List Char) :=
  if text.head?.any isNameStart then some (text.takeWhile isWord, text.dropWhile isWord) else none

/-- What follows the blanks and the given character at the start of a text. -/
def expect? (c : Char) (text : List Char) : Option (List Char) :=
  match trimStart text with
  | first :: rest => if first = c then some rest else none
  | [] => none

/-- The text before the last occurrence of a character and the text after it. -/
def splitAtLast? (c : Char) : List Char → Option (List Char × List Char)
  | [] => none
  | first :: rest =>
      match splitAtLast? c rest with
      | some (before, after) => some (first :: before, after)
      | none => if first = c then some ([], rest) else none

/-- The qualifier and the brace that end an opening line, with blanks around them. -/
def readOpeningEnd? (text : List Char) : Option (Option String) :=
  let start := trimStart text
  let written := if start.head?.any isNameStart then start.takeWhile isQualifierChar else []
  match expect? '{' (start.drop written.length) with
  | some rest =>
      if rest.all isBlank then
        some (if written.isEmpty then none else some (String.ofList written))
      else none
  | none => none

/-- The opening that a line spells out. The label runs from the first double quote to the last one
and stays on one line. -/
def Opening.read? (text : List Char) : Option Opening := do
  let (name, rest) ← takeName? (trimStart text)
  let rest := trimStart (← expect? '=' rest)
  let base := rest.takeWhile isBaseChar
  let rest ← if base.isEmpty then none else expect? '"' (rest.dropWhile isBaseChar)
  let (label, rest) ← splitAtLast? '"' rest
  let qualifier ← if label.contains '\n' then none else readOpeningEnd? rest
  some ⟨String.ofList name, String.ofList base, String.ofList label, qualifier⟩

/-- The tag and the message that a line spells out. A message is set off from the tag by blanks and
stays on one line. -/
def readEntry? (text : List Char) : Option (String × String) := do
  let (tag, rest) ← takeName? (trimStart text)
  let message := trim rest
  if (rest.head?.all isBlank) && !message.contains '\n' then
    some (String.ofList tag, String.ofList message)
  else none

/-- A line that is neither an opening nor an entry nor anything else, by its trimmed text. -/
structure UnknownLine where
  text : String
  deriving DecidableEq, Repr

/-- The wording of the refusal. -/
def UnknownLine.message (line : UnknownLine) : String :=
  s!"bad line: {quoted line.text}"

/-- What a line says. Blank lines and lines that start with `#` are ignored and lines that start
with `}` close a group; of the others, those that spell out an opening are one, whatever else they
could be. -/
def Line.classify (text : String) : Except UnknownLine Line :=
  let chars := text.toList
  let trimmed := trim chars
  match trimmed.head? with
  | none | some '#' => .ok .ignored
  | some '}' => .ok .closing
  | some _ =>
      match Opening.read? chars, readEntry? chars with
      | some spelled, _ => .ok (.opening spelled)
      | none, some (tag, message) => .ok (.entry tag message)
      | none, none => .error ⟨String.ofList trimmed⟩

end ErrorTables.Definition
