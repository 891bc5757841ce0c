/-!
A place in a YAML stream: what is left of the stream, and how many characters, lines and columns
have been passed.
-/

namespace ErrorTables.Yaml

/-- A place in a stream. Lines and columns count from zero. -/
structure Cursor where
  rest : List Char
  index : Nat := 0
  line : Nat := 0
  column : Nat := 0
  deriving Repr

/-- A character that ends a line. -/
def isBreak (c : Char) : Bool :=
  c == '\n' || c == '\r' || c == '\u0085' || c == '\u2028' || c == '\u2029'

/-- A line end or the end of the stream. -/
def endsLine (c : Option Char) : Bool :=
  c.all isBreak

/-- A blank, a line end or the end of the stream. -/
def endsWord (c : Option Char) : Bool :=
  c.all fun c => c == ' ' || c == '\t' || isBreak c

/-- A blank without width on the line, a line end or the end of the stream: all that may follow a
word in a directive. -/
def endsField (c : Option Char) : Bool :=
  c.all fun c => c == ' ' || isBreak c

namespace Cursor

/-- The character some places ahead, if the stream goes on so far. -/
def peek (cursor : Cursor) (distance : Nat := 0) : Option Char :=
  cursor.rest[distance]?

/-- The place behind the next character. A byte order mark takes no column. -/
def next (cursor : Cursor) : Cursor :=
  match cursor.rest with
  | [] => cursor
  | c :: rest =>
      if isBreak c && !(c == '\r' && rest.head? = some '\n') then
        ⟨rest, cursor.index + 1, cursor.line + 1, 0⟩
      else
        let column := if c == '\ufeff' then cursor.column else cursor.column + 1
        ⟨rest, cursor.index + 1, cursor.line, column⟩

/-- The place behind the next characters, as many as the number says. -/
def skip : Cursor → Nat → Cursor
  | cursor, 0 => cursor
  | cursor, count + 1 => skip cursor.next count

/-- The characters ahead that satisfy a test, up to the first one that does not. -/
def span (cursor : Cursor) (test : Char → Bool) : List Char :=
  cursor.rest.takeWhile test

/-- The place behind the characters ahead that satisfy a test. -/
def skipWhile (cursor : Cursor) (test : Char → Bool) : Cursor :=
  cursor.skip (cursor.span test).length

/-- The place behind the spaces ahead. -/
def skipSpaces (cursor : Cursor) : Cursor :=
  cursor.skipWhile (· == ' ')

/-- The place behind the spaces ahead that stand left of a column. -/
def skipIndent (cursor : Cursor) (column : Nat) : Cursor :=
  cursor.skip (min (cursor.span (· == ' ')).length (column - cursor.column))

/-- The place at the end of the line if a comment is ahead. -/
def skipComment (cursor : Cursor) : Cursor :=
  if cursor.peek = some '#' then cursor.skipWhile (!isBreak ·) else cursor

/-- The line end ahead as it is kept in a text, with the place behind it. The separators of lines
and paragraphs stand for themselves, all others for a line feed. -/
def lineBreak (cursor : Cursor) : List Char × Cursor :=
  match cursor.rest with
  | '\r' :: '\n' :: _ => (['\n'], cursor.skip 2)
  | c :: _ =>
      if c == '\u2028' || c == '\u2029' then ([c], cursor.next)
      else if isBreak c then (['\n'], cursor.next)
      else ([], cursor)
  | [] => ([], cursor)

/-- A document marker of three equal characters is ahead. -/
def atMarker (cursor : Cursor) (mark : Char) : Bool :=
  cursor.rest.take 3 = [mark, mark, mark] && endsWord (cursor.peek 3)

/-- The start or the end of a document is ahead. -/
def atDocumentMarker (cursor : Cursor) : Bool :=
  cursor.atMarker '-' || cursor.atMarker '.'

end Cursor

end ErrorTables.Yaml
