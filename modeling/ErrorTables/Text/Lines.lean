/-!
Lines of a text. `splitLines` knows every line break of Unicode, `splitFeeds` the line feed alone,
and `unifyBreaks` writes each of the three common line ends as a line feed.
-/

namespace ErrorTables.Text

/-- The characters that end a line. -/
def lineBreaks : List Char :=
  ['\n', '\x0b', '\x0c', '\r', '\x1c', '\x1d', '\x1e', '\u0085', '\u2028', '\u2029']

/-- The character ends a line. -/
def isLineBreak (c : Char) : Bool :=
  lineBreaks.contains c

/-- Puts a character at the start of the first line, which it opens if there is none. -/
def consLine (c : Char) : List (List Char) → List (List Char)
  | [] => [[c]]
  | line :: lines => (c :: line) :: lines

/-- The lines of a text without their breaks. A carriage return before a line feed belongs to the
same break, and a break at the very end starts no further line. -/
def splitLines : List Char → List (List Char)
  | [] => []
  | '\r' :: '\n' :: rest => [] :: splitLines rest
  | c :: rest => if isLineBreak c then [] :: splitLines rest else consLine c (splitLines rest)

/-- The lines of a text whose only line break is the line feed. -/
def splitFeeds : List Char → List (List Char)
  | [] => []
  | c :: rest => if c = '\n' then [] :: splitFeeds rest else consLine c (splitFeeds rest)

/-- The text with each carriage return, and each carriage return with its line feed, replaced by a
line feed. -/
def unifyBreaks : List Char → List Char
  | [] => []
  | '\r' :: '\n' :: rest => '\n' :: unifyBreaks rest
  | c :: rest => (if c = '\r' then '\n' else c) :: unifyBreaks rest

/-- The lines, each closed by a line feed. -/
def closeLines (lines : List String) : String :=
  String.join (lines.map (· ++ "\n"))

@[simp]
theorem closeLines_nil : closeLines [] = "" := rfl

@[simp]
theorem splitLines_nil : splitLines [] = [] := rfl

@[simp]
theorem splitFeeds_nil : splitFeeds [] = [] := rfl

@[simp]
theorem unifyBreaks_nil : unifyBreaks [] = [] := rfl

end ErrorTables.Text
