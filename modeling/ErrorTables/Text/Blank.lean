/-!
Blank characters and trimming. One set of blanks serves the whole library: the separators, tabs
and line breaks of all scripts together with the four information separators of ASCII.
-/

namespace ErrorTables.Text

/-- The blank characters. -/
def blanks : List Char :=
  ['\t', '\n', '\x0b', '\x0c', '\r', '\x1c', '\x1d', '\x1e', '\x1f', ' ', '\u0085', '\u00a0',
    '\u1680', '\u2000', '\u2001', '\u2002', '\u2003', '\u2004', '\u2005', '\u2006', '\u2007',
    '\u2008', '\u2009', '\u200a', '\u2028', '\u2029', '\u202f', '\u205f', '\u3000']

/-- The character is blank. -/
def isBlank (c : Char) : Bool :=
  blanks.contains c

/-- The text without the blanks at its start. -/
def trimStart (text : List Char) : List Char :=
  text.dropWhile isBlank

/-- The text without the blanks at its end. -/
def trimEnd (text : List Char) : List Char :=
  (text.reverse.dropWhile isBlank).reverse

/-- The text without the blanks at its ends. -/
def trim (text : List Char) : List Char :=
  trimEnd (trimStart text)

/-- The parts of a text between its blanks. -/
def splitBlanks (text : List Char) : List (List Char) :=
  (text.splitBy fun first second => isBlank first == isBlank second).filter fun part =>
    !part.any isBlank

@[simp]
theorem trimStart_nil : trimStart [] = [] := rfl

@[simp]
theorem trimEnd_nil : trimEnd [] = [] := rfl

@[simp]
theorem trim_nil : trim [] = [] := rfl

end ErrorTables.Text
