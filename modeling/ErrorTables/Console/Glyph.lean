import ErrorTables.Text.Blank
import ErrorTables.Text.CellWidth

/-!
Text on the page, character by character, and the cells that it takes. Characters that are shown
as one make a grapheme: a character with its marks, pictures that are joined, and a picture with
the selector that asks for it. A text is cut between graphemes only.
-/

namespace ErrorTables.Console

open Text

/-- A character on the page. It opens a run if a style begins or ends in front of it, and it is
styled if some style is in force. -/
structure Glyph where
  char : Char
  opensRun : Bool := false
  styled : Bool := false
  deriving DecidableEq, Repr

namespace Glyph

/-- A blank without a style of its own. -/
def blank : Glyph where
  char := ' '

/-- The character is blank. -/
def isBlank (glyph : Glyph) : Bool :=
  Text.isBlank glyph.char

/-- A text without styles. -/
def ofText (text : List Char) : List Glyph :=
  text.map fun c => { char := c }

/-- The text without styles. -/
def toText (line : List Glyph) : List Char :=
  line.map (·.char)

/-- The parts of a text that are in one style. -/
def runs (line : List Glyph) : List (List Glyph) :=
  line.splitBy fun _ next => !next.opensRun

/-- The text without the blanks at its end. -/
def trimEnd (line : List Glyph) : List Glyph :=
  (line.reverse.dropWhile isBlank).reverse

end Glyph

/-! ### Graphemes -/

/-- The character that joins its neighbours to one picture. -/
def joiner : Char := '\u200d'

/-- The character that asks for the picture of the character in front of it. -/
def pictureSelector : Char := '\ufe0f'

/-- Characters that are shown as one, and the cells that they take. -/
structure Grapheme where
  glyphs : List Glyph
  width : Nat
  deriving DecidableEq, Repr

namespace Grapheme

/-- The grapheme that starts with a character. -/
def start (glyph : Glyph) : Grapheme where
  glyphs := [glyph]
  width := charWidth glyph.char

/-- The grapheme with more characters that take no cells of their own. -/
def extend (grapheme : Grapheme) (glyphs : List Glyph) : Grapheme :=
  { grapheme with glyphs := grapheme.glyphs ++ glyphs }

/-- The grapheme shown as a picture, which takes one cell more. -/
def widen (grapheme : Grapheme) : Grapheme :=
  { grapheme with width := grapheme.width + 1 }

/-- The grapheme at hand and those that follow it. The base is the latest character that takes
cells, unless it has been widened; a joiner hides the character behind it. -/
def collect (grapheme : Grapheme) (base : Option Char) : List Glyph → List Grapheme
  | [] => [grapheme]
  | [glyph] =>
      if glyph.char = pictureSelector && base.any (inRanges picturedRanges) then
        [(grapheme.extend [glyph]).widen]
      else if charWidth glyph.char = 0 then [grapheme.extend [glyph]]
      else [grapheme, start glyph]
  | glyph :: next :: rest =>
      if glyph.char = joiner then collect (grapheme.extend [glyph, next]) base rest
      else if glyph.char = pictureSelector && base.any (inRanges picturedRanges) then
        collect (grapheme.extend [glyph]).widen none (next :: rest)
      else if charWidth glyph.char = 0 then
        collect (grapheme.extend [glyph]) base (next :: rest)
      else grapheme :: collect (start glyph) (some glyph.char) (next :: rest)

/-- The graphemes of a text. -/
def ofGlyphs : List Glyph → List Grapheme
  | [] => []
  | glyph :: rest =>
      collect (start glyph) (if charWidth glyph.char = 0 then none else some glyph.char) rest

end Grapheme

/-- The number of cells of a text. A joiner at the start hides the character behind it. -/
def cellWidth : List Glyph → Nat
  | [] => 0
  | [glyph] => charWidth glyph.char
  | glyph :: next :: rest =>
      if glyph.char = joiner then cellWidth rest
      else ((Grapheme.ofGlyphs (glyph :: next :: rest)).map (·.width)).sum

/-! ### Cutting -/

/-- The graphemes that fit into a number of cells. A blank stands for the half of a wide one. -/
def cutGraphemes (cells : Nat) : List Grapheme → List Glyph
  | [] => []
  | grapheme :: rest =>
      if cells = 0 then []
      else if grapheme.width ≤ cells then
        grapheme.glyphs ++ cutGraphemes (cells - grapheme.width) rest
      else [.blank]

/-- The start of a text that takes a number of cells, for a text that takes no fewer. -/
def cut (cells : Nat) (line : List Glyph) : List Glyph :=
  if cellWidth line = cells then line else cutGraphemes cells (Grapheme.ofGlyphs line)

/-- The number of cells of a text in which each run is counted on its own. -/
def runWidth (line : List Glyph) : Nat :=
  (Glyph.runs line).foldr (fun run cells => cellWidth run + cells) 0

/-- The start of runs that takes a number of cells. The last run is cut. -/
def cutRuns (cells : Nat) : List (List Glyph) → List Glyph
  | [] => []
  | run :: rest =>
      if cellWidth run < cells then run ++ cutRuns (cells - cellWidth run) rest
      else cut cells run

/-- A line that is not longer than the width; dots stand for what is missing. -/
def truncate (width : Nat) (line : List Glyph) : List Glyph :=
  if width < cellWidth line then cut (width - 1) line ++ [{ char := '…' }] else line

/-- A line without what stands beyond the width. -/
def crop (width : Nat) (line : List Glyph) : List Glyph :=
  if width < runWidth line then cutRuns width (Glyph.runs line) else line

/-- Blanks in the given number, which open a run or not. -/
def blanks (count : Nat) (opensRun : Bool) : List Glyph :=
  List.replicate (min count 1) { char := ' ', opensRun } ++ List.replicate (count - 1) .blank

/-- A line with blanks behind it up to the width. The blanks end all styles. -/
def pad (width : Nat) (line : List Glyph) : List Glyph :=
  line ++ blanks (width - cellWidth line) (line.getLast?.any (·.styled))

/-- A line that takes as many cells as the width. -/
def fit (width : Nat) (line : List Glyph) : List Glyph :=
  crop width line ++ blanks (width - runWidth line) true

end ErrorTables.Console
