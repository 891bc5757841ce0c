import ErrorTables.Console.Glyph
import ErrorTables.Console.Markup
import ErrorTables.Text.Lines

/-!
Text on lines of limited width. Lines break in front of words that do not fit; a word that fits on
no line is either chopped or left to be cut. Widths are counted in cells.
-/

namespace ErrorTables.Console

open Text

/-- The number of cells from one tab stop to the next. -/
def tabSize : Nat := 8

/-- The parts of a line that follow one another, each with its tab replaced by a blank and by
further blanks up to the next stop. The parts start at the given cell. -/
def expandParts (cell : Nat) : List (List Glyph) → List Glyph
  | [] => []
  | part :: rest =>
      if part.getLast?.any (·.char == '\t') then
        let blanked := part.map fun glyph =>
          if glyph.char = '\t' then { glyph with char := ' ' } else glyph
        let size := cell + cellWidth blanked
        let stop := (size + tabSize - 1) / tabSize * tabSize
        blanked ++ blanks (stop - size) false ++ expandParts stop rest
      else part ++ expandParts (cell + cellWidth part) rest

/-- A line with its tabs replaced by blanks. -/
def expandTabs (line : List Glyph) : List Glyph :=
  expandParts 0 (line.splitBy fun glyph _ => glyph.char != '\t')

/-- The words of a line, each with the blanks behind it and the first one also with those in front
of it. A line of blanks has no words. -/
def words (line : List Glyph) : List (List Glyph) :=
  match line.splitBy fun first second => !first.isBlank || second.isBlank with
  | [] => []
  | first :: rest =>
      if first.all Glyph.isBlank then
        match rest with
        | [] => []
        | second :: rest => (first ++ second) :: rest
      else first :: rest

/-- The pieces of a word of which each fills a line but for the last. The first piece has some
characters already that take up the given cells. -/
def chop (width used : Nat) (piece : List Glyph) : List Grapheme → List (List Glyph)
  | [] => [piece]
  | grapheme :: rest =>
      if width < used + grapheme.width then
        piece :: chop width grapheme.width grapheme.glyphs rest
      else chop width (used + grapheme.width) (piece ++ grapheme.glyphs) rest

/-- The lines so far with the line at hand closed, if anything stands on it. -/
def closeLine (line : List Glyph) : List (List Glyph) :=
  if line.isEmpty then [] else [line]

/-- The line at hand, of which some cells are used, and the lines that words make from there on.
Words that fit on no line are chopped, or else put on a line of their own. -/
def fill (width : Nat) (chops : Bool) (used : Nat) (line : List Glyph)
    : List (List Glyph) → List (List Glyph)
  | [] => [line]
  | word :: rest =>
      let size := cellWidth (Glyph.trimEnd word)
      if used + size ≤ width then fill width chops (used + cellWidth word) (line ++ word) rest
      else if chops && width < size then
        let parts := chop width 0 [] (Grapheme.ofGlyphs word)
        let last := parts.getLast?.getD []
        closeLine line ++ parts.dropLast ++ fill width chops (cellWidth last) last rest
      else closeLine line ++ fill width chops (cellWidth word) word rest

/-- A line without the blanks at its end as far as they go beyond a number of characters. -/
def dropExcessBlanks (width : Nat) (line : List Glyph) : List Glyph :=
  let blanks := line.length - (Glyph.trimEnd line).length
  line.take (line.length - min blanks (line.length - width))

/-- The lines that a line without breaks is wrapped to. -/
def wrapLine (width : Nat) (chops : Bool) (line : List Glyph) : List (List Glyph) :=
  let line := expandTabs line
  let lines := match words line with
    | [] => [line]
    | words => fill width chops 0 [] words
  lines.map (dropExcessBlanks width)

/-- The parts of a text between its line feeds. -/
def splitLineFeeds (text : List Glyph) : List (List Glyph) :=
  text.splitOnP (·.char == '\n')

/-- The lines that a text is wrapped to. -/
def wrap (width : Nat) (chops : Bool) (text : List Glyph) : List (List Glyph) :=
  (splitLineFeeds text).flatMap (wrapLine width chops)

/-- The width of the page, in cells. -/
def pageWidth : Nat := 200

/-- A line as it is printed. -/
def printedLine (line : List Glyph) : String :=
  String.ofList (Glyph.toText line)

/-- Markup as it is printed. -/
def print (markup : String) : Except Markup.Fault String := do
  let text ← Markup.render markup
  text.checkStyles
  return closeLines ((wrap pageWidth true text.glyphs).map (printedLine ∘ crop pageWidth))

end ErrorTables.Console
