import ErrorTables.Console.Emoji
import ErrorTables.Console.Glyph
import ErrorTables.Console.Parameters
import ErrorTables.Console.Style

/-!
Console markup: text with tags in square brackets that switch styles on and off. Rendering drops
the tags, checks that each closing tag has something to close, and replaces the names of emoji.
Escaping puts backslashes in front of what would be taken for a tag.
-/

namespace ErrorTables.Console.Markup

open Text

/-- Why markup is refused: a closing tag, as it is written, and its position in the text; a colour
that is no colour; or the parameters of an event. -/
inductive Fault where
  | unmatched (tag : String) (position : Nat)
  | nothingOpen (position : Nat)
  | colour (fault : Numeral.Fault)
  | parameters (fault : Parameters.Fault)
  deriving DecidableEq, Repr

/-- The wording of a fault. -/
def Fault.message : Fault → String
  | .unmatched tag position =>
      s!"closing tag '{tag}' at position {position} doesn't match any open tag"
  | .nothingOpen position => s!"closing tag '[/]' at position {position} has nothing to close"
  | .colour fault => fault.message
  | .parameters fault => fault.message

/-- The character may follow the bracket that opens a tag. -/
def startsTag (c : Char) : Bool :=
  ('a' ≤ c && c ≤ 'z') || c == '#' || c == '/' || c == '@'

/-- What stands between the brackets of the tag at the start of a text, and the text behind it. -/
def tagAtStart? (text : List Char) : Option (List Char × List Char) :=
  match text with
  | '[' :: first :: rest =>
      let inner := rest.takeWhile fun c => !(c == '[' || c == ']')
      match rest.drop inner.length with
      | ']' :: behind => if startsTag first then some (first :: inner, behind) else none
      | _ => none
  | _ => none

/-- A tag that follows backslashes: their number, what stands between the brackets, and the text
behind. -/
def slashedTag? (text : List Char) : Option (Nat × List Char × List Char) :=
  let slashes := text.takeWhile (· == '\\')
  (tagAtStart? (text.drop slashes.length)).map fun (inner, behind) =>
    (slashes.length, inner, behind)

theorem length_tagAtStart? {text inner behind : List Char}
    (found : tagAtStart? text = some (inner, behind)) : behind.length < text.length := by
  unfold tagAtStart? at found
  split at found
  · rename_i first rest
    dsimp only at found
    split at found
    · rename_i tail equal
      split at found
      · have size := congrArg List.length equal
        simp only [List.length_drop, List.length_cons] at size
        simp only [Option.some.injEq, Prod.mk.injEq] at found
        simp only [List.length_cons, ← found.2]
        omega
      · simp at found
    · simp at found
  · simp at found

theorem length_slashedTag? {text inner behind : List Char} {slashes : Nat}
    (found : slashedTag? text = some (slashes, inner, behind)) : behind.length < text.length := by
  unfold slashedTag? at found
  simp only [Option.map_eq_some_iff, Prod.exists, Prod.mk.injEq] at found
  obtain ⟨inside, rest, tag, -, -, rfl⟩ := found
  have shorter := length_tagAtStart? tag
  simp only [List.length_drop] at shorter
  omega

/-! ### Escaping -/

/-- The text with each tag escaped, and the backslashes in front of it doubled. -/
def escapeTags (text : List Char) : List Char :=
  match _found : slashedTag? text with
  | some (slashes, inner, behind) =>
      List.replicate (2 * slashes + 1) '\\' ++ '[' :: inner ++ ']' :: escapeTags behind
  | none =>
      match text with
      | [] => []
      | c :: rest => c :: escapeTags rest
termination_by text.length
decreasing_by
  · exact length_slashedTag? _found
  · simp

/-- The text as markup that renders to it. A single backslash at the end is doubled, so that it
cannot escape what follows. -/
def escape (text : String) : String :=
  let escaped := escapeTags text.toList
  match escaped.reverse with
  | '\\' :: '\\' :: _ => String.ofList escaped
  | '\\' :: _ => String.ofList (escaped ++ ['\\'])
  | _ => String.ofList escaped

/-! ### Rendering -/

/-- A piece of markup: text between tags, text that is protected by backslashes, or a tag with its
position. -/
inductive Piece where
  | plain (text : List Char)
  | shielded (text : List Char)
  | tag (position : Nat) (inner : List Char)

/-- Puts a character in front of pieces. -/
def consPlain (c : Char) : List Piece → List Piece
  | .plain text :: rest => .plain (c :: text) :: rest
  | pieces => .plain [c] :: pieces

/-- The pieces of a tag after a number of backslashes: two of them stand for one, and one that is
left over makes the tag text. -/
def tagPieces (position slashes : Nat) (inner : List Char) : List Piece :=
  let doubled := if slashes < 2 then [] else [.shielded (List.replicate (slashes / 2) '\\')]
  let tag := if slashes % 2 = 1 then .shielded ('[' :: inner ++ [']'])
    else .tag (position + slashes) inner
  doubled ++ [tag]

/-- The pieces of the markup from a position on. -/
def pieces (position : Nat) (text : List Char) : List Piece :=
  match _found : slashedTag? text with
  | some (slashes, inner, behind) =>
      tagPieces position slashes inner ++ pieces (position + slashes + inner.length + 2) behind
  | none =>
      match text with
      | [] => []
      | c :: rest => consPlain c (pieces (position + 1) rest)
termination_by text.length
decreasing_by
  · exact length_slashedTag? _found
  · simp

/-- Text with the backslashes in front of brackets dropped. -/
def unescapeBrackets : List Char → List Char
  | [] => []
  | '\\' :: '[' :: rest => '[' :: unescapeBrackets rest
  | c :: rest => c :: unescapeBrackets rest

/-- The name of a tag: what stands in front of its parameters. -/
def nameOf (inner : List Char) : List Char :=
  inner.takeWhile (· != '=')

/-- The parameters of a tag: what stands behind an equals sign. -/
def parametersOf? (inner : List Char) : Option (List Char) :=
  match inner.dropWhile (· != '=') with
  | _ :: parameters => some parameters
  | [] => none

/-- An open tag by the canonical form of its name. -/
structure OpenTag where
  name : String
  parameters : Option (List Char)

/-- The canonical form of the name of a tag. -/
def canonicalName (name : List Char) : Except Fault String :=
  (Style.canonicalName name).mapError .colour

/-- The tag that opens with what stands between its brackets. -/
def OpenTag.read (inner : List Char) : Except Fault OpenTag := do
  return { name := ← canonicalName (nameOf inner), parameters := parametersOf? inner }

/-- The tag names an event, and its parameters describe what is to be done. -/
def OpenTag.isEvent (tag : OpenTag) : Bool :=
  tag.name.toList.head? == some '@'

/-- The name of the style of a tag, if it has parameters. -/
def OpenTag.style? (tag : OpenTag) : Option (List Char) :=
  tag.parameters.map fun parameters => tag.name.toList ++ ' ' :: parameters

/-- The parameters of an event that is closed are in order. -/
def OpenTag.check (tag : OpenTag) : Except Fault Unit :=
  match tag.parameters with
  | some (first :: rest) =>
      if tag.isEvent then (Parameters.check (first :: rest)).mapError .parameters else .ok ()
  | _ => .ok ()

/-- Takes the latest tag of a name from the open tags. -/
def takeTag? (name : String) : List OpenTag → Option (OpenTag × List OpenTag)
  | [] => none
  | tag :: rest =>
      if tag.name = name then some (tag, rest)
      else (takeTag? name rest).map fun (found, others) => (found, tag :: others)

/-- The open tags, the latest first, after a closing tag. -/
def close (opened : List OpenTag) (position : Nat) (inner : List Char)
    : Except Fault (List OpenTag) := do
  let name := trim (nameOf inner).tail
  if name.isEmpty then
    match opened with
    | [] => throw (.nothingOpen position)
    | tag :: rest =>
        tag.check
        return rest
  else
    match takeTag? (← canonicalName name) opened with
    | some (tag, rest) =>
        tag.check
        return rest
    | none => throw (.unmatched (String.ofList ('[' :: inner ++ [']'])) position)

/-- Controls that move the cursor or ring a bell are not printed. -/
def isPrinted (c : Char) : Bool :=
  !(['\x07', '\x08', '\x0b', '\x0c', '\r'].contains c)

/-- Markup that has been rendered: its text, and the names of the styles that are looked up when it
is printed. -/
structure Rendered where
  glyphs : List Glyph
  styles : List (List Char)

/-- Rendered markup with more text in front. -/
def Rendered.prepend (glyphs : List Glyph) (rendered : Rendered) : Rendered :=
  { rendered with glyphs := glyphs ++ rendered.glyphs }

/-- No colour of a style that is looked up is at fault. -/
def Rendered.checkStyles (rendered : Rendered) : Except Fault Unit :=
  rendered.styles.forM fun name => (Style.check name).mapError .colour

/-- The printed characters of a text. The first one opens a run if a tag stands in front. -/
def glyphsOf (behindTag styled : Bool) (text : List Char) : List Glyph :=
  match text.filter isPrinted with
  | [] => []
  | c :: rest =>
      { char := c, opensRun := behindTag, styled } :: rest.map fun c => { char := c, styled }

/-- Renders pieces below open tags. -/
def renderPieces (opened : List OpenTag) (behindTag : Bool) : List Piece → Except Fault Rendered
  | [] => .ok { glyphs := [], styles := [] }
  | .plain text :: rest => do
      let glyphs := glyphsOf behindTag (!opened.isEmpty) (replaceEmoji (unescapeBrackets text))
      return (← renderPieces opened (behindTag && glyphs.isEmpty) rest).prepend glyphs
  | .shielded text :: rest => do
      let glyphs := glyphsOf behindTag (!opened.isEmpty) (replaceEmoji text)
      return (← renderPieces opened (behindTag && glyphs.isEmpty) rest).prepend glyphs
  | .tag position inner :: rest => do
      if inner.head? = some '/' then renderPieces (← close opened position inner) true rest
      else
        let tag ← OpenTag.read inner
        let rendered ← renderPieces (tag :: opened) true rest
        return { rendered with styles := tag.style?.toList ++ rendered.styles }

/-- Renders markup. -/
def render (markup : String) : Except Fault Rendered :=
  renderPieces [] false (pieces 0 markup.toList)

end ErrorTables.Console.Markup
