import ErrorTables.Numeral
import ErrorTables.Yaml.Token

/-!
The texts of YAML scalars in their five styles: plain, between single and double quotes, and as
literal and folded blocks. Each reader takes a place in the stream to the text and the place behind
the scalar.
-/

namespace ErrorTables.Yaml

/-! ### Quoted scalars -/

/-- The character of an escape of one letter. -/
def letterEscape? : Char → Option Char
  | '0' => some '\x00'
  | 'a' => some '\x07'
  | 'b' => some '\x08'
  | 't' => some '\t'
  | '\t' => some '\t'
  | 'n' => some '\n'
  | 'v' => some '\x0b'
  | 'f' => some '\x0c'
  | 'r' => some '\r'
  | 'e' => some '\x1b'
  | ' ' => some ' '
  | '"' => some '"'
  | '\\' => some '\\'
  | '/' => some '/'
  | 'N' => some '\u0085'
  | '_' => some '\u00a0'
  | 'L' => some '\u2028'
  | 'P' => some '\u2029'
  | _ => none

/-- The number of digits of an escape by code. -/
def codeLength? : Char → Option Nat
  | 'x' => some 2
  | 'u' => some 4
  | 'U' => some 8
  | _ => none

/-- The character with a code. The halves of characters that take two codes elsewhere become the
replacement character. -/
def charOfCode (code : Nat) : Except ScanError Char :=
  if 0x80000000 ≤ code then .error .oversizedCode
  else if 0x110000 ≤ code then .error .invalidCode
  else if 0xd800 ≤ code && code ≤ 0xdfff then .ok '\ufffd'
  else .ok (Char.ofNat code)

/-- The line ends ahead inside quotes, with the blanks around them dropped. Each step passes a line
end, so that the length of the rest is fuel enough. -/
def quotedBreaks : Nat → Cursor → Except ScanError (List Char × Cursor)
  | 0, cursor => .ok ([], cursor)
  | fuel + 1, cursor => do
      require (!cursor.atDocumentMarker)
      let cursor := cursor.skipWhile fun c => c == ' ' || c == '\t'
      if cursor.peek.any isBreak then
        let (first, cursor) := cursor.lineBreak
        let (breaks, cursor) ← quotedBreaks fuel cursor
        return (first ++ breaks, cursor)
      else return ([], cursor)

/-- A line end inside quotes as it is folded: one alone becomes a space, and of several all but the
first one stay. -/
def foldedBreaks (cursor : Cursor) : Except ScanError (List Char × Cursor) := do
  let (first, cursor) := cursor.lineBreak
  let (breaks, cursor) ← quotedBreaks (cursor.rest.length + 1) cursor
  let lead := if first ≠ ['\n'] then first else if breaks.isEmpty then [' '] else []
  return (lead ++ breaks, cursor)

/-- The text of an escape between double quotes, behind its backslash. An escaped line end joins
the lines. -/
def escaped (cursor : Cursor) : Except ScanError (List Char × Cursor) := do
  match cursor.peek with
  | none => throw .malformed
  | some c =>
      match letterEscape? c, codeLength? c with
      | some meant, _ => return ([meant], cursor.next)
      | none, some length =>
          let cursor := cursor.next
          let digits := cursor.rest.take length
          let values := digits.filterMap (Numeral.digit? .hexadecimal)
          require (digits.all (fun digit => digit.toNat < 0x80) && values.length = length)
          let meant ← charOfCode (Numeral.ofDigits .hexadecimal values)
          return ([meant], cursor.skip length)
      | none, none =>
          require (isBreak c)
          quotedBreaks (cursor.rest.length + 1) cursor.lineBreak.2

/-- The text between quotes, behind the opening one, with the place behind the closing one. Each
step passes a character, so that the length of the rest is fuel enough. -/
def quotedText (double : Bool) : Nat → Cursor → Except ScanError (List Char × Cursor)
  | 0, _ => .error .malformed
  | fuel + 1, cursor =>
      match cursor.rest with
      | [] => .error .malformed
      | c :: rest => do
          if double && c == '"' then return ([], cursor.next)
          if !double && c == '\'' && rest.head? ≠ some '\'' then return ([], cursor.next)
          let (first, after) ←
            if !double && c == '\'' then pure (['\''], cursor.skip 2)
            else if double && c == '\\' then escaped cursor.next
            else if c == ' ' || c == '\t' then
              let blanks := cursor.span fun c => c == ' ' || c == '\t'
              let after := cursor.skip blanks.length
              if after.peek.any isBreak then foldedBreaks after else pure (blanks, after)
            else if isBreak c then foldedBreaks cursor
            else pure ([c], cursor.next)
          let (chars, after) ← quotedText double fuel after
          return (first ++ chars, after)

/-- The text of a quoted scalar, from its opening quote on. -/
def quotedScalar (double : Bool) (cursor : Cursor) : Except ScanError (List Char × Cursor) :=
  quotedText double (cursor.rest.length + 1) cursor.next

/-! ### Block scalars -/

/-- What the header of a block scalar asks for: to drop or to keep the line ends behind the text
(or, by default, to keep one), and by how much the text is indented. -/
structure BlockHeader where
  keeps : Option Bool
  increment : Option Nat

/-- The sign of a block header that drops or keeps line ends, with what follows it. -/
def chompingSign? (text : List Char) : Option Bool × List Char :=
  match text with
  | '+' :: rest => (some true, rest)
  | '-' :: rest => (some false, rest)
  | rest => (none, rest)

/-- The digit of a block header that sets the indentation, with what follows it. -/
def indentDigit? (text : List Char) : Option Nat × List Char :=
  match text with
  | c :: rest => if c.isDigit then (some (c.toNat - '0'.toNat), rest) else (none, text)
  | [] => (none, text)

/-- The header of a block scalar, behind its indicator, with the place on the next line. -/
def blockHeader (cursor : Cursor) : Except ScanError (BlockHeader × Cursor) := do
  let (early, afterSign) := chompingSign? cursor.rest
  let (increment, afterDigit) := indentDigit? afterSign
  let (late, rest) := if early.isNone && increment.isSome then chompingSign? afterDigit
    else (none, afterDigit)
  require (increment ≠ some 0)
  let cursor := cursor.skip (cursor.rest.length - rest.length)
  require (endsField cursor.peek)
  let cursor := cursor.skipSpaces.skipComment
  require (endsLine cursor.peek)
  return (⟨early.or late, increment⟩, cursor.lineBreak.2)

/-- The empty lines in front of a block scalar, the deepest column that one of them reaches, and
the place behind them. Each step passes a character, so that the length of the rest is fuel
enough. -/
def blockIndent : Nat → Nat → Cursor → List Char × Nat × Cursor
  | 0, deepest, cursor => ([], deepest, cursor)
  | fuel + 1, deepest, cursor =>
      if cursor.peek = some ' ' then
        blockIndent fuel (max deepest cursor.next.column) cursor.next
      else if cursor.peek.any isBreak then
        let (first, cursor) := cursor.lineBreak
        let (breaks, deepest, cursor) := blockIndent fuel deepest cursor
        (first ++ breaks, deepest, cursor)
      else ([], deepest, cursor)

/-- The empty lines between lines of a block scalar, and the place where its text goes on. -/
def blockBreaks (indent : Nat) : Nat → Cursor → List Char × Cursor
  | 0, cursor => ([], cursor)
  | fuel + 1, cursor =>
      let cursor := cursor.skipIndent indent
      if cursor.peek.any isBreak then
        let (first, cursor) := cursor.lineBreak
        let (breaks, cursor) := blockBreaks indent fuel cursor
        (first ++ breaks, cursor)
      else ([], cursor)

/-- The lines of a block scalar from the place of a line on. The last line end and the empty lines
behind it are returned apart, since the header decides on them. -/
def blockLines (folded : Bool) (indent : Nat)
    : Nat → Cursor → List Char × List Char × List Char × Cursor
  | 0, cursor => ([], [], [], cursor)
  | fuel + 1, cursor =>
      let isIndented := fun c : Option Char => c = some ' ' || c = some '\t'
      let text := cursor.span (!isBreak ·)
      let (lineEnd, after) := (cursor.skip text.length).lineBreak
      let (breaks, after) := blockBreaks indent (after.rest.length + 1) after
      if after.column = indent && after.peek.isSome then
        let folds := folded && lineEnd = ['\n'] && !isIndented cursor.peek && !isIndented after.peek
        let joint := if !folds then lineEnd else if breaks.isEmpty then [' '] else []
        let (chars, lastEnd, tail, after) := blockLines folded indent fuel after
        (text ++ joint ++ breaks ++ chars, lastEnd, tail, after)
      else (text, lineEnd, breaks, after)

/-- The text of a block scalar, behind its indicator, in a block of the given indentation. -/
def blockScalar (folded : Bool) (parent : Int) (cursor : Cursor)
    : Except ScanError (List Char × Cursor) := do
  let (header, cursor) ← blockHeader cursor
  let least := max 1 (parent + 1).toNat
  let fuel := cursor.rest.length + 1
  let (leading, indent, cursor) :=
    match header.increment with
    | some increment =>
        let indent := least + increment - 1
        let (breaks, cursor) := blockBreaks indent fuel cursor
        (breaks, indent, cursor)
    | none =>
        let (breaks, deepest, cursor) := blockIndent fuel 0 cursor
        (breaks, max least deepest, cursor)
  let (text, lineEnd, trailing, cursor) :=
    if cursor.column = indent && cursor.peek.isSome then
      let (text, lineEnd, trailing, cursor) := blockLines folded indent fuel cursor
      (leading ++ text, lineEnd, trailing, cursor)
    else ([], [], leading, cursor)
  let tail := match header.keeps with
    | some false => []
    | none => lineEnd
    | some true => lineEnd ++ trailing
  return (text ++ tail, cursor)

/-! ### Plain scalars -/

/-- A character that has a meaning of its own in flow collections. -/
def isFlowIndicator (c : Char) : Bool :=
  c == ',' || c == '?' || c == '[' || c == ']' || c == '\x7b' || c == '\x7d'

/-- The characters of a plain scalar up to the first blank, line end or mark. -/
def plainWord (inFlow : Bool) : List Char → List Char
  | [] => []
  | c :: rest =>
      let endsAfterColon := endsWord rest.head? ||
        (inFlow && rest.head?.any fun next => next ≠ '?' && isFlowIndicator next)
      if endsWord (some c) || (c == ':' && endsAfterColon) || (inFlow && isFlowIndicator c) then []
      else c :: plainWord inFlow rest

/-- What stands between two words of a plain scalar. -/
structure PlainGap where
  text : List Char
  crossesLine : Bool
  after : Cursor

/-- The line ends and spaces ahead in a plain scalar, up to a document marker if there is one; then
`none`. Each step passes a character, so that the length of the rest is fuel enough. -/
def plainBreaks : Nat → Cursor → Option (List Char) × Cursor
  | 0, cursor => (some [], cursor)
  | fuel + 1, cursor =>
      if cursor.peek = some ' ' then plainBreaks fuel cursor.next
      else if cursor.peek.any isBreak then
        let (first, cursor) := cursor.lineBreak
        if cursor.atDocumentMarker then (none, cursor)
        else
          let (breaks, cursor) := plainBreaks fuel cursor
          (breaks.map (first ++ ·), cursor)
      else (some [], cursor)

/-- The gap ahead in a plain scalar. Spaces on one line stay, one line end becomes a space, and of
several all but the first stay. A document marker makes the gap empty. -/
def plainGap (cursor : Cursor) : PlainGap :=
  let spaces := cursor.span (· == ' ')
  let cursor := cursor.skip spaces.length
  if cursor.peek.any isBreak then
    let (first, cursor) := cursor.lineBreak
    if cursor.atDocumentMarker then ⟨[], true, cursor⟩
    else
      match plainBreaks (cursor.rest.length + 1) cursor with
      | (none, cursor) => ⟨[], true, cursor⟩
      | (some breaks, cursor) =>
          let lead := if first ≠ ['\n'] then first else if breaks.isEmpty then [' '] else []
          ⟨lead ++ breaks, true, cursor⟩
  else ⟨spaces, false, cursor⟩

/-- The text of a plain scalar, whether it ends behind a line end, and the place behind it. `gap` is
what stands in front of the next word. Each step passes a character, so that the length of the rest
is fuel enough. -/
def plainScalar (inFlow : Bool) (indent : Int)
    : Nat → List Char → Bool → Cursor → List Char × Bool × Cursor
  | 0, _, crossed, cursor => ([], crossed, cursor)
  | fuel + 1, gap, crossed, cursor =>
      let word := if cursor.peek = some '#' then [] else plainWord inFlow cursor.rest
      if word.isEmpty then ([], crossed, cursor)
      else
        let next := plainGap (cursor.skip word.length)
        let stops := next.text.isEmpty || next.after.peek = some '#' ||
          (!inFlow && next.after.column < indent)
        if stops then (gap ++ word, next.crossesLine, next.after)
        else
          let (chars, crossed, after) :=
            plainScalar inFlow indent fuel next.text next.crossesLine next.after
          (gap ++ word ++ chars, crossed, after)

end ErrorTables.Yaml
