import ErrorTables.Yaml.ScalarText

/-!
Reading the tokens of a YAML stream. The reader keeps the indentation of the open block collections
and, for each depth of flow collections, the token that may turn out to be a key because a colon
follows it on its line. A fault does not undo the tokens in front of it, in which nodes may turn out
to be malformed sooner.
-/

namespace ErrorTables.Yaml

/-- A token that is a key if a colon follows: where it stands among the tokens and in the stream,
and whether it must be a key because it stands at the indentation of a block mapping. -/
structure KeyCandidate where
  position : Nat
  required : Bool
  index : Nat
  line : Nat
  column : Nat

/-- The reader at a place in the stream. `indent` is the column of the innermost block collection
and `indents` those around it, with `-1` for the stream itself; `keys` holds the candidate of each
depth of flow collections. -/
structure Scanner where
  cursor : Cursor
  tokens : List Token := []
  indent : Int := -1
  indents : List Int := []
  depth : Nat := 0
  allowsKey : Bool := true
  keys : List (Nat × KeyCandidate) := []

/-- The tokens of a stream, as many as are certain when it ends or a fault is met, and the fault
behind them. -/
structure TokenStream where
  tokens : List Token
  fault : Option ScanError := none

namespace Scanner

/-- The reader is inside a flow collection. -/
def inFlow (scanner : Scanner) : Bool :=
  scanner.depth ≠ 0

/-- Adds a token behind the others. -/
def emit (scanner : Scanner) (token : Token) : Scanner :=
  { scanner with tokens := scanner.tokens ++ [token] }

/-- Adds a token in front of the one at a position. -/
def emitAt (scanner : Scanner) (position : Nat) (token : Token) : Scanner :=
  { scanner with tokens := scanner.tokens.take position ++ token :: scanner.tokens.drop position }

/-- Passes characters. -/
def skip (scanner : Scanner) (count : Nat) : Scanner :=
  { scanner with cursor := scanner.cursor.skip count }

/-- Sets whether a key may start at the next token. -/
def allowKey (scanner : Scanner) (allows : Bool) : Scanner :=
  { scanner with allowsKey := allows }

/-- The number of characters behind which a token can no longer be a key. -/
def keyReach : Nat := 1024

/-- The candidate can no longer be a key. -/
def isStale (scanner : Scanner) (candidate : KeyCandidate) : Bool :=
  candidate.line ≠ scanner.cursor.line || keyReach < scanner.cursor.index - candidate.index

/-- Drops the candidates that can no longer be keys. A required one must not be dropped. -/
def dropStaleKeys (scanner : Scanner) : Except ScanError Scanner := do
  let (stale, fresh) := scanner.keys.partition fun candidate => scanner.isStale candidate.2
  require (stale.all fun candidate => !candidate.2.required)
  return { scanner with keys := fresh }

/-- Drops the candidate of the current depth. A required one must not be dropped. -/
def dropKey (scanner : Scanner) : Except ScanError Scanner := do
  require (((scanner.keys.lookup scanner.depth).map (!·.required)).getD true)
  return { scanner with keys := scanner.keys.filter fun candidate => candidate.1 ≠ scanner.depth }

/-- Makes the next token the candidate of the current depth, if a key may start here. -/
def saveKey (scanner : Scanner) : Except ScanError Scanner := do
  if !scanner.allowsKey then return scanner
  let scanner ← scanner.dropKey
  let cursor := scanner.cursor
  let candidate : KeyCandidate := {
    position := scanner.tokens.length
    required := !scanner.inFlow && scanner.indent = cursor.column
    index := cursor.index, line := cursor.line, column := cursor.column }
  return { scanner with keys := (scanner.depth, candidate) :: scanner.keys }

/-- Closes the block collections that are indented deeper than a column. -/
def closeBlocks (scanner : Scanner) (column : Int) : Scanner :=
  if scanner.inFlow then scanner
  else
    let columns := scanner.indent :: scanner.indents
    let closed := columns.takeWhile (column < ·)
    let remaining := columns.dropWhile (column < ·)
    { scanner with
      tokens := scanner.tokens ++ closed.map fun _ => Token.blockEnd
      indent := remaining.head?.getD (-1)
      indents := remaining.tail }

/-- Opens a block collection at a column, unless one is open there; its token goes in front of the
one at a position. -/
def openBlock (scanner : Scanner) (column position : Nat) (token : Token) : Scanner :=
  if scanner.indent < column then
    let scanner := { scanner with
      indents := scanner.indent :: scanner.indents
      indent := (column : Int) }
    scanner.emitAt position token
  else scanner

/-- Passes the spaces, comments and line ends in front of a token. A key may start on a new line
outside flow collections. Each step passes a line end, so that the length of the rest is fuel
enough. -/
def skipToToken : Nat → Scanner → Scanner
  | 0, scanner => scanner
  | fuel + 1, scanner =>
      let cursor := scanner.cursor.skipSpaces.skipComment
      if cursor.peek.any isBreak then
        skipToToken fuel { scanner with
          cursor := cursor.lineBreak.2
          allowsKey := scanner.allowsKey || !scanner.inFlow }
      else { scanner with cursor }

/-- A token whose mark is some characters long and which no key can start with. -/
def mark (scanner : Scanner) (length : Nat) (token : Token) (allows : Bool)
    : Except ScanError Scanner := do
  let scanner ← scanner.dropKey
  return ((scanner.allowKey allows).skip length).emit token

/-- The start or the end of a document. -/
def documentMark (scanner : Scanner) (token : Token) : Except ScanError Scanner :=
  (scanner.closeBlocks (-1)).mark 3 token false

/-- The start of a flow collection. -/
def openFlow (scanner : Scanner) (token : Token) : Except ScanError Scanner := do
  let scanner ← scanner.saveKey
  return ({ scanner with depth := scanner.depth + 1, allowsKey := true }.skip 1).emit token

/-- The end of a flow collection; where none is open it is left to the reader of nodes. -/
def closeFlow (scanner : Scanner) (token : Token) : Except ScanError Scanner := do
  let scanner ← scanner.dropKey
  require scanner.inFlow
  return ({ scanner with depth := scanner.depth - 1, allowsKey := false }.skip 1).emit token

/-- The mark of an item or of a key that a block collection spells out. -/
def blockMark (scanner : Scanner) (start token : Token) (allowsInFlow : Bool)
    : Except ScanError Scanner := do
  require (scanner.inFlow || scanner.allowsKey)
  let scanner := if scanner.inFlow then scanner
    else scanner.openBlock scanner.cursor.column scanner.tokens.length start
  scanner.mark 1 token (allowsInFlow || !scanner.inFlow)

/-- The mark of a value. If there is a candidate it becomes the key. -/
def valueMark (scanner : Scanner) : Except ScanError Scanner := do
  match scanner.keys.lookup scanner.depth with
  | some candidate =>
      let scanner := { scanner with
        keys := scanner.keys.filter fun candidate => candidate.1 ≠ scanner.depth }
      let scanner := scanner.emitAt candidate.position .key
      let scanner := if scanner.inFlow then scanner
        else scanner.openBlock candidate.column candidate.position .blockMappingStart
      return ((scanner.allowKey false).skip 1).emit .value
  | none => scanner.blockMark .blockMappingStart .value false

/-- A character of a name. -/
def isNameChar (c : Char) : Bool :=
  c.isAlphanum || c == '-' || c == '_'

/-- A character that ends the name of an anchor. -/
def endsAnchor (c : Option Char) : Bool :=
  endsWord c || c.any fun c => "?:,]\x7d%@`".toList.contains c

/-- A name that is given to a node or refers to one. -/
def anchorMark (scanner : Scanner) (make : String → Token) : Except ScanError Scanner := do
  let scanner ← scanner.saveKey
  let cursor := scanner.cursor.next
  let name := cursor.span isNameChar
  let cursor := cursor.skip name.length
  require (!name.isEmpty && endsAnchor cursor.peek)
  return { scanner.emit (make (String.ofList name)) with cursor, allowsKey := false }

/-- A character of a tag that stands for itself. -/
def isTagChar (c : Char) : Bool :=
  c.isAlphanum || "-;/?:@&=+$,_.!~*'()[]".toList.contains c

/-- The characters of a tag; codes are not supported in it. -/
def tagText (cursor : Cursor) : Except ScanError (String × Cursor) := do
  let text := cursor.span isTagChar
  require (!text.isEmpty)
  return (String.ofList text, cursor.skip text.length)

/-- The handle of a tag: a name between exclamation marks, or one of them alone. -/
def tagHandle (cursor : Cursor) : Except ScanError (String × Cursor) := do
  require (cursor.peek = some '!')
  let name := cursor.next.span isNameChar
  let length := name.length + 1
  if cursor.peek length = some '!' then
    return (String.ofList ('!' :: name ++ ['!']), cursor.skip (length + 1))
  require (cursor.peek 1 = some ' ')
  return ("!", cursor.next)

/-- A tag. -/
def tagMark (scanner : Scanner) : Except ScanError Scanner := do
  let scanner ← scanner.saveKey
  let cursor := scanner.cursor
  let (handle, suffix, after) ←
    if cursor.peek 1 = some '<' then
      let (suffix, after) ← tagText (cursor.skip 2)
      require (after.peek = some '>')
      pure (none, suffix, after.next)
    else if endsWord (cursor.peek 1) then pure (none, "!", cursor.next)
    else
      let word := cursor.next.span fun c => !endsField (some c)
      let (handle, after) ← if word.contains '!' then tagHandle cursor
        else pure ("!", cursor.next)
      let (suffix, after) ← tagText after
      pure (some handle, suffix, after)
  require (endsField after.peek)
  return { scanner.emit (.tag handle suffix) with cursor := after, allowsKey := false }

/-- A number of a version. -/
def versionNumber (cursor : Cursor) : Except ScanError (Nat × Cursor) := do
  let digits := cursor.span Char.isDigit
  require (!digits.isEmpty)
  let number := Numeral.ofDigits .decimal (digits.filterMap (Numeral.digit? .decimal))
  return (number, cursor.skip digits.length)

/-- The token of a directive by its name, with the place behind it. -/
def directiveToken (name : List Char) (cursor : Cursor) : Except ScanError (Token × Cursor) := do
  if name = "YAML".toList then
    let (major, cursor) ← versionNumber cursor.skipSpaces
    require (cursor.peek = some '.')
    let (_, cursor) ← versionNumber cursor.next
    require (endsField cursor.peek)
    return (.version major, cursor)
  else if name = "TAG".toList then
    let (handle, cursor) ← tagHandle cursor.skipSpaces
    require (cursor.peek = some ' ')
    let (meaning, cursor) ← tagText cursor.skipSpaces
    require (endsField cursor.peek)
    return (.tagPrefix handle meaning, cursor)
  else return (.otherDirective, cursor.skipWhile (!isBreak ·))

/-- A directive. -/
def directiveMark (scanner : Scanner) : Except ScanError Scanner := do
  let scanner ← (scanner.closeBlocks (-1)).dropKey
  let cursor := scanner.cursor.next
  let name := cursor.span isNameChar
  let cursor := cursor.skip name.length
  require (!name.isEmpty && endsField cursor.peek)
  let (token, cursor) ← directiveToken name cursor
  let cursor := cursor.skipSpaces.skipComment
  require (endsLine cursor.peek)
  return { scanner.emit token with cursor := cursor.lineBreak.2, allowsKey := false }

/-- A scalar between quotes. -/
def quotedMark (scanner : Scanner) (double : Bool) : Except ScanError Scanner := do
  let scanner ← scanner.saveKey
  let (text, cursor) ← quotedScalar double scanner.cursor
  return { scanner.emit (.scalar (String.ofList text) false) with cursor, allowsKey := false }

/-- A scalar that is a literal or folded block. -/
def blockScalarMark (scanner : Scanner) (folded : Bool) : Except ScanError Scanner := do
  let scanner ← scanner.dropKey
  let (text, cursor) ← blockScalar folded scanner.indent scanner.cursor.next
  return { scanner.emit (.scalar (String.ofList text) false) with cursor, allowsKey := true }

/-- A plain scalar. A key may follow if the scalar ends behind a line end. -/
def plainMark (scanner : Scanner) : Except ScanError Scanner := do
  let scanner ← scanner.saveKey
  let cursor := scanner.cursor
  let (text, crossed, cursor) := plainScalar scanner.inFlow (scanner.indent + 1)
    (cursor.rest.length + 1) [] false cursor
  return { scanner.emit (.scalar (String.ofList text) true) with cursor, allowsKey := crossed }

/-- A character that no plain scalar starts with, or only in front of a word. -/
def isIndicator (c : Char) : Bool :=
  "-?:,[]\x7b\x7d#&*!|>'\"%@`".toList.contains c

/-- A plain scalar may start here. -/
def startsPlain (scanner : Scanner) (c : Char) : Bool :=
  (!endsWord (some c) && !isIndicator c) ||
    (!endsWord (scanner.cursor.peek 1) &&
      (c == '-' || (!scanner.inFlow && (c == '?' || c == ':'))))

/-- Reads the token that starts with a character. -/
def readToken (scanner : Scanner) (c : Char) : Except ScanError Scanner :=
  let cursor := scanner.cursor
  let standsAlone := scanner.inFlow || endsWord (cursor.peek 1)
  if c == '%' && cursor.column = 0 then scanner.directiveMark
  else if cursor.column = 0 && cursor.atMarker '-' then scanner.documentMark .documentStart
  else if cursor.column = 0 && cursor.atMarker '.' then scanner.documentMark .documentEnd
  else if c == '[' then scanner.openFlow .flowSequenceStart
  else if c == '\x7b' then scanner.openFlow .flowMappingStart
  else if c == ']' then scanner.closeFlow .flowSequenceEnd
  else if c == '\x7d' then scanner.closeFlow .flowMappingEnd
  else if c == ',' then scanner.mark 1 .flowEntry true
  else if c == '-' && endsWord (cursor.peek 1) then
    scanner.blockMark .blockSequenceStart .blockEntry true
  else if c == '?' && standsAlone then scanner.blockMark .blockMappingStart .key false
  else if c == ':' && standsAlone then scanner.valueMark
  else if c == '*' then scanner.anchorMark .reference
  else if c == '&' then scanner.anchorMark .anchor
  else if c == '!' then scanner.tagMark
  else if c == '|' && !scanner.inFlow then scanner.blockScalarMark false
  else if c == '>' && !scanner.inFlow then scanner.blockScalarMark true
  else if c == '\'' then scanner.quotedMark false
  else if c == '"' then scanner.quotedMark true
  else if scanner.startsPlain c then scanner.plainMark
  else .error .malformed

/-- Reads the next token, with the ends of blocks in front of it; `none` at the end of the
stream. -/
def advance (scanner : Scanner) : Except ScanError (Option Scanner) := do
  let scanner := skipToToken (scanner.cursor.rest.length + 1) scanner
  let scanner ← scanner.dropStaleKeys
  let scanner := scanner.closeBlocks scanner.cursor.column
  match scanner.cursor.peek with
  | some c => (scanner.readToken c).map some
  | none => return none

/-- The tokens in front of those that may still turn out to follow the mark of a key. -/
def settled (scanner : Scanner) : List Token :=
  let pending := scanner.keys.filter fun candidate => !scanner.isStale candidate.2
  scanner.tokens.take (pending.foldl (fun least candidate => min least candidate.2.position)
    scanner.tokens.length)

/-- Reads tokens up to the end of the stream or to a fault. Each token takes a character, so that
the length of the stream is fuel enough. -/
def run : Nat → Scanner → TokenStream
  | 0, scanner => { tokens := scanner.settled, fault := some .malformed }
  | fuel + 1, scanner =>
      match scanner.advance with
      | .ok (some next) => run fuel next
      | .ok none =>
          match (scanner.closeBlocks (-1)).dropKey with
          | .ok last => { tokens := last.tokens }
          | .error fault => { tokens := scanner.settled, fault := some fault }
      | .error fault => { tokens := scanner.settled, fault := some fault }

end Scanner

/-- A character that a stream may hold. -/
def isStreamChar (c : Char) : Bool :=
  let code := c.toNat
  code == 0x09 || code == 0x0a || code == 0x0d || (0x20 ≤ code && code ≤ 0x7e) || code == 0x85 ||
    (0xa0 ≤ code && code ≤ 0xd7ff) || (0xe000 ≤ code && code ≤ 0xfffd) || 0x10000 ≤ code

/-- The tokens of a stream. A byte order mark at its start is passed over. -/
def TokenStream.ofText (text : List Char) : TokenStream :=
  let cursor : Cursor := { rest := text }
  let start := if text.head? = some '\ufeff' then cursor.next else cursor
  if text.all isStreamChar then Scanner.run (text.length + 2) { cursor := start }
  else { tokens := [], fault := some .malformed }

end ErrorTables.Yaml
