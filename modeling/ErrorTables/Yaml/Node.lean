import ErrorTables.Yaml.TokenStream

/-!
The nodes of a YAML document: scalars, sequences and mappings with their tags. References to nodes
are replaced by the nodes that they name.
-/

namespace ErrorTables.Yaml

/-- A node of a document. A node without a tag has its kind decided by its content. -/
inductive Node where
  | scalar (content : String) (plain : Bool) (tag : Option String)
  | sequence (items : List Node) (tag : Option String)
  | mapping (pairs : List (Node × Node)) (tag : Option String)
  deriving Repr

/-- The node where one is left out. -/
def Node.empty : Node :=
  .scalar "" true none

/-- The tokens that are left and the fault behind them, the nodes that have been named, and what the
handles of tags mean. -/
structure NodeReader where
  tokens : List Token
  fault : Option ScanError := none
  anchors : List (String × Node) := []
  handles : List (String × String) := [("!", "!"), ("!!", "tag:yaml.org,2002:")]

/-- The name and the tag in front of a node. -/
structure NodeHead where
  anchor : Option String := none
  tag : Option String := none

namespace NodeReader

/-- The next token. -/
def peek (reader : NodeReader) : Option Token :=
  reader.tokens.head?

/-- Passes the next token. -/
def next (reader : NodeReader) : NodeReader :=
  { reader with tokens := reader.tokens.tail }

/-- Why no node can be read here: the next token does not fit, or a fault stands where it should
be. -/
def refusal (reader : NodeReader) : ScanError :=
  if reader.tokens.isEmpty then reader.fault.getD .malformed else .malformed

/-- The next token is one of the given ones. -/
def at? (reader : NodeReader) (tokens : List Token) : Bool :=
  reader.peek.any tokens.contains

/-- The meaning of a tag as it is written. -/
def meaning? (reader : NodeReader) (handle : Option String) (suffix : String) : Option String :=
  match handle with
  | none => some suffix
  | some handle => (reader.handles.lookup handle).map (· ++ suffix)

/-- Reads the name and the tag in front of a node, in either order. -/
def head (reader : NodeReader) : Except ScanError (NodeHead × NodeReader) :=
  match reader.tokens with
  | .anchor name :: .tag handle suffix :: rest | .tag handle suffix :: .anchor name :: rest =>
      match reader.meaning? handle suffix with
      | some tag => .ok (⟨name, tag⟩, { reader with tokens := rest })
      | none => .error .malformed
  | .anchor name :: rest => .ok (⟨name, none⟩, { reader with tokens := rest })
  | .tag handle suffix :: rest =>
      match reader.meaning? handle suffix with
      | some tag => .ok (⟨none, tag⟩, { reader with tokens := rest })
      | none => .error .malformed
  | _ => .ok ({}, reader)

/-- Gives a node its name. -/
def bindAnchor (reader : NodeReader) (anchor : Option String) (node : Node)
    : Except ScanError (Node × NodeReader) :=
  match anchor with
  | none => .ok (node, reader)
  | some name =>
      if (reader.anchors.lookup name).isSome then .error .malformed
      else .ok (node, { reader with anchors := (name, node) :: reader.anchors })

/-- The tag of a scalar. The tag of a single exclamation mark leaves the decision to the content. -/
def scalarOf (content : String) (plain : Bool) (tag : Option String) : Node :=
  if tag = some "!" then .scalar content true none else .scalar content plain tag

/-- The tag of a collection. -/
def collectionTag (tag : Option String) : Option String :=
  if tag = some "!" then none else tag

/-- The empty node behind a name or a tag. Without either a node must not be empty, and a fault is
met before the node is found to be empty. -/
def bare (reader : NodeReader) (head : NodeHead) : Except ScanError (Node × NodeReader) :=
  if (head.anchor.isSome || head.tag.isSome) && !(reader.tokens.isEmpty && reader.fault.isSome) then
    .ok (scalarOf "" true head.tag, reader)
  else .error reader.refusal

mutual

/-- Reads a node. `inBlock` allows block collections, `hangs` a block sequence at the indentation of
the mapping that holds it. -/
def node (inBlock hangs : Bool) : Nat → NodeReader → Except ScanError (Node × NodeReader)
  | 0, _ => .error .malformed
  | fuel + 1, reader =>
      match reader.peek with
      | some (.reference name) =>
          match reader.anchors.lookup name with
          | some node => .ok (node, reader.next)
          | none => .error .malformed
      | _ => do
          let (head, reader) ← reader.head
          let tag := collectionTag head.tag
          let (node, reader) ←
            match reader.peek with
            | some (.scalar content plain) => .ok (scalarOf content plain head.tag, reader.next)
            | some .flowSequenceStart => do
                let (items, reader) ← flowItems true fuel reader.next
                pure (.sequence items tag, reader)
            | some .flowMappingStart => do
                let (pairs, reader) ← flowPairs true fuel reader.next
                pure (.mapping pairs tag, reader)
            | some .blockEntry =>
                if hangs then do
                  let (items, reader) ← hangingItems fuel reader
                  pure (.sequence items tag, reader)
                else reader.bare head
            | some .blockSequenceStart =>
                if inBlock then do
                  let (items, reader) ← blockItems fuel reader.next
                  pure (.sequence items tag, reader)
                else reader.bare head
            | some .blockMappingStart =>
                if inBlock then do
                  let (pairs, reader) ← blockPairs fuel reader.next
                  pure (.mapping pairs tag, reader)
                else reader.bare head
            | _ => reader.bare head
          reader.bindAnchor head.anchor node

/-- Reads a node unless one of the given tokens is next; then there is an empty one. -/
def nodeUnless (stops : List Token) (inBlock hangs : Bool)
    : Nat → NodeReader → Except ScanError (Node × NodeReader)
  | 0, _ => .error .malformed
  | fuel + 1, reader =>
      if reader.at? stops then .ok (.empty, reader)
      else node inBlock hangs fuel reader

/-- Reads the items of a block sequence up to its end. -/
def blockItems : Nat → NodeReader → Except ScanError (List Node × NodeReader)
  | 0, _ => .error .malformed
  | fuel + 1, reader =>
      match reader.peek with
      | some .blockEntry => do
          let (item, reader) ←
            nodeUnless [.blockEntry, .blockEnd] true false fuel reader.next
          let (items, reader) ← blockItems fuel reader
          return (item :: items, reader)
      | some .blockEnd => .ok ([], reader.next)
      | _ => .error reader.refusal

/-- Reads the items of a block sequence that hangs from a key. -/
def hangingItems : Nat → NodeReader → Except ScanError (List Node × NodeReader)
  | 0, _ => .error .malformed
  | fuel + 1, reader =>
      match reader.peek with
      | some .blockEntry => do
          let (item, reader) ←
            nodeUnless [.blockEntry, .key, .value, .blockEnd] true false fuel reader.next
          let (items, reader) ← hangingItems fuel reader
          return (item :: items, reader)
      | _ => .ok ([], reader)

/-- Reads the pairs of a block mapping up to its end. -/
def blockPairs : Nat → NodeReader → Except ScanError (List (Node × Node) × NodeReader)
  | 0, _ => .error .malformed
  | fuel + 1, reader =>
      let part := nodeUnless [.key, .value, .blockEnd] true true fuel
      match reader.peek with
      | some .blockEnd => .ok ([], reader.next)
      | some .key => do
          let (key, reader) ← part reader.next
          let (value, reader) ←
            if reader.peek = some .value then part reader.next else .ok (.empty, reader)
          let (pairs, reader) ← blockPairs fuel reader
          return ((key, value) :: pairs, reader)
      | _ => .error reader.refusal

/-- Reads the items of a flow sequence up to its end. An item may be a single pair. -/
def flowItems (first : Bool) : Nat → NodeReader → Except ScanError (List Node × NodeReader)
  | 0, _ => .error .malformed
  | fuel + 1, reader =>
      if reader.peek = some .flowSequenceEnd then .ok ([], reader.next)
      else do
        let reader ←
          if first then .ok reader
          else if reader.peek = some .flowEntry then .ok reader.next
          else .error reader.refusal
        if reader.peek = some .flowSequenceEnd then .ok ([], reader.next)
        else
          let (item, reader) ←
            if reader.peek = some .key then do
              let (key, reader) ←
                nodeUnless [.value, .flowEntry, .flowSequenceEnd] false false fuel reader.next
              let (value, reader) ←
                if reader.peek = some .value then
                  nodeUnless [.flowEntry, .flowSequenceEnd] false false fuel reader.next
                else .ok (.empty, reader)
              pure (Node.mapping [(key, value)] none, reader)
            else node false false fuel reader
          let (items, reader) ← flowItems false fuel reader
          return (item :: items, reader)

/-- Reads the pairs of a flow mapping up to its end. A key may stand alone. -/
def flowPairs (first : Bool) : Nat → NodeReader → Except ScanError (List (Node × Node) × NodeReader)
  | 0, _ => .error .malformed
  | fuel + 1, reader =>
      if reader.peek = some .flowMappingEnd then .ok ([], reader.next)
      else do
        let reader ←
          if first then .ok reader
          else if reader.peek = some .flowEntry then .ok reader.next
          else .error reader.refusal
        if reader.peek = some .flowMappingEnd then .ok ([], reader.next)
        else
          let (pair, reader) ←
            if reader.peek = some .key then do
              let (key, reader) ←
                nodeUnless [.value, .flowEntry, .flowMappingEnd] false false fuel reader.next
              let (value, reader) ←
                if reader.peek = some .value then
                  nodeUnless [.flowEntry, .flowMappingEnd] false false fuel reader.next
                else .ok (.empty, reader)
              pure ((key, value), reader)
            else do
              let (key, reader) ← node false false fuel reader
              pure ((key, .empty), reader)
          let (pairs, reader) ← flowPairs false fuel reader
          return (pair :: pairs, reader)

end

/-- Reads the directives in front of a document: at most one version, of the first series, and
meanings of handles, each given once. -/
def directives (seenVersion : Bool) (seen : List String)
    : List Token → NodeReader → Except ScanError NodeReader
  | .version major :: rest, reader =>
      if seenVersion || major ≠ 1 then .error .malformed else directives true seen rest reader
  | .tagPrefix handle meaning :: rest, reader =>
      if seen.contains handle then .error .malformed
      else
        directives seenVersion (handle :: seen) rest
          { reader with handles := (handle, meaning) :: reader.handles }
  | .otherDirective :: rest, reader => directives seenVersion seen rest reader
  | tokens, reader => .ok { reader with tokens }

/-- Passes the ends of documents, behind which nothing may be left. -/
def finish (reader : NodeReader) : Except ScanError Unit :=
  match reader.tokens.dropWhile (· = .documentEnd), reader.fault with
  | [], none => .ok ()
  | [], some fault => .error fault
  | _, _ => .error .malformed

/-- The content of a document behind its start mark. It may be missing. -/
def content (fuel : Nat) (reader : NodeReader) : Except ScanError (Node × NodeReader) :=
  match reader.peek with
  | some (.version _) | some (.tagPrefix ..) | some .otherDirective | some .documentStart
  | some .documentEnd => .ok (.empty, reader)
  | some _ => node true false fuel reader
  | none =>
      match reader.fault with
      | some fault => .error fault
      | none => .ok (.empty, reader)

end NodeReader

/-- The node of the only document of a stream; `none` if there is no document. Each part of a node
takes a token or hands on to a part that does, so that a few times the number of tokens is fuel
enough. -/
def Node.ofTokens (stream : TokenStream) : Except ScanError (Option Node) := do
  let fuel := 4 * stream.tokens.length + 4
  let reader : NodeReader := { tokens := stream.tokens, fault := stream.fault }
  if stream.tokens.isEmpty && stream.fault.isNone then return none
  let (node, reader) ←
    match reader.peek with
    | some (.version _) | some (.tagPrefix ..) | some .otherDirective | some .documentStart => do
        let reader ← NodeReader.directives false [] stream.tokens reader
        if reader.peek = some .documentStart then reader.next.content fuel
        else .error reader.refusal
    | _ => NodeReader.node true false fuel reader
  reader.finish
  return some node

end ErrorTables.Yaml
