import ErrorTables.Yaml.Node
import ErrorTables.Yaml.Scalar

/-!
Reading YAML: the value of the only document of a stream. Keys must be scalars, of two values of a
key the last counts, and the mappings under a merge key give the pairs that are not given otherwise.
Collections are filled level by level, from the outermost one inwards, so that of several problems
the one nearest to the top is reported. The depth of nesting has no bound here. Bytes, sets and
tuples are not read, and any tag that does not agree with its content counts as malformed.
-/

namespace ErrorTables.Yaml

/-- Why a stream has no value: it is malformed, or one of its scalars stands for nothing real. -/
inductive Problem where
  | malformed
  | fault (fault : Fault)
  deriving DecidableEq, Repr

/-- The tag of a core kind. -/
def coreTag (kind : String) : String :=
  "tag:yaml.org,2002:" ++ kind

/-- The value of a scalar node. A tag must agree with the kind of the content, or ask for its text
or for nothing. -/
def scalarValue (content : String) (plain : Bool) (tag : Option String)
    : Except Problem Value :=
  let decided : Except Problem Value :=
    match Scalar.value? content with
    | none => .error .malformed
    | some value => value.mapError .fault
  match tag with
  | none => if plain then decided else .ok (.text content)
  | some tag =>
      if tag = coreTag "str" then .ok (.text content)
      else if tag = coreTag "null" then .ok .null
      else
        match decided with
        | .ok (.boolean truth) =>
            if tag = coreTag "bool" then .ok (.boolean truth) else .error .malformed
        | .ok (.integer number) =>
            if tag = coreTag "int" then .ok (.integer number) else .error .malformed
        | .ok (.real number) =>
            if tag = coreTag "float" then .ok (.real number) else .error .malformed
        | .ok (.date day) =>
            if tag = coreTag "timestamp" then .ok (.date day) else .error .malformed
        | .ok (.moment time) =>
            if tag = coreTag "timestamp" then .ok (.moment time) else .error .malformed
        | .ok _ => .error .malformed
        | .error problem => .error problem

/-- The node is the key under which other mappings are merged into one. -/
def Node.isMergeKey : Node → Bool
  | .scalar "<<" true none => true
  | .scalar _ _ (some tag) => tag = coreTag "merge"
  | _ => false

/-- The node is the key of a single equals sign, which stands for itself. -/
def Node.isValueKey : Node → Bool
  | .scalar "=" true none => true
  | _ => false

/-- A node whose scalars have been given values and whose merge keys have been replaced by the pairs
that they stand for. A mapping has no pairs if something else than mappings is merged into it. -/
inductive Draft where
  | scalar (value : Except Problem Value)
  | sequence (items : List Draft)
  | mapping (pairs : Option (List (Draft × Draft)))

namespace Draft

/-- The pairs that a node brings in under a merge key. -/
def mergedPairs? : Draft → Option (List (Draft × Draft))
  | .mapping pairs => pairs
  | .sequence items =>
      items.foldr (fun item later =>
        match item with
        | .mapping (some pairs) => later.map (· ++ pairs)
        | _ => none) (some [])
  | .scalar _ => none

/-- The problem of a node on its own. -/
def problem? : Draft → Option Problem
  | .scalar (.error problem) => some problem
  | _ => none

/-- The problem of a node as a key. -/
def keyProblem? : Draft → Option Problem
  | .scalar (.error problem) => some problem
  | .scalar (.ok _) => none
  | _ => some .malformed

/-- The first problems of two nodes, level by level. -/
def mergeLevels : List (Option Problem) → List (Option Problem) → List (Option Problem)
  | [], later => later
  | first, [] => first
  | problem :: first, other :: later => problem.or other :: mergeLevels first later

mutual

/-- The first problem on each level below a node. -/
def levels : Draft → List (Option Problem)
  | .scalar _ => []
  | .sequence items => items.findSome? problem? :: itemLevels items
  | .mapping none => [some .malformed]
  | .mapping (some pairs) =>
      pairs.findSome? (fun (key, value) => key.keyProblem?.or value.problem?) :: pairLevels pairs

/-- The first problem on each level below the items of a sequence. -/
def itemLevels : List Draft → List (Option Problem)
  | [] => []
  | item :: items => mergeLevels item.levels (itemLevels items)

/-- The first problem on each level below the pairs of a mapping. -/
def pairLevels : List (Draft × Draft) → List (Option Problem)
  | [] => []
  | (_, value) :: pairs => mergeLevels value.levels (pairLevels pairs)

end

/-- The problem nearest to the top, and of those on one level the first. -/
def firstProblem? (draft : Draft) : Option Problem :=
  draft.problem?.or (draft.levels.findSome? id)

mutual

/-- The value of a node without problems. -/
def value : Draft → Value
  | .scalar value => value.toOption.getD .null
  | .sequence items => .sequence (itemValues items)
  | .mapping none => .mapping []
  | .mapping (some pairs) => .mapping (Value.ofPairs (pairValues pairs))

/-- The values of the items of a sequence. -/
def itemValues : List Draft → List Value
  | [] => []
  | item :: items => item.value :: itemValues items

/-- The values of the pairs of a mapping. -/
def pairValues : List (Draft × Draft) → List (Value × Value)
  | [] => []
  | (key, value) :: pairs => (key.value, value.value) :: pairValues pairs

end

end Draft

/-- The key of a pair. A single equals sign stands for itself as a key. -/
def keyDraft (key : Node) (draft : Draft) : Draft :=
  if key.isValueKey then .scalar (.ok (.text "=")) else draft

mutual

/-- The draft of a node. -/
def Node.draft : Node → Draft
  | .scalar content plain tag => .scalar (scalarValue content plain tag)
  | .sequence items tag =>
      if tag.all (· = coreTag "seq") then .sequence (itemDrafts items)
      else .scalar (.error .malformed)
  | .mapping pairs tag =>
      if tag.all (· = coreTag "map") then
        .mapping ((pairDrafts pairs).map fun (merged, own) => merged ++ own)
      else .scalar (.error .malformed)

/-- The drafts of the items of a sequence. -/
def itemDrafts : List Node → List Draft
  | [] => []
  | item :: items => item.draft :: itemDrafts items

/-- The drafts of the pairs of a mapping: those under merge keys, and its own. -/
def pairDrafts : List (Node × Node)
    → Option (List (Draft × Draft) × List (Draft × Draft))
  | [] => some ([], [])
  | (key, value) :: pairs => do
      let (merged, own) ← pairDrafts pairs
      if key.isMergeKey then return ((← value.draft.mergedPairs?) ++ merged, own)
      else return (merged, (keyDraft key key.draft, value.draft) :: own)

end

/-- The value of a node. -/
def Node.value (node : Node) : Except Problem Value :=
  match node.draft.firstProblem? with
  | some problem => .error problem
  | none => .ok node.draft.value

/-- The problem of a stream whose tokens or nodes cannot be read. -/
def ScanError.problem : ScanError → Problem
  | .malformed => .malformed
  | .invalidCode => .fault .invalidCode
  | .oversizedCode => .fault .oversizedCode

/-- The value of the only document of a text; a text without a document has the value of
nothing. -/
def read (text : String) : Except Problem Value := do
  match ← (Node.ofTokens (.ofText text.toList)).mapError ScanError.problem with
  | none => return .null
  | some node => node.value

end ErrorTables.Yaml
