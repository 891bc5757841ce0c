import ErrorTables.Yaml.Cursor

/-!
The tokens of a YAML stream. Besides the marks that are written there are those that indentation
stands for: the starts and ends of block collections, and the keys that a colon turns out to follow.
-/

namespace ErrorTables.Yaml

/-- A token of a YAML stream. -/
inductive Token where
  | version (major : Nat)
  | tagPrefix (handle meaning : String)
  | otherDirective
  | documentStart
  | documentEnd
  | blockSequenceStart
  | blockMappingStart
  | blockEnd
  | flowSequenceStart
  | flowSequenceEnd
  | flowMappingStart
  | flowMappingEnd
  | blockEntry
  | flowEntry
  | key
  | value
  | anchor (name : String)
  | reference (name : String)
  | tag (handle : Option String) (suffix : String)
  | scalar (content : String) (plain : Bool)
  deriving DecidableEq, Repr

/-- Why the tokens of a stream come to an end: it is malformed, or the code of an escape is that of
no character, or even too large for any machine integer. -/
inductive ScanError where
  | malformed
  | invalidCode
  | oversizedCode
  deriving DecidableEq, Repr

/-- Requires a condition of a stream. -/
def require (condition : Bool) : Except ScanError Unit :=
  if condition then .ok () else .error .malformed

end ErrorTables.Yaml
