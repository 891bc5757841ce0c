import ErrorTables.Json.Reader
import ErrorTables.Settings
import ErrorTables.Yaml.Reader

/-!
Settings files. The suffix of the name tells YAML from JSON, which all other files are read as; a
file that holds nothing makes the default settings. The readers of the two notations are left open.
-/

namespace ErrorTables.Settings

/-- The suffixes, in lower case, of YAML files. -/
def yamlSuffixes : List String :=
  [".yml", ".yaml"]

/-- The file at a path is read as YAML. -/
def isYamlPath (path : Path) : Bool :=
  yamlSuffixes.contains path.suffix.toLower

/-- Why the text of a document has no value: it is malformed, with or without a detail, or its
reader has failed in a way that is no report of that. -/
inductive DocumentProblem where
  | malformed (detail : Option String)
  | fault (fault : Fault)
  deriving DecidableEq, Repr

/-- What settings files are read with: a reader of YAML, a reader of JSON, and the text that a value
is taken by, which a text itself has. A collection that holds itself is given by the reader with its
content written out as deep as settings look into it. -/
structure Readers where
  yaml : String → Except DocumentProblem Value
  json : String → Except DocumentProblem Value
  plain : Value → Except Fault String
  plain_text : ∀ content, plain (.text content) = .ok content

namespace Readers

/-- The readers of this library. -/
def standard : Readers where
  yaml text := (Yaml.read text).mapError fun
    | .malformed => .malformed none
    | .fault fault => .fault fault
  json text := (Json.read text).mapError fun
    | .malformed fault => .malformed (some fault.message)
    | .numeral fault => .fault (.numeral fault)
  plain := plainText
  plain_text _ := rfl

/-- The value that the text of the file at a path stands for. -/
def document (readers : Readers) (path : Path) (text : String) : Except DocumentProblem Value :=
  if isYamlPath path then readers.yaml text else readers.json text

end Readers

/-- The problem of settings in a file whose text has no value. -/
def documentProblem (path : Path) : DocumentProblem → SettingsProblem
  | .malformed detail => .refused (.malformed path detail)
  | .fault fault => .fault fault

/-- The settings in the file at a path, as it is read by the given readers. -/
def loadWith (readers : Readers) (files : FileSystem) (path : Path)
    : Except SettingsProblem Settings := do
  let bytes ← (files.read path).mapError fun error =>
    if error = .nullInName then .fault .nullInName else .refused (.unreadable path error)
  let content ← (Text.Utf8.decode bytes).mapError fun fault => .fault (.undecodable fault)
  let text := String.ofList (Text.unifyBreaks content.toList)
  match ← (readers.document path text).mapError (documentProblem path) with
  | .null => ofMappingWith readers.plain []
  | .mapping pairs => ofMappingWith readers.plain pairs
  | _ => throw (.refused (.notAMapping path))

/-- The settings in the file at a path. -/
def load (files : FileSystem) (path : Path) : Except SettingsProblem Settings :=
  loadWith .standard files path

end ErrorTables.Settings
