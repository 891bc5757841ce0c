import ErrorTables.Definition.Parser
import ErrorTables.Fault

/-!
Definition files: reading the groups of the file at a path. The text of a file is its bytes read as
UTF-8, with all line ends alike.
-/

namespace ErrorTables.Definition

open Text

/-- Why a file yields no text. -/
inductive InputError where
  | unreadable (path : Path) (error : FileError)
  | undecodable (path : Path) (offset : Nat)
  deriving DecidableEq, Repr

/-- The wording of an error. -/
def InputError.message : InputError → String
  | .unreadable path error => s!"Couldn't open {path}: {error.message}"
  | .undecodable path offset => s!"{path}: not valid UTF-8 at byte {offset}"

/-- Why a definition file yields no groups. -/
inductive FileProblem where
  | input (error : InputError)
  | parse (error : ParseError)
  | fault (fault : Fault)
  deriving DecidableEq, Repr

/-- The text of a file, with all line ends alike. -/
def fileText (content : String) : String :=
  String.ofList (unifyBreaks content.toList)

/-- The groups that the file at a path defines. -/
def load (files : FileSystem) (path : Path) : Except FileProblem (List Group) :=
  match files.read path with
  | .error .nullInName => .error (.fault .nullInName)
  | .error error => .error (.input (.unreadable path error))
  | .ok bytes =>
      match Utf8.decode bytes with
      | .error fault => .error (.input (.undecodable path fault.start))
      | .ok content => (parseText (some path.toString) (fileText content)).mapError .parse

end ErrorTables.Definition
