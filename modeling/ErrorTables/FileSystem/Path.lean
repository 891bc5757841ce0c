/-!
Paths as they are written: a root, which relative paths lack, and names. Empty names and single
dots are dropped when a path is read, double dots are kept.
-/

namespace ErrorTables

/-- A path to a file or directory. -/
structure Path where
  root : String := ""
  names : List String := []
  deriving DecidableEq, Repr

namespace Path

/-- The root of a path: exactly two slashes are one of their own, any other number counts as one. -/
def rootOf : List Char → String
  | '/' :: '/' :: '/' :: _ => "/"
  | '/' :: '/' :: _ => "//"
  | '/' :: _ => "/"
  | _ => ""

/-- Reads a path. -/
def ofString (text : String) : Path where
  root := rootOf text.toList
  names := ((text.toList.splitOn '/').map String.ofList).filter fun name =>
    !(name.isEmpty || name = ".")

/-- The path as text; a path without root and names is a dot. -/
def toString (path : Path) : String :=
  if path.root.isEmpty && path.names.isEmpty then "."
  else path.root ++ "/".intercalate path.names

instance : ToString Path where
  toString := toString

/-- The second path as seen from the first one. A path with a root stands for itself. -/
def join (first second : Path) : Path :=
  if second.root.isEmpty then { first with names := first.names ++ second.names } else second

/-- The path without its last name. -/
def parent (path : Path) : Path :=
  { path with names := path.names.dropLast }

/-- The last name of a path. -/
def name (path : Path) : String :=
  path.names.getLast?.getD ""

/-- The end of a name from its last dot on, which is neither its first nor its last character. -/
def suffix (path : Path) : String :=
  let reversed := path.name.toList.reverse
  let ending := reversed.takeWhile (· ≠ '.')
  let stem := reversed.drop (ending.length + 1)
  if ending.isEmpty || stem.isEmpty then "" else "." ++ String.ofList ending.reverse

end Path

end ErrorTables
