import ErrorTables.FileSystem.Path

/-!
File systems as finite maps from locations to files and directories. A location is the shortest
list of names that leads to a place; a path leads to a location by way of the directories that it
names. Reading and writing by path fail as the operating system lets them fail.

Two things are left out. The working directory has no name: in a working directory `/w`, the paths
`a`, `../w/a` and `/w/a` lead to three locations, so that statements about places cover paths that
agree in where they start from. And there are no links: a place has one location only.
-/

namespace ErrorTables

/-- A file with its bytes, or a directory. -/
inductive Node where
  | file (content : ByteArray)
  | directory

namespace Node

instance : DecidableEq Node
  | file content, file other =>
      match ByteArray.instDecidableEq content other with
      | isTrue same => isTrue (congrArg file same)
      | isFalse apart => isFalse fun same => apart (file.inj same)
  | file _, directory => isFalse nofun
  | directory, file _ => isFalse nofun
  | directory, directory => isTrue rfl

end Node

/-- A place by the names that lead to it from the working directory, or from the root behind a first
slash. Only its first names may be double dots. -/
abbrev Location := List String

/-- Why the operating system refuses to read or write. -/
inductive FileError where
  | noSuchFile
  | fileExists
  | notADirectory
  | isADirectory
  | noSpaceLeft
  | nameTooLong
  | nullInName
  deriving DecidableEq, Repr

namespace FileError

/-- The number of an error, if the operating system gives it one. -/
def number? : FileError → Option Nat
  | .noSuchFile => some 2
  | .fileExists => some 17
  | .notADirectory => some 20
  | .isADirectory => some 21
  | .noSpaceLeft => some 28
  | .nameTooLong => some 36
  | .nullInName => none

/-- The wording of an error. -/
def message : FileError → String
  | .noSuchFile => "No such file or directory"
  | .fileExists => "File exists"
  | .notADirectory => "Not a directory"
  | .isADirectory => "Is a directory"
  | .noSpaceLeft => "No space left on device"
  | .nameTooLong => "File name too long"
  | .nullInName => "embedded null byte"

end FileError

/-- An error of the operating system and the path that it refused. -/
structure AccessError where
  error : FileError
  path : Path
  deriving DecidableEq, Repr

namespace Location

/-- The location of the directory that holds a place. -/
def above (location : Location) : Location :=
  if location = ["/"] then location
  else if location.getLast?.all (· = "..") then location ++ [".."]
  else location.dropLast

/-- The place is a directory of every file system: the working directory, one that holds it, or the
root. -/
def IsAnchor (location : Location) : Prop :=
  location = ["/"] ∨ ∀ name ∈ location, name = ".."

instance (location : Location) : Decidable (IsAnchor location) :=
  inferInstanceAs (Decidable (_ ∨ _))

/-- The place lies under the working directory. -/
def isInside (location : Location) : Bool :=
  location.head?.any fun name => name ≠ ".." && name ≠ "/"

end Location

/-- The files and directories of a file system, the latest first. -/
structure FileSystem where
  nodes : List (Location × Node) := []

namespace FileSystem

/-- What stands at a location. -/
def node? (files : FileSystem) (location : Location) : Option Node :=
  if location.IsAnchor then some .directory else files.nodes.lookup location

/-- Puts a file or directory at a location. -/
def put (files : FileSystem) (location : Location) (node : Node) : FileSystem :=
  ⟨(location, node) :: files.nodes⟩

/-- The longest name that a directory can hold, in bytes. -/
def maxNameSize : Nat := 255

/-- The length from which on a path is too long, in bytes. -/
def pathSizeBound : Nat := 4096

/-- Where a name leads from a directory. -/
def enter (location : Location) (name : String) : Except FileError Location :=
  if name = ".." then .ok location.above
  else if maxNameSize < name.utf8ByteSize then .error .nameTooLong
  else .ok (location ++ [name])

/-- Where names lead from a directory. All but the last must lead to directories. -/
def walk (files : FileSystem) (location : Location) : List String → Except FileError Location
  | [] => .ok location
  | name :: rest =>
      match enter location name with
      | .error error => .error error
      | .ok next =>
          match rest, files.node? next with
          | [], _ => .ok next
          | _ :: _, some .directory => files.walk next rest
          | _ :: _, some (.file _) => .error .notADirectory
          | _ :: _, none => .error .noSuchFile

/-- Where a path leads. A path from the root and one from the working directory never lead to the
same location. -/
def locate (files : FileSystem) (path : Path) : Except FileError Location :=
  if path.names.any (·.contains '\x00') then .error .nullInName
  else if pathSizeBound ≤ path.toString.utf8ByteSize then .error .nameTooLong
  else files.walk (if path.root.isEmpty then [] else ["/"]) path.names

/-- The path leads to a directory. -/
def isDirectory (files : FileSystem) (path : Path) : Bool :=
  match files.locate path with
  | .ok location => files.node? location = some .directory
  | .error _ => false

/-- The bytes of the file at a path. -/
def read (files : FileSystem) (path : Path) : Except FileError ByteArray := do
  match files.node? (← files.locate path) with
  | some (.file content) => return content
  | some .directory => throw .isADirectory
  | none => throw .noSuchFile

/-- Where a file that is written to a path comes to stand. -/
def target (files : FileSystem) (path : Path) : Except FileError Location := do
  let location ← files.locate path
  match files.node? location with
  | some .directory => throw .isADirectory
  | _ => return location

/-- Writes a file, in place of the one that may be there. -/
def write (files : FileSystem) (path : Path) (content : ByteArray)
    : Except FileError FileSystem :=
  (files.target path).map fun location => files.put location (.file content)

/-- Writes bytes over the start of the file at a location. -/
def overwrite (files : FileSystem) (location : Location) (content : ByteArray) : FileSystem :=
  let old := match files.node? location with
    | some (.file old) => old
    | _ => .empty
  files.put location (.file (content ++ old.extract content.size old.size))

/-- Makes a directory in a directory that exists. -/
def makeDirectory (files : FileSystem) (path : Path) : Except FileError FileSystem := do
  let location ← files.locate path
  match files.node? location with
  | some _ => throw .fileExists
  | none => return files.put location .directory

/-- Makes a directory unless it is there already. -/
def makeMissing (files : FileSystem) (path : Path) : Except FileError FileSystem :=
  match files.makeDirectory path with
  | .ok made => .ok made
  | .error error => if files.isDirectory path then .ok files else .error error

/-- Makes the directory with the given names, last one first, and those that lead to it, as far as
they are missing. What was made before an error stays. -/
def ensureNames (files : FileSystem) (root : String)
    : List String → FileSystem × Except AccessError Unit
  | [] =>
      match files.makeMissing ⟨root, []⟩ with
      | .ok made => (made, .ok ())
      | .error error => (files, .error ⟨error, ⟨root, []⟩⟩)
  | name :: above =>
      let path : Path := ⟨root, (name :: above).reverse⟩
      match files.makeMissing path with
      | .ok made => (made, .ok ())
      | .error .noSuchFile =>
          match files.ensureNames root above with
          | (made, .error access) => (made, .error access)
          | (made, .ok ()) =>
              match made.makeMissing path with
              | .ok complete => (complete, .ok ())
              | .error error => (made, .error ⟨error, path⟩)
      | .error error => (files, .error ⟨error, path⟩)

/-- Makes the directory at a path and those that lead to it, as far as they are missing. -/
def ensureDirectory (files : FileSystem) (path : Path)
    : FileSystem × Except AccessError Unit :=
  files.ensureNames path.root path.names.reverse

/-- Writes a file and makes the directories that lead to it. -/
def writeDeep (files : FileSystem) (path : Path) (content : ByteArray)
    : FileSystem × Except AccessError Unit :=
  match files.ensureDirectory path.parent with
  | (made, .error access) => (made, .error access)
  | (made, .ok ()) =>
      match made.write path content with
      | .ok written => (written, .ok ())
      | .error error => (made, .error ⟨error, path⟩)

/-- A file system that holds a node at each path, and the directories that lead to them. -/
def ofList (entries : List (Path × Node)) : FileSystem :=
  entries.foldl (fun files (path, node) =>
    match node with
    | .file content => (files.writeDeep path content).1
    | .directory => (files.ensureDirectory path).1) {}

/-- A location and its node as they are listed: directories end in a slash. -/
def listed (location : Location) (node : Node) : String × Option ByteArray :=
  let path := "/".intercalate location
  match node with
  | .file content => (path, some content)
  | .directory => (path ++ "/", none)

/-- What stands under the working directory after a change and did not stand there before it, in
the order of the paths. -/
def changes (before after : FileSystem) : List (String × Option ByteArray) :=
  let locations := (after.nodes.map (·.1)).eraseDups.filter Location.isInside
  let changed := locations.filterMap fun location =>
    (after.node? location).bind fun node =>
      if before.node? location = some node then none else some (listed location node)
  changed.mergeSort fun first second => first.1 ≤ second.1

@[simp]
theorem node?_put (files : FileSystem) (location other : Location) (node : Node)
    : (files.put location node).node? other =
      if other.IsAnchor then some .directory
      else if other = location then some node
      else files.node? other := by
  by_cases anchor : other.IsAnchor
  · simp [node?, anchor]
  · by_cases same : other = location
    · subst same
      simp [node?, put, anchor]
    · have differ : (other == location) = false := by simpa using same
      simp [node?, put, anchor, same, List.lookup_cons, differ]

end FileSystem

end ErrorTables
