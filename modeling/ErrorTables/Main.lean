import ErrorTables.CommandLine.Generate
import ErrorTables.CommandLine.View
import Std.Time.Zoned

/-!
The program. It surveys the places that the arguments name, lets the command work on a picture of
them, and carries the changes out.
-/

namespace ErrorTables.Program

open CommandLine

/-- Adds what stands at a path to a picture of the file system. Files can be added without their
content if they are not going to be read. -/
def surveyPlace (files : FileSystem) (path : Path) (reads : Bool) : IO FileSystem := do
  let place := (← IO.currentDir) / path.toString
  match files.locate path with
  | .error _ => return files
  | .ok location =>
      if ← place.isDir then return files.put location .directory
      else if ← place.pathExists then
        let content ← if reads then IO.FS.readBinFile place else pure .empty
        return files.put location (.file content)
      else return files

/-- Adds a path and the directories that lead to it. -/
def surveyPath (files : FileSystem) (path : Path) : IO FileSystem := do
  let mut files := files
  for count in List.range path.names.length do
    let names := path.names.take (count + 1)
    files ← surveyPlace files { path with names } true
  return files

/-- Adds the places in a directory. -/
def surveyEntries (files : FileSystem) (directory : Path) : IO FileSystem := do
  let mut files ← surveyPath files directory
  let place := (← IO.currentDir) / directory.toString
  if ← place.isDir then
    for entry in ← place.readDir do
      let names := directory.names ++ [entry.fileName]
      files ← surveyPlace files { directory with names } false
  return files

/-- A picture of the places that the arguments of a command name. -/
def survey (arguments : List String) : IO FileSystem := do
  match Request.table.read {} arguments with
  | .error _ => return {}
  | .ok (request, inputs) =>
      let mut files ← surveyEntries {} request.options.outputDirectory
      for path in request.paths ++ inputs.map Path.ofString do
        files ← surveyPath files path
      return files

/-- A location as a path of the operating system. -/
def placeOf : Location → String
  | "/" :: names => "/" ++ "/".intercalate names
  | names => "/".intercalate names

/-- Carries out what has changed from one picture to the next. -/
def carryOut (before after : FileSystem) : IO Unit := do
  let added := after.nodes.take (after.nodes.length - before.nodes.length)
  for (location, node) in added.reverse do
    match node with
    | .directory => IO.FS.createDirAll (placeOf location)
    | .file content => IO.FS.writeBinFile (placeOf location) content

/-- The moment by the local clock. -/
def currentMoment : IO Moment := do
  let now ← Std.Time.PlainDateTime.now
  return {
    date := ⟨now.date.year.toInt.toNat, now.date.month.val.toNat, now.date.day.val.toNat⟩
    hour := now.time.hour.val.toNat
    minute := now.time.minute.val.toNat
    second := now.time.second.val.toNat }

/-- Prints what a command says and returns its status. -/
def finish (ending : Ending) : IO UInt32 := do
  IO.print ending.output
  IO.eprint ending.report
  if let some fault := ending.fault then
    IO.eprintln fault.message
  return UInt32.ofNat ending.status

/-- Generates from definition files. -/
def runGenerate (arguments : List String) : IO UInt32 := do
  let before ← survey arguments
  let ending := generate arguments (← currentMoment) before
  carryOut before ending.files
  finish ending

/-- Shows a listing. -/
def runView (arguments : List String) : IO UInt32 := do
  match View.readArguments arguments with
  | .display path _ => finish (viewListing arguments (← surveyPath {} path))
  | _ => finish (viewListing arguments {})

end ErrorTables.Program

/-- The program shows a listing if it is called by that name, and generates if not. -/
def main (arguments : List String) : IO UInt32 := do
  if (← IO.appPath).fileStem = some ErrorTables.CommandLine.View.programName then
    ErrorTables.Program.runView arguments
  else ErrorTables.Program.runGenerate arguments
