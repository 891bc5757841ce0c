import ErrorTables.Console.Table
import ErrorTables.Json.Writer
import ErrorTables.Run.Summary

/-!
Reports of runs: the summary of a run as a JSON document and as a table. Codes are given in
hexadecimal beside their numbers. The encoder of the document is left open.
-/

namespace ErrorTables.Report

open Console Run

/-- The report of a group. -/
def ofGroup (group : GroupRecord) : Value :=
  .mapping [
    (.text "source", .text group.source),
    (.text "name", .text group.name),
    (.text "base", .integer group.base),
    (.text "count", .integer group.count),
    (.text "errmin", .integer group.firstCode),
    (.text "errmax", .integer group.lastCode),
    (.text "errmin_hex", .text (Numeral.hex group.firstCode)),
    (.text "errmax_hex", .text (Numeral.hex group.lastCode))]

/-- The pairs of the report of a run, in the order in which they are written. -/
def pairs (summary : Summary) : List (Value × Value) :=
  [ (.text "files", .sequence (summary.files.map .text)),
    (.text "groups", .sequence (summary.groups.map ofGroup)),
    (.text "entries", .integer summary.entries),
    (.text "written", .sequence (summary.written.map .text)),
    (.text "list_path", (summary.listPath.map Value.text).getD .null),
    (.text "listed", .integer summary.listed) ]

/-- Writes a document to a file, as the given encoder has it, and makes the directories that lead to
the file. The directories are made before the encoder can refuse the document. -/
def saveWith (encode : Value → Except Fault ByteArray) (files : FileSystem) (path : Path)
    (document : Value) : FileSystem × Except Fault Unit :=
  match files.ensureDirectory path.parent with
  | (made, .error error) => (made, .error (.ofAccessError error))
  | (made, .ok ()) =>
      match encode document with
      | .error fault => (made, .error fault)
      | .ok content =>
          match made.write path content with
          | .ok written => (written, .ok ())
          | .error error => (made, .error (.ofAccessError ⟨error, path⟩))

/-- Writes the report of a run to a file, as the given encoder has it. -/
def writeWith (encode : Value → Except Fault ByteArray) (files : FileSystem) (path : Path)
    (summary : Summary) : FileSystem × Except Fault Unit :=
  saveWith encode files path (.mapping (pairs summary))

/-- Writes a document to a file and makes the directories that lead to it. -/
def save (files : FileSystem) (path : Path) (document : Value)
    : FileSystem × Except Fault Unit :=
  saveWith Json.encode files path document

/-- The table of the groups of a run. -/
def table (summary : Summary) : Table where
  title := "Error groups"
  columns := [
    { header := "Source", cells := summary.groups.map (·.source) },
    { header := "Group", cells := summary.groups.map (·.name) },
    { header := "Entries", alignment := .right
      cells := summary.groups.map (Numeral.decimal ·.count) },
    { header := "ERRMIN", alignment := .right
      cells := summary.groups.map (Numeral.hex ·.firstCode) },
    { header := "ERRMAX", alignment := .right
      cells := summary.groups.map (Numeral.hex ·.lastCode) }]

end ErrorTables.Report
