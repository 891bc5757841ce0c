import ErrorTables.CommandLine.Ending
import ErrorTables.CommandLine.Request
import ErrorTables.Console.Table
import ErrorTables.Report
import ErrorTables.Run.Session
import ErrorTables.Settings.File

/-!
The command that generates headers or a listing from definition files. It prints what it has
written and a table of the groups, and it can write a report of the run. What it is built on is left
open: the parser of its arguments, the readers of settings, the encoder of reports and the console.
-/

namespace ErrorTables.CommandLine

open Console Run

/-- What the command is built on. The console prints a label in a style and a text behind it as it
is, and it draws tables, whose texts it may refuse. -/
structure Tools where
  invocation : List String → Invocation
  readers : Settings.Readers
  encode : Value → Except Fault ByteArray
  line : (style label text : String) → String
  draw : Table → Except Fault String

namespace Tools

/-- The tools of this library. -/
def standard : Tools where
  invocation := Request.invocation
  readers := .standard
  encode := Json.encode
  line style label text :=
    (Console.print s!"[{style}]{label}[/] {Markup.escape text}").toOption.getD ""
  draw table := table.print.mapError .markup

/-- What is printed for the headers that were written. -/
def writtenLines (tools : Tools) (paths : List Path) : String :=
  String.join (paths.map fun path => tools.line "bold green" "Wrote" path.toString)

/-- What is printed for a listing. -/
def listedLine (tools : Tools) (count : Int) (path : String) : String :=
  tools.line "bold green" "Wrote list" s!"of {Numeral.decimal count} codes to {path}"

/-- What is printed for a report. -/
def reportedLine (tools : Tools) (path : Path) : String :=
  tools.line "bold green" "Wrote run report" s!"to {path}"

/-- What is printed for a failure. -/
def failureLine (tools : Tools) (message : String) : String :=
  tools.line "bold red" "Error:" message

/-- Ends a run that has failed. Misuse is no failure. -/
def refuse (tools : Tools) (ending : Ending) : Failure → Ending
  | .usage error => ending.misuse error.message
  | .settings error => ending.misuse error.message
  | .fault cause => ending.fail cause
  | failure =>
      { ending with status := failureStatus, report := tools.failureLine failure.message }

end Tools

namespace Request

/-- Prints a line unless the request is for silence. -/
def say (request : Request) (line : String) (ending : Ending) : Ending :=
  if request.quiet then ending else { ending with output := ending.output ++ line }

/-- Names the listing of a run, if it wrote one. -/
def sayListing (request : Request) (tools : Tools) (summary : Summary) (ending : Ending)
    : Ending :=
  match summary.listPath with
  | some path => request.say (tools.listedLine summary.listed path) ending
  | none => ending

/-- Writes the report of a run, if it is asked for. -/
def saveReport (request : Request) (tools : Tools) (summary : Summary) (ending : Ending)
    : Ending :=
  match request.report with
  | none => ending
  | some path =>
      let begun := { ending with saved := ending.saved ++ [path] }
      match Report.writeWith tools.encode begun.files path summary with
      | (files, .ok ()) => request.say (tools.reportedLine path) { begun with files }
      | (files, .error fault) => { begun with files }.fail fault

/-- Draws the table of the groups unless the request is for silence. -/
def drawTable (request : Request) (tools : Tools) (summary : Summary) (ending : Ending)
    : Ending :=
  if request.quiet then ending else ending.print (tools.draw (Report.table summary))

/-- Tells what a run has done: names the listing, writes the report and draws the table. -/
def tell (request : Request) (tools : Tools) (summary : Summary) (ending : Ending) : Ending :=
  (request.saveReport tools summary (request.sayListing tools summary ending)).andThen
    (request.drawTable tools summary)

/-- Runs over the inputs and tells what has been done. -/
def run (request : Request) (tools : Tools) (inputs : List Path) (settings : Settings)
    (now : Moment) (files : FileSystem) : Ending :=
  let outcome := Run.run inputs request.options settings now files
  let ending := request.say (tools.writtenLines outcome.announced) { files := outcome.files }
  match outcome.result with
  | .error failure => tools.refuse ending failure
  | .ok summary => request.tell tools summary ending

/-- The settings that a request names. -/
def loadSettings (request : Request) (readers : Settings.Readers) (files : FileSystem)
    : Except SettingsProblem Settings :=
  match request.settings with
  | some path => Settings.loadWith readers files path
  | none => .ok {}

end Request

/-- The command with its arguments, at a moment and on a file system, built on the given tools. -/
def generateWith (tools : Tools) (arguments : List String) (now : Moment) (files : FileSystem)
    : Ending :=
  match tools.invocation arguments with
  | .refused message => Ending.misuse { files } message
  | .helped text => { files, output := text }
  | .called request inputs =>
      match request.options.validate with
      | .error error => Ending.misuse { files } error.message
      | .ok () =>
          match request.loadSettings tools.readers files with
          | .error problem => tools.refuse { files } (.ofSettingsProblem problem)
          | .ok settings => request.run tools inputs settings now files

/-- The command with its arguments, at a moment and on a file system. -/
def generate (arguments : List String) (now : Moment) (files : FileSystem) : Ending :=
  generateWith .standard arguments now files

end ErrorTables.CommandLine
