import ErrorTables.CommandLine.Option
import ErrorTables.Run.Options
import ErrorTables.Text.Lines

/-!
What the arguments of the command that generates headers or a listing ask for, and the options that
they are made of.
-/

namespace ErrorTables.CommandLine

open Run

/-- What the arguments of the command ask for, the inputs aside. -/
structure Request where
  options : Options := {}
  settings : Option Path := none
  report : Option Path := none
  quiet : Bool := false
  help : Bool := false
  deriving DecidableEq, Repr

namespace Request

/-- An option that changes the choices of the run. -/
def choose (apply : Options → Options) : Effect Request :=
  .flag fun request => { request with options := apply request.options }

/-- An option that gives a path to the choices of the run. -/
def choosePath (apply : Path → Options → Options) : Effect Request :=
  .valued fun path request =>
    { request with options := apply (Path.ofString path) request.options }

/-- Chooses the output directory. -/
def outputDirectory : Effect Request :=
  choosePath fun path options => { options with outputDirectory := path }

/-- Chooses the path of the listing. -/
def listPath : Effect Request :=
  choosePath fun path options => { options with listPath := some path }

/-- Chooses the settings file. -/
def settingsFile : Effect Request :=
  .valued fun path request => { request with settings := some (Path.ofString path) }

/-- Chooses the path of the report. -/
def reportFile : Effect Request :=
  .valued fun path request => { request with report := some (Path.ofString path) }

/-- Silences the command. -/
def silence : Effect Request :=
  .flag fun request => { request with quiet := true }

/-- The options of the command. -/
def table : OptionTable Request where
  names := [
    ("--errmsg", choose fun options => { options with messages := true }),
    ("--no-errmsg", choose fun options => { options with messages := false }),
    ("--einfo", choose fun options => { options with info := true }),
    ("--no-einfo", choose fun options => { options with info := false }),
    ("--enum", choose fun options => { options with enumeration := true }),
    ("--no-enum", choose fun options => { options with enumeration := false }),
    ("--defines", choose fun options => { options with macros := true }),
    ("--no-defines", choose fun options => { options with macros := false }),
    ("-list", listPath), ("--list", listPath),
    ("--output-dir", outputDirectory),
    ("--config", settingsFile),
    ("--report", reportFile),
    ("--quiet", silence),
    ("--help", .flag fun request => { request with help := true })]
  letters := [
    ('m', choose fun options => { options with messages := true }),
    ('p', choose fun options => { options with info := true }),
    ('e', choose fun options => { options with enumeration := true }),
    ('d', choose fun options => { options with macros := true }),
    ('o', outputDirectory),
    ('c', settingsFile),
    ('q', silence)]

/-- The paths of a request. -/
def paths (request : Request) : List Path :=
  request.options.listPath.toList ++ [request.options.outputDirectory] ++
    request.settings.toList ++ request.report.toList

end Request

/-- The help of the command. -/
def helpLines : List String :=
  [ "Usage: errgen [OPTIONS] FILES...",
    "",
    "Generate C/C++ error tables (messages, info tables, enums, #defines) from definitions.",
    "",
    "  -m, --errmsg / --no-errmsg    Generate message arrays.",
    "  -p, --einfo / --no-einfo      Generate info tables and tables of symbols.",
    "  -e, --enum / --no-enum        Generate enumerations.",
    "  -d, --defines / --no-defines  Generate #defines.",
    "  -list, --list PATH            Write a flat list of error codes to this file instead.",
    "  -o, --output-dir PATH         Directory for generated headers.",
    "  -c, --config PATH             YAML or JSON generator config.",
    "  --report PATH                 Write a JSON run summary.",
    "  -q, --quiet                   Only report errors.",
    "  --help                        Show this message and exit." ]

/-- What the arguments of the command come to: they are refused, help is given, or the command is
called. -/
inductive Invocation where
  | refused (message : String)
  | helped (text : String)
  | called (request : Request) (inputs : List Path)
  deriving DecidableEq, Repr

/-- What the arguments come to by the options of the command. Help comes before the inputs that may
be missing. -/
def Request.invocation (arguments : List String) : Invocation :=
  match table.read {} arguments with
  | .error error => .refused error.message
  | .ok (request, others) =>
      if request.help then .helped (Text.closeLines helpLines)
      else if others.isEmpty then .refused (ArgumentError.missingArgument "FILES...").message
      else .called request (others.map Path.ofString)

end ErrorTables.CommandLine
