import ErrorTables.Definition.File
import ErrorTables.Run.Options
import ErrorTables.Settings

/-!
How a run fails. A failure is reported to the user, as one of usage, of settings, of a definition,
of an input or of an output; a fault is not reported but ends the program.
-/

namespace ErrorTables.Run

/-- Why a result cannot be written. -/
inductive OutputError where
  | unopenable (path : String) (error : FileError)
  | unwritable (path : String) (error : FileError)
  deriving DecidableEq, Repr

/-- The wording of an error. -/
def OutputError.message : OutputError → String
  | .unopenable path error => s!"Couldn't open {path}: {error.message}"
  | .unwritable path error => s!"Couldn't write {path}: {error.message}"

/-- Why a run ends early. -/
inductive Failure where
  | usage (error : UsageError)
  | settings (error : SettingsError)
  | parse (error : Definition.ParseError)
  | input (error : Definition.InputError)
  | output (error : OutputError)
  | fault (cause : Fault)
  deriving DecidableEq, Repr

namespace Failure

/-- The wording of a failure. -/
def message : Failure → String
  | .usage error => error.message
  | .settings error => error.message
  | .parse error => error.message
  | .input error => error.message
  | .output error => error.message
  | .fault cause => cause.message

/-- The failure of reading a definition file. -/
def ofFileProblem : Definition.FileProblem → Failure
  | .input error => .input error
  | .parse error => .parse error
  | .fault cause => .fault cause

/-- The failure of taking settings. -/
def ofSettingsProblem : SettingsProblem → Failure
  | .refused error => .settings error
  | .fault cause => .fault cause

end Failure

end ErrorTables.Run
