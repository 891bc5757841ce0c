import ErrorTables.Fault
import ErrorTables.FileSystem

/-!
How a command ends: with an exit status, what it has printed, and the files that it leaves behind.
-/

namespace ErrorTables.CommandLine

/-- The exit status of a command that has done its work. -/
def successStatus : Nat := 0

/-- The exit status of a command that has failed. -/
def failureStatus : Nat := 1

/-- The exit status of a command that was not used as it should be. -/
def usageStatus : Nat := 2

/-- The end of a command. A fault has no report among what is printed. `saved` are the paths at
which writing the report of a run was begun, be it with success or not. -/
structure Ending where
  files : FileSystem
  status : Nat := successStatus
  output : String := ""
  report : String := ""
  fault : Option Fault := none
  saved : List Path := []

namespace Ending

/-- The command ends with a fault. -/
def fail (ending : Ending) (fault : Fault) : Ending :=
  { ending with status := failureStatus, fault := some fault }

/-- Goes on with an ending unless a fault has come before. -/
def andThen (ending : Ending) (next : Ending → Ending) : Ending :=
  if ending.fault.isSome then ending else next ending

/-- Prints a text, unless the console refuses it. -/
def print (ending : Ending) (printed : Except Fault String) : Ending :=
  match printed with
  | .ok text => { ending with output := ending.output ++ text }
  | .error fault => ending.fail fault

/-- The command ends with a complaint about its use. -/
def misuse (ending : Ending) (message : String) : Ending :=
  { ending with status := usageStatus, report := s!"Error: {message}\n" }

end Ending

end ErrorTables.CommandLine
