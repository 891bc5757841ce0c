import ErrorTables.Calendar
import ErrorTables.Console.Markup
import ErrorTables.FileSystem
import ErrorTables.Numeral
import ErrorTables.Text.Utf8

/-!
Faults: what goes wrong in a way that the generator has no report of its own for. A fault ends the
program with the wording of the part that it arose in.
-/

namespace ErrorTables

/-- A fault by its cause. -/
inductive Fault where
  | undecodable (fault : Text.Utf8.Fault)
  | numeral (fault : Numeral.Fault)
  | calendar (fault : Calendar.Fault)
  | invalidCode
  | oversizedCode
  | oversizedWeight
  | nullInName
  | closedStream
  | access (error : AccessError)
  | notIterable (kind : String)
  | keyNotText (kind : String)
  | incomparableKeys (first second : String)
  | incomparableDates
  | incomparableMoments
  | integerTooWide
  | markup (fault : Console.Markup.Fault)
  deriving DecidableEq, Repr

namespace Fault

/-- The fault of an error of the operating system. -/
def ofAccessError (error : AccessError) : Fault :=
  if error.error = .nullInName then .nullInName else .access error

/-- The wording of a fault. -/
def message : Fault → String
  | .undecodable fault => fault.message
  | .numeral fault => fault.message
  | .calendar fault => fault.message
  | .invalidCode => "chr() arg not in range(0x110000)"
  | .oversizedCode => "Python int too large to convert to C int"
  | .oversizedWeight => "int too large to convert to float"
  | .nullInName => FileError.nullInName.message
  | .closedStream => "I/O operation on closed file."
  | .access ⟨error, path⟩ =>
      let number := (error.number?.map toString).getD ""
      s!"[Errno {number}] {error.message}: {Text.quoted path.toString}"
  | .notIterable kind => s!"'{kind}' object is not iterable"
  | .keyNotText kind => s!"sequence item 0: expected str instance, {kind} found"
  | .incomparableKeys first second =>
      s!"'<' not supported between instances of '{first}' and '{second}'"
  | .incomparableDates => "can't compare datetime.datetime to datetime.date"
  | .incomparableMoments => "can't compare offset-naive and offset-aware datetimes"
  | .integerTooWide => "Integer exceeds 64-bit range"
  | .markup fault => fault.message

end Fault

end ErrorTables
