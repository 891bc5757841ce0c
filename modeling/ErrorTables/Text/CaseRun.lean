/-!
Case mappings in the form in which they are stored: runs of letters that are all moved by the same
number of code points.
-/

namespace ErrorTables.Text

/-- The code points `low`, `low + stride`, … up to `high`, each moved by `shift` when the case
changes. -/
structure CaseRun where
  low : Nat
  high : Nat
  stride : Nat
  shift : Int

/-- The run holds the code point. -/
def CaseRun.contains (run : CaseRun) (code : Nat) : Bool :=
  run.low ≤ code && code ≤ run.high && (code - run.low) % run.stride == 0

/-- The character moved by the run that holds it, or the character itself if there is none. -/
def shiftCase (runs : List CaseRun) (c : Char) : Char :=
  match runs.find? (·.contains c.toNat) with
  | some run => Char.ofNat (Int.toNat (c.toNat + run.shift))
  | none => c

end ErrorTables.Text
