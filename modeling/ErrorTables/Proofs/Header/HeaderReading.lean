import ErrorTables.Proofs.Header.RowReading
import ErrorTables.Proofs.Text.LineSplitting

/-! Whole headers read back row by row.
A header is cut between its banner and its footer into rows, and the rows are taken for the
enumerators, macros, messages and symbols that they declare.
-/

namespace ErrorTables.Header

open Text

-----------------------------------------------------------------------------------------
-- Readers
-----------------------------------------------------------------------------------------

/-- The rows of a header between its banner and its footer. -/
def declarations? (artifact : Artifact) (fileName : String) (context : Context) (group : Group)
    : Option (List (List Char)) := do
  let text := (artifact.render fileName context group).toList
  let behindBanner ← text.dropPrefix? (banner fileName context group).toList
  let declared ← behindBanner.dropSuffix? footer.toList
  return splitFeeds declared

def closingRow : List Char :=
  "\x7d;".toList

/-- The rows of the block in braces that the first row opens, and the rows behind the block. -/
def splitBlock? (opening : String)
    : List (List Char) → Option (List (List Char) × List (List Char))
  | [] => none
  | first :: rest => do
      let _ ← first.dropSuffix? opening.toList
      let behind ← (rest.dropWhile (· ≠ closingRow)).dropPrefix? [closingRow]
      return (rest.takeWhile (· ≠ closingRow), behind)

/-- Enumerators with commas between them. -/
def readEnumerators? : List (List Char) → Option (List (String × Int))
  | [] => none
  | [last] => (readEnumerator? last).map ([·])
  | row :: rest => do
      let written ← row.dropSuffix? [',']
      let first ← readEnumerator? written
      let others ← readEnumerators? rest
      return first :: others

/-- The constant in the last one of two rows, behind an empty one. -/
def readCount? : List (List Char) → Option (String × Nat)
  | [[], row] => readConstant? row
  | _ => none

def readMessage? : List Char → Option (String × String) :=
  readLabelled? "/* " '*' "/ " ","

def readInfo? : List Char → Option (String × String) :=
  readLabelled? "    \x7b " ',' "  " " \x7d,"

def readSpelling? : List Char → Option (String × String) :=
  readLabelled? "    \x7b " ',' " " " \x7d,"

/-- The enumerators of a header. -/
def readEnumeration? (rows : List (List Char)) : Option (List (String × Int)) := do
  let (inner, behind) ← splitBlock? "enum \x7b" rows
  guard (behind = [])
  readEnumerators? inner

def readMacros? (rows : List (List Char)) : Option (List (String × Int)) :=
  rows.mapM readMacro?

/-- The messages of a header, the sentinel behind them, and the constant that counts them. -/
def readMessages? (rows : List (List Char))
    : Option (List (String × String) × String × (String × Nat)) := do
  let (inner, behind) ← splitBlock? "_errmsg[] = \x7b" rows
  let messages ← inner.dropLast.mapM readMessage?
  let sentinel ← inner.getLast?.bind readSentinel?
  let count ← readCount? behind
  return (messages, sentinel, count)

/-- The symbols and messages of a header, and the constant that counts the codes. -/
def readInfos? (rows : List (List Char)) : Option (List (String × String) × (String × Nat)) := do
  let (inner, behind) ← splitBlock? "error_info[] = \x7b" rows
  let infos ← inner.mapM readInfo?
  let count ← readCount? behind
  return (infos, count)

/-- The symbols of a header and their spelling. -/
def readSpellings? (rows : List (List Char)) : Option (List (String × String)) := do
  let (inner, behind) ← splitBlock? "_error_info_bakw[] = \x7b" rows
  guard (behind = [])
  inner.mapM readSpelling?

/-- What the five headers of a group declare. -/
structure Declared where
  enumerators : List (String × Int)
  macros : List (String × Int)
  messages : List (String × String)
  sentinel : String
  messageCount : String × Nat
  infos : List (String × String)
  codeCount : String × Nat
  spellings : List (String × String)
  deriving DecidableEq, Repr

/-- What five headers declare, given by their rows. -/
def readHeaders? (rows : Artifact → Option (List (List Char))) : Option Declared := do
  let enumerators ← (rows .enumeration).bind readEnumeration?
  let macros ← (rows .macros).bind readMacros?
  let (messages, sentinel, messageCount) ← (rows .messages).bind readMessages?
  let (infos, codeCount) ← (rows .info).bind readInfos?
  let spellings ← (rows .symbols).bind readSpellings?
  return {
    enumerators, macros, messages, sentinel, messageCount, infos, codeCount, spellings }

-----------------------------------------------------------------------------------------
-- Blocks and lists of rows
-----------------------------------------------------------------------------------------

/-- The rows of a header are its declarations, if none of them holds a line feed. -/
theorem declarations?_eq {artifact : Artifact} {context : Context} {group : Group}
    (whole : ∀ row ∈ artifact.rows context group, '\n' ∉ row.toList) (fileName : String)
    : declarations? artifact fileName context group
      = some ((artifact.rows context group).map String.toList) := by
  simp only [declarations?, Artifact.render, String.toList_append, List.append_assoc,
    dropPrefix?_append, dropSuffix?_append, splitFeeds_closeLines whole, Option.bind_eq_bind,
    Option.bind_some, pure]

/-- A block is split from the rows around it, if none of its rows closes it early. -/
theorem splitBlock?_eq {opening : String} {front : List Char} {inner behind : List (List Char)}
    (inside : ∀ row ∈ inner, row ≠ closingRow)
    : splitBlock? opening ((front ++ opening.toList) :: (inner ++ closingRow :: behind))
      = some (inner, behind) := by
  have kept : ∀ row ∈ inner, decide (row ≠ closingRow) = true := by simpa using inside
  have stop : ∀ row, (closingRow :: behind).head? = some row
      → decide (row ≠ closingRow) = false := by
    intro row first
    simpa using first.symm
  have closed : (closingRow :: behind).dropPrefix? [closingRow] = some behind :=
    dropPrefix?_append [closingRow] behind
  simp only [splitBlock?, dropSuffix?_append, takeWhile_run kept stop, dropWhile_run kept stop,
    closed, Option.bind_eq_bind, Option.bind_some, pure]

/-- Rows that are read one at a time are read together, by induction on what they are written for.
-/
theorem mapM_rows {α β : Type} {read : List Char → Option β} {write : α → List Char}
    {value : α → β} {items : List α}
    (each : ∀ item ∈ items, read (write item) = some (value item))
    : (items.map write).mapM read = some (items.map value) := by
  induction items with
  | nil => simp
  | cons item rest ih =>
      obtain ⟨first, others⟩ := List.forall_mem_cons.mp each
      simp [List.mapM_cons, first, ih others]

/-- Enumerators are read in order, the last of them without a comma, by induction on the others. -/
theorem readEnumerators?_rows {α : Type} {write : α → List Char} {value : α → String × Int}
    {items : List α} {last : List Char} {final : String × Int}
    (each : ∀ item ∈ items, readEnumerator? (write item) = some (value item))
    (ends : readEnumerator? last = some final)
    : readEnumerators? (items.map (fun item => write item ++ [',']) ++ [last])
      = some (items.map value ++ [final]) := by
  induction items with
  | nil => simp [readEnumerators?, ends]
  | cons item rest ih =>
      obtain ⟨first, others⟩ := List.forall_mem_cons.mp each
      rw [List.map_cons, List.cons_append, readEnumerators?]
      · simp [dropSuffix?_append, first, ih others]
      · simp

end ErrorTables.Header
