import ErrorTables.Fault
import ErrorTables.Group
import ErrorTables.Header.Symbol
import ErrorTables.Text.Lines

/-!
Listings: one line for each code of a run, with its symbol and a number that counts through the
run. A writer keeps the next number and goes on after a refused write; a reader takes the lines
apart again.
-/

namespace ErrorTables.Listing

open Text

/-- A stream of text with states `σ` that refuses a text with `ε`. A write appends the whole text or
keeps what the stream holds. -/
structure Stream (σ ε : Type) where
  content : σ → String
  write : σ → String → σ × Except ε Unit
  content_write : ∀ state text, content (write state text).1 =
    match (write state text).2 with
    | .ok () => content state ++ text
    | .error _ => content state

/-- A listing in the making: the state of its stream and the number of the next line. -/
structure Writer (σ : Type) where
  stream : σ
  next : Int := 1

/-- The line of a code. -/
def line (group tag : String) (number : Int) : String :=
  s!"{Header.macroSymbol group tag} = {Numeral.decimal number}\n"

namespace Writer

/-- The number of lines that have been numbered, counted from one. -/
def written {σ : Type} (writer : Writer σ) : Int :=
  writer.next - 1

/-- Writes the lines of entries up to the first one that is refused. -/
def writeEntries {σ ε : Type} (stream : Stream σ ε) (group : String)
    : Writer σ → List Entry → Writer σ × Except ε Unit
  | writer, [] => (writer, .ok ())
  | writer, entry :: rest =>
      match stream.write writer.stream (line group entry.tag writer.next) with
      | (state, .error error) => ({ writer with stream := state }, .error error)
      | (state, .ok ()) => writeEntries stream group ⟨state, writer.next + 1⟩ rest

/-- Writes the lines of a group and returns their number. -/
def writeGroup {σ ε : Type} (stream : Stream σ ε) (writer : Writer σ) (group : Group)
    : Writer σ × Except ε Nat :=
  let (writer, result) := writer.writeEntries stream group.name group.entries
  (writer, result.map fun () => group.count)

end Writer

/-- The symbol and the number of a line; nothing for a blank line. The symbol ends at the first
equals sign. -/
def readLine (text : List Char) : Except Numeral.Fault (Option (String × Int)) :=
  let trimmed := trim text
  if trimmed.isEmpty then .ok none
  else
    let symbol := trimmed.takeWhile (· ≠ '=')
    let number := trimmed.drop (symbol.length + 1)
    (Numeral.read .decimal (String.ofList number)).map fun number =>
      some (String.ofList (trim symbol), number)

/-- The pairs of symbols and numbers of a list of lines. -/
def readLines : List (List Char) → Except Numeral.Fault (List (String × Int))
  | [] => .ok []
  | text :: rest => do
      let first ← readLine text
      return first.toList ++ (← readLines rest)

/-- The number of bytes that are decoded at a time when a listing is read from a file. -/
def blockSize : Nat := 8192

/-- The lines that are complete when decoding stops: all but the one that a fault cuts off. -/
def completeLines (state : Utf8.BlockState) : List (List Char) :=
  let text := unifyBreaks state.text
  let lines := splitFeeds text
  if state.fault.isNone || text.getLast? = some '\n' then lines else lines.dropLast

/-- The pairs of symbols and numbers of the listing at a path. A line that is no listing line is
found before bytes behind it that are not UTF-8. -/
def load (files : FileSystem) (path : Path) : Except Fault (List (String × Int)) := do
  let bytes ← (files.read path).mapError fun error => Fault.ofAccessError ⟨error, path⟩
  let state := Utf8.decodeBlocks blockSize bytes
  let entries ← (readLines (completeLines state)).mapError Fault.numeral
  match state.fault with
  | some fault => throw (.undecodable fault)
  | none => return entries

end ErrorTables.Listing
