import ErrorTables.Listing
import ErrorTables.Proofs.Text.LineSplitting

/-! What a writer of listings leaves in its stream.
Group after group, a stream that is open receives one line for each entry, and the numbers of the
lines count on from where the writer stood.
-/

namespace ErrorTables.Listing

open Text

-----------------------------------------------------------------------------------------
-- Numbered lines
-----------------------------------------------------------------------------------------

/-- The symbols of all entries of groups: the name of the group and the tag, with an underscore
between them.
-/
def symbols (groups : List Group) : List String :=
  groups.flatMap fun group => group.entries.map fun entry => group.name ++ "_" ++ entry.tag

@[simp]
theorem symbols_nil : symbols [] = [] := rfl

@[simp]
theorem symbols_cons (group : Group) (rest : List Group)
    : symbols (group :: rest)
      = group.entries.map (fun entry => group.name ++ "_" ++ entry.tag) ++ symbols rest := rfl

@[simp]
theorem symbols_append (first second : List Group)
    : symbols (first ++ second) = symbols first ++ symbols second :=
  List.flatMap_append

/-- Each symbol with its number, counted on from the first number. -/
def numbered (first : Int) (symbols : List String) : List (String × Int) :=
  symbols.mapIdx fun position symbol => (symbol, first + position)

@[simp]
theorem numbered_nil (first : Int) : numbered first [] = [] := rfl

@[simp]
theorem numbered_cons (first : Int) (symbol : String) (rest : List String)
    : numbered first (symbol :: rest) = (symbol, first) :: numbered (first + 1) rest := by
  simp only [numbered, List.mapIdx_cons]
  congr 2
  · simp
  · funext position symbol
    congr 1
    push_cast
    omega

@[simp]
theorem numbered_append (first : Int) (symbols more : List String)
    : numbered first (symbols ++ more)
      = numbered first symbols ++ numbered (first + symbols.length) more := by
  induction symbols generalizing first with
  | nil => simp
  | cons symbol rest ih =>
      have count : first + (symbol :: rest).length = first + 1 + rest.length := by
        simp only [List.length_cons]
        omega
      rw [List.cons_append, numbered_cons, numbered_cons, ih, count, List.cons_append]

/-- A symbol and its number, with an equals sign between them. -/
def numberedLine (entry : String × Int) : String :=
  entry.1 ++ " = " ++ Numeral.decimal entry.2

theorem line_eq (group tag : String) (number : Int)
    : line group tag number = numberedLine (group ++ "_" ++ tag, number) ++ "\n" := by
  simp [line, numberedLine, Header.macroSymbol, toString, String.append_assoc]

/-- The listing of symbols: a line for each of them, numbered from the given number on. -/
def listingText (first : Int) (symbols : List String) : String :=
  closeLines ((numbered first symbols).map numberedLine)

section Open

variable {σ ε : Type} {stream : Stream σ ε} {isOpen : σ → Prop} {writer : Writer σ}

/-- An open stream accepts every text and stays open. -/
def Stream.Accepts (stream : Stream σ ε) (isOpen : σ → Prop) : Prop :=
  ∀ state text, isOpen state
    → (stream.write state text).2 = .ok () ∧ isOpen (stream.write state text).1

/-- A text that was accepted stands behind what the stream held. -/
theorem Stream.content_of_accepted {state next : σ} {text : String}
    (accepted : stream.write state text = (next, .ok ()))
    : stream.content next = stream.content state ++ text := by
  have content := stream.content_write state text
  rwa [accepted] at content

theorem Stream.Accepts.write (accepts : stream.Accepts isOpen) {state : σ} (opened : isOpen state)
    (text : String)
    : ∃ next, stream.write state text = (next, .ok ()) ∧ isOpen next
      ∧ stream.content next = stream.content state ++ text := by
  obtain ⟨accepted, still⟩ := accepts state text opened
  have wrote : stream.write state text = ((stream.write state text).1, .ok ()) :=
    Prod.ext rfl accepted
  exact ⟨_, wrote, still, Stream.content_of_accepted wrote⟩

/-- Writes groups one after the other, up to the first one with an entry that is refused. -/
def Writer.writeGroups (stream : Stream σ ε) : Writer σ → List Group → Writer σ × Except ε Unit
  | writer, [] => (writer, .ok ())
  | writer, group :: rest =>
      match writer.writeGroup stream group with
      | (writer, .error error) => (writer, .error error)
      | (writer, .ok _) => writeGroups stream writer rest

/-- The writer has written the listing of symbols: behind what the stream held before, a line for
each symbol, numbered on from the next number, which moves on by as many.
-/
structure Writer.Extends (stream : Stream σ ε) (isOpen : σ → Prop) (before : Writer σ)
    (symbols : List String) (after : Writer σ)
    : Prop where
  opened : isOpen after.stream
  content
    : stream.content after.stream
      = stream.content before.stream ++ listingText before.next symbols
  next : after.next = before.next + symbols.length

theorem Writer.Extends.refl (opened : isOpen writer.stream)
    : Writer.Extends stream isOpen writer [] writer :=
  ⟨opened, by simp [listingText], by simp⟩

theorem Writer.Extends.trans {before between after : Writer σ} {symbols more : List String}
    (first : Writer.Extends stream isOpen before symbols between)
    (second : Writer.Extends stream isOpen between more after)
    : Writer.Extends stream isOpen before (symbols ++ more) after := by
  refine ⟨second.opened, ?_, ?_⟩
  · rw [second.content, first.content, first.next, String.append_assoc]
    congr 1
    rw [← String.toList_inj, String.toList_append]
    simp only [listingText, numbered_append, List.map_append, toList_closeLines_append]
  · rw [second.next, first.next, List.length_append]
    push_cast
    omega

/-- A line that was accepted stands behind what the stream held. -/
theorem Writer.Extends.line {state : σ} {group tag : String} (opened : isOpen state)
    (content : stream.content state
      = stream.content writer.stream ++ Listing.line group tag writer.next)
    : Writer.Extends stream isOpen writer [group ++ "_" ++ tag] ⟨state, writer.next + 1⟩ := by
  refine ⟨opened, ?_, by simp⟩
  rw [content, line_eq]
  simp [listingText, closeLines]

variable (accepts : stream.Accepts isOpen)
include accepts

/-- Entries are written one line each, by induction on the entries. -/
theorem Writer.writeEntries_extends (group : String) (entries : List Entry)
    (opened : isOpen writer.stream)
    : ∃ after, writer.writeEntries stream group entries = (after, .ok ())
      ∧ Writer.Extends stream isOpen writer
          (entries.map fun entry => group ++ "_" ++ entry.tag) after := by
  induction entries generalizing writer with
  | nil => exact ⟨writer, rfl, .refl opened⟩
  | cons entry rest ih =>
      obtain ⟨state, written, still, content⟩ :=
        accepts.write opened (line group entry.tag writer.next)
      obtain ⟨after, more, extended⟩ := @ih ⟨state, writer.next + 1⟩ still
      refine ⟨after, ?_, (Writer.Extends.line still content).trans extended⟩
      rw [Writer.writeEntries, written]
      exact more

/-- A group is written one line for each entry, and their number is returned. -/
theorem Writer.writeGroup_extends (group : Group) (opened : isOpen writer.stream)
    : ∃ after, writer.writeGroup stream group = (after, .ok group.count)
      ∧ Writer.Extends stream isOpen writer (symbols [group]) after := by
  obtain ⟨after, written, extended⟩ :=
    Writer.writeEntries_extends accepts group.name group.entries opened
  refine ⟨after, ?_, by simpa using extended⟩
  rw [Writer.writeGroup, written]
  rfl

/-- Groups are written one after the other, by induction on the groups. -/
theorem Writer.writeGroups_extends (groups : List Group) (opened : isOpen writer.stream)
    : ∃ after, writer.writeGroups stream groups = (after, .ok ())
      ∧ Writer.Extends stream isOpen writer (symbols groups) after := by
  induction groups generalizing writer with
  | nil => exact ⟨writer, rfl, .refl opened⟩
  | cons group rest ih =>
      obtain ⟨between, written, first⟩ := Writer.writeGroup_extends accepts group opened
      obtain ⟨after, more, second⟩ := ih first.opened
      refine ⟨after, ?_, by simpa using first.trans second⟩
      rw [Writer.writeGroups, written]
      exact more

end Open

end ErrorTables.Listing
