import ErrorTables.Proofs.Definition.Bases
import ErrorTables.Proofs.Definition.BlockGrammar
import ErrorTables.Proofs.Text.LineSplitting

/-! The canonical text of groups, and the groups that have one.
Each group is written as its opening, its entries and its closing line; the lines of a group that
can be written are read as what they were written for.
-/

namespace ErrorTables.Definition

open Text

-----------------------------------------------------------------------------------------
-- Writing
-----------------------------------------------------------------------------------------

/-- The line that opens a group, with its base as a hexadecimal numeral. -/
def openingText (group : Group) : String :=
  let qualifier := match group.qualifier with
    | some qualifier => s!"{qualifier} "
    | none => ""
  s!"{group.name} = {Numeral.hex group.base} \"{group.label}\" {qualifier}\x7b"

/-- The line that gives an entry: the tag, and the message behind it unless that is empty. -/
def entryText (entry : Entry) : String :=
  if entry.message.isEmpty then entry.tag else s!"{entry.tag} {entry.message}"

def groupTexts (group : Group) : List String :=
  openingText group :: (group.entries.map entryText ++ ["\x7d"])

/-- The canonical text of groups, one after the other. -/
def write (groups : List Group) : String :=
  closeLines (groups.flatMap groupTexts)

-----------------------------------------------------------------------------------------
-- What can be written
-----------------------------------------------------------------------------------------

/-- The entry can be written: its line is an entry, and the message is all that follows the tag. -/
structure Entry.Writable (entry : Entry) : Prop where
  tag : isName entry.tag.toList = true
  message : OneLine entry.message.toList
  trimmed : Trimmed entry.message.toList
  noOpening : ∀ opening, Line.classify (entryText entry) ≠ .ok (.opening opening)

/-- The group can be written: its opening is one line, and so is each of its entries. -/
structure Group.Writable (group : Group) : Prop where
  name : isName group.name.toList = true
  base : 0 ≤ group.base
  label : OneLine group.label.toList
  qualifier : ∀ qualifier, group.qualifier = some qualifier → isQualifier qualifier.toList = true
  entries : ∀ entry ∈ group.entries, Entry.Writable entry
  tags : (group.entries.map (·.tag)).Nodup

/-- The groups can be written one after the other. -/
structure Representable (groups : List Group) : Prop where
  names : (groups.map (·.name)).Nodup
  each : ∀ group ∈ groups, Group.Writable group

-----------------------------------------------------------------------------------------
-- Where the parts of groups are written
-----------------------------------------------------------------------------------------

/-- The entries on successive lines from the given one on. -/
def placeEntries : Nat → List Entry → List Entry
  | _, [] => []
  | line, entry :: rest => { entry with line } :: placeEntries (line + 1) rest

/-- The group read from a source, with its opening at the line and its entries on the next ones. -/
def placeGroup (source : Option String) (line : Nat) (group : Group) : Group :=
  { group with source, line, entries := placeEntries (line + 1) group.entries }

/-- The groups with the line numbers that they have in their canonical text from a line on. -/
def placeGroups (source : Option String) : Nat → List Group → List Group
  | _, [] => []
  | line, group :: rest =>
      placeGroup source line group
        :: placeGroups source (line + group.entries.length + 2) rest

/-- The group without where it was read. -/
def unplaced (group : Group) : Group :=
  { group with
    source := none, line := 0, entries := group.entries.map fun entry => { entry with line := 0 } }

-----------------------------------------------------------------------------------------
-- The lines of a group that can be written
-----------------------------------------------------------------------------------------

theorem oneLine_of_isName {name : List Char} (named : isName name = true) : OneLine name :=
  fun _ member => isLineBreak_of_isWord (isWord_of_isName named member)

theorem oneLine_of_isQualifier {text : List Char} (qualifies : isQualifier text = true)
    : OneLine text := by
  intro c member
  by_contra broken
  have blank := isBlank_of_isLineBreak (by simpa using broken)
  simp [isBlank_of_isQualifierChar ((isQualifier_iff.mp qualifies).2 c member)] at blank

/-- The opening of a group that can be written spells out its name, base, label and qualifier. -/
theorem spells_openingText {group : Group} (writable : Group.Writable group)
    : Opening.Spells ⟨group.name, Numeral.hex group.base, group.label, group.qualifier⟩
        (openingText group).toList := by
  have blank : AllBlank [' '] := by simp [AllBlank, isBlank, blanks]
  have ends : SpellsEnd group.qualifier (' ' :: ((group.qualifier.getD "").toList
      ++ ((if group.qualifier.isSome then [' '] else []) ++ ['{']))) := by
    refine ⟨[' '], if group.qualifier.isSome then [' '] else [], [], blank, ?_, allBlank_nil, rfl,
      writable.qualifier⟩
    split
    · exact blank
    · exact allBlank_nil
  refine ⟨[], [' '], [' '], [' '], _, allBlank_nil, blank, blank, blank, ?_, writable.name, ?_,
    isBaseChar_hex writable.base, writable.label.noFeed, ends⟩
  · cases qualifier : group.qualifier <;> simp [openingText, qualifier, toString]
  · simp [toList_hex writable.base]

theorem oneLine_openingText {group : Group} (writable : Group.Writable group)
    : OneLine (openingText group).toList := by
  have base : OneLine (Numeral.hex group.base).toList := fun c member =>
    isLineBreak_of_isWord (isWord_of_isBaseChar (isBaseChar_hex writable.base c member))
  have name := oneLine_of_isName writable.name
  cases qualifier : group.qualifier with
  | none =>
      simp [openingText, qualifier, toString, name, base, writable.label, isLineBreak, lineBreaks]
  | some written =>
      have written := oneLine_of_isQualifier (writable.qualifier _ qualifier)
      simp [openingText, qualifier, toString, name, base, writable.label, written, isLineBreak,
        lineBreaks]

theorem oneLine_entryText {entry : Entry} (writable : Entry.Writable entry)
    : OneLine (entryText entry).toList := by
  have tag := oneLine_of_isName writable.tag
  unfold entryText
  split
  · exact tag
  · simp [toString, tag, writable.message, isLineBreak, lineBreaks]

theorem toList_entryText (entry : Entry)
    : (entryText entry).toList
      = if entry.message.toList = [] then entry.tag.toList
        else entry.tag.toList ++ ' ' :: entry.message.toList := by
  unfold entryText
  by_cases silent : entry.message = "" <;> simp [silent, toString]

theorem classify_entryText {entry : Entry} (writable : Entry.Writable entry)
    : Line.classify (entryText entry) = .ok (.entry entry.tag entry.message) := by
  rw [classify_eq_entry_iff]
  refine ⟨writable.tag, ?_, ?_⟩
  · have blank : AllBlank [' '] := by simp [AllBlank, isBlank, blanks]
    unfold entryText
    split
    · rename_i silent
      have bare : SpellsEntry entry.tag.toList [] ([] ++ (entry.tag.toList ++ [])) :=
        .bare allBlank_nil allBlank_nil
      simp_all
    · rename_i said
      have told : SpellsEntry entry.tag.toList entry.message.toList
          ([] ++ (entry.tag.toList ++ ([' '] ++ (entry.message.toList ++ [])))) :=
        .told allBlank_nil blank allBlank_nil (by simp) (by simpa using said) writable.trimmed
          writable.message.noFeed
      simpa [toString] using told
  · cases read : Opening.read? (entryText entry).toList with
    | none => rfl
    | some opening =>
        have spelled := Opening.read?_eq_some_iff.mp read
        exact (writable.noOpening opening (classify_eq_opening_iff.mpr spelled)).elim

end ErrorTables.Definition
