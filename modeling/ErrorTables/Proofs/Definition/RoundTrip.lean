import ErrorTables.Proofs.Definition.CanonicalText

/-! Definition files round-trip.
The canonical text of groups that can be written is read as these groups, and every group that is
read from any text can be written, so that writing and reading again changes only line numbers.
-/

namespace ErrorTables.Definition

open Text

-----------------------------------------------------------------------------------------
-- Reading what was written
-----------------------------------------------------------------------------------------

/-- The block that a group is written as from a line on. -/
def writtenBlock (line : Nat) (group : Group) : Block :=
  { opening := ⟨group.name, Numeral.hex group.base, group.label, group.qualifier⟩
    openedAt := line
    entries := placeEntries (line + 1) group.entries
    closedAt := line + group.entries.length + 1 }

/-- The blocks that groups are written as from a line on. -/
def writtenBlocks : Nat → List Group → List Block
  | _, [] => []
  | line, group :: rest =>
      writtenBlock line group :: writtenBlocks (line + group.entries.length + 2) rest

/-- The written entries are the significant lines of their part, by induction on the entries. -/
theorem significant_entryTexts {line : Nat} {entries : List Entry}
    (writable : ∀ entry ∈ entries, Entry.Writable entry)
    : significant ((entries.map entryText).zipIdx line)
      = (placeEntries line entries).map entryLine := by
  induction entries generalizing line with
  | nil => rfl
  | cons entry rest ih =>
      obtain ⟨first, others⟩ := List.forall_mem_cons.mp writable
      rw [List.map_cons, List.zipIdx_cons, significant_cons (classify_entryText first) (by simp),
        ih others, placeEntries, List.map_cons]
      rfl

theorem significant_groupTexts {line : Nat} {group : Group} (writable : Group.Writable group)
    : significant ((groupTexts group).zipIdx line) = (writtenBlock line group).lines := by
  have opened := classify_eq_opening_iff.mpr (spells_openingText writable)
  have closed : Line.classify "\x7d" = .ok .closing := rfl
  rw [groupTexts, List.zipIdx_cons, significant_cons opened (by simp), List.zipIdx_append,
    significant_append, significant_entryTexts writable.entries, List.length_map]
  simp [significant, closed, Block.lines, writtenBlock, Nat.add_right_comm]

/-- The written lines of all groups are their blocks, by induction on the groups. -/
theorem significant_texts {line : Nat} {groups : List Group}
    (writable : ∀ group ∈ groups, Group.Writable group)
    : significant ((groups.flatMap groupTexts).zipIdx line)
      = (writtenBlocks line groups).flatMap Block.lines := by
  induction groups generalizing line with
  | nil => rfl
  | cons group rest ih =>
      obtain ⟨first, others⟩ := List.forall_mem_cons.mp writable
      have length : (groupTexts group).length = group.entries.length + 2 := by
        simp [groupTexts]
      rw [List.flatMap_cons, List.zipIdx_append, significant_append,
        significant_groupTexts first, ih others, length, writtenBlocks, List.flatMap_cons,
        Nat.add_assoc]

theorem tags_placeEntries (line : Nat) (entries : List Entry)
    : (placeEntries line entries).map (·.tag) = entries.map (·.tag) := by
  induction entries generalizing line with
  | nil => rfl
  | cons entry rest ih => simp [placeEntries, ih]

theorem names_writtenBlocks (line : Nat) (groups : List Group)
    : (writtenBlocks line groups).map (·.opening.name) = groups.map (·.name) := by
  induction groups generalizing line with
  | nil => rfl
  | cons group rest ih => simp [writtenBlocks, writtenBlock, ih]

theorem exists_of_mem_writtenBlocks {line : Nat} {groups : List Group} {block : Block}
    (member : block ∈ writtenBlocks line groups)
    : ∃ group ∈ groups, ∃ line, block = writtenBlock line group := by
  induction groups generalizing line with
  | nil => simp [writtenBlocks] at member
  | cons group rest ih =>
      rcases List.mem_cons.mp member with same | later
      · exact ⟨group, by simp, line, same⟩
      · obtain ⟨other, found, place, eq⟩ := ih later
        exact ⟨other, by simp [found], place, eq⟩

/-- The written blocks give the groups at their places, by induction on the groups. -/
theorem writtenBlocks_give {source : Option String} {line : Nat} {groups : List Group}
    (writable : ∀ group ∈ groups, Group.Writable group)
    : List.Forall₂ (Block.Gives source) (writtenBlocks line groups)
        (placeGroups source line groups) := by
  induction groups generalizing line with
  | nil => exact .nil
  | cons group rest ih =>
      obtain ⟨first, others⟩ := List.forall_mem_cons.mp writable
      exact .cons ⟨rfl, readBase_hex first.base, rfl, rfl, rfl, rfl, rfl⟩ (ih others)

theorem oneLine_groupTexts {groups : List Group}
    (writable : ∀ group ∈ groups, Group.Writable group)
    : ∀ text ∈ groups.flatMap groupTexts, OneLine text.toList := by
  intro text member
  obtain ⟨group, found, member⟩ := List.mem_flatMap.mp member
  have group := writable group found
  rcases List.mem_cons.mp member with opening | member
  · exact opening ▸ oneLine_openingText group
  · rcases List.mem_append.mp member with entry | closing
    · obtain ⟨entry, found, eq⟩ := List.mem_map.mp entry
      exact eq ▸ oneLine_entryText (group.entries entry found)
    · have eq : text = "\x7d" := by simpa using closing
      simp [eq, isLineBreak, lineBreaks]

theorem classified_groupTexts {groups : List Group}
    (writable : ∀ group ∈ groups, Group.Writable group)
    : ∀ text ∈ groups.flatMap groupTexts, ∃ line, Line.classify text = .ok line := by
  intro text member
  obtain ⟨group, found, member⟩ := List.mem_flatMap.mp member
  have group := writable group found
  rcases List.mem_cons.mp member with opening | member
  · exact ⟨_, opening ▸ classify_eq_opening_iff.mpr (spells_openingText group)⟩
  · rcases List.mem_append.mp member with entry | closing
    · obtain ⟨entry, found, eq⟩ := List.mem_map.mp entry
      exact ⟨_, eq ▸ classify_entryText (group.entries entry found)⟩
    · have eq : text = "\x7d" := by simpa using closing
      exact ⟨.closing, eq ▸ rfl⟩

theorem spellsBlocks_of_representable {groups : List Group} (h : Representable groups)
    : SpellsBlocks (groups.flatMap groupTexts) (writtenBlocks 1 groups) := {
  classified := classified_groupTexts h.each
  spelled := significant_texts h.each
  bases := by
    intro block member
    obtain ⟨group, found, line, eq⟩ := exists_of_mem_writtenBlocks member
    exact ⟨group.base, eq ▸ readBase_hex (h.each group found).base⟩
  names := by
    rw [names_writtenBlocks]
    exact h.names
  tags := by
    intro block member
    obtain ⟨group, found, line, eq⟩ := exists_of_mem_writtenBlocks member
    rw [eq, writtenBlock, tags_placeEntries]
    exact (h.each group found).tags
}

/-- A text whose lines are read without an error yields the groups, and no other text does. -/
theorem parseText_eq_ok_iff {source : Option String} {text : String} {groups : List Group}
    : parseText source text = .ok groups
      ↔ parseLines source ((splitLines text.toList).map String.ofList) = { groups } := by
  rw [parseText]
  generalize (splitLines text.toList).map String.ofList = lines
  cases result : parseLines source lines with
  | mk found error => cases error <;> simp [Parse.toExcept]

/-- The canonical text of representable groups is read as these groups at their places. -/
theorem parseText_write {groups : List Group} (source : Option String) (h : Representable groups)
    : parseText source (write groups) = .ok (placeGroups source 1 groups) := by
  rw [parseText_eq_ok_iff, write, splitLines_closeLines (oneLine_groupTexts h.each),
    parseLines_eq_iff]
  refine ⟨writtenBlocks 1 groups, ?_, writtenBlocks_give h.each⟩
  simpa [Function.comp_def] using spellsBlocks_of_representable h

-----------------------------------------------------------------------------------------
-- Writing what was read
-----------------------------------------------------------------------------------------

/-- An entry that was read from one line can be written. -/
theorem entry_writable {text : String} {entry : Entry} (oneLine : OneLine text.toList)
    (said : Line.classify text = .ok (.entry entry.tag entry.message))
    : Entry.Writable entry := by
  obtain ⟨named, spelled, unread⟩ := classify_eq_entry_iff.mp said
  obtain ⟨trimmed, part⟩ := spelled.message_spec
  refine ⟨named, fun c member => oneLine c (part member), trimmed, ?_⟩
  intro opening opened
  have opens := classify_eq_opening_iff.mp opened
  rw [toList_entryText] at opens
  have again := Opening.read?_eq_some_iff.mpr (spelled.respace named opens)
  simp [unread] at again

/-- A group that was read from lines can be written. -/
theorem group_writable {source : Option String} {lines : List String} {blocks : List Block}
    {block : Block} {group : Group} (oneLine : ∀ text ∈ lines, OneLine text.toList)
    (spelled : SpellsBlocks lines blocks) (member : block ∈ blocks)
    (given : block.Gives source group)
    : Group.Writable group := by
  obtain ⟨text, found, opened⟩ := spelled.line_mem member (List.mem_cons_self)
  have whole := oneLine text found
  obtain ⟨front, beforeSign, beforeBase, beforeLabel, ending, -, -, -, -, eq, named, -, digits, -,
    first, middle, last, -, -, -, -, qualifies⟩ := classify_eq_opening_iff.mp opened
  refine ⟨given.name ▸ named, readBase_nonneg digits given.base, ?_, given.qualifier ▸ qualifies,
    ?_, ?_⟩
  · intro c inside
    apply whole
    rw [given.label] at inside
    rw [eq]
    simp [inside]
  · intro entry inside
    rw [given.entries] at inside
    have spoken : (entry.line, Line.entry entry.tag entry.message) ∈ block.lines :=
      List.mem_cons_of_mem _ (List.mem_append_left _ (List.mem_map.mpr ⟨entry, inside, rfl⟩))
    obtain ⟨text, found, said⟩ := spelled.line_mem member spoken
    exact entry_writable (oneLine text found) said
  · rw [given.entries]
    exact spelled.tags block member

/-- What is read from any text can be written. -/
theorem representable_of_parseText {source : Option String} {text : String} {groups : List Group}
    (h : parseText source text = .ok groups)
    : Representable groups := by
  obtain ⟨blocks, spelled, gives⟩ := parseLines_eq_iff.mp (parseText_eq_ok_iff.mp h)
  have oneLine : ∀ line ∈ (splitLines text.toList).map String.ofList, OneLine line.toList := by
    intro line member
    obtain ⟨chars, found, eq⟩ := List.mem_map.mp member
    rw [← eq, String.toList_ofList]
    exact oneLine_of_mem_splitLines found
  constructor
  · rw [names_of_gives gives]
    exact spelled.names
  · intro group member
    obtain ⟨block, found, given⟩ := exists_block_of_mem gives member
    exact group_writable oneLine spelled found given

theorem unplaced_placeEntries (line : Nat) (entries : List Entry)
    : (placeEntries line entries).map (fun entry => { entry with line := 0 })
      = entries.map fun entry => { entry with line := 0 } := by
  induction entries generalizing line with
  | nil => rfl
  | cons entry rest ih => simp [placeEntries, ih]

theorem unplaced_placeGroup (source : Option String) (line : Nat) (group : Group)
    : unplaced (placeGroup source line group) = unplaced group := by
  simp [unplaced, placeGroup, unplaced_placeEntries]

/-- Placing groups changes only where they were read, by induction on the groups. -/
theorem unplaced_placeGroups (source : Option String) (line : Nat) (groups : List Group)
    : (placeGroups source line groups).map unplaced = groups.map unplaced := by
  induction groups generalizing line with
  | nil => rfl
  | cons group rest ih => simp [placeGroups, unplaced_placeGroup, ih]

/-- The canonical text of groups that can be written is read as these groups, with the lines at
which they were written. All groups that are read from a text can be written, and reading what is
written for them changes nothing but where they were read.
-/
theorem parseText_roundTrip
    : (∀ source groups, Representable groups
        → parseText source (write groups) = .ok (placeGroups source 1 groups))
      ∧ ∀ source text groups, parseText source text = .ok groups
        → Representable groups
          ∧ ∀ other, ∃ again, parseText other (write groups) = .ok again
            ∧ again.map unplaced = groups.map unplaced := by
  refine ⟨fun source groups => parseText_write source, ?_⟩
  intro source text groups read
  have representable := representable_of_parseText read
  refine ⟨representable, fun other => ⟨_, parseText_write other representable, ?_⟩⟩
  exact unplaced_placeGroups other 1 groups

/-- A group whose label holds a quote and a brace, and whose messages look like the start of an
opening and end in a brace.
-/
def bracedGroup : Group := {
  name := "g", base := 256, label := "a \" Q \x7b", qualifier := some "Q::R", line := 1
  entries := [⟨"A", "= 1 \"b\" \x7b c", 2⟩, ⟨"B_2", "", 5⟩, ⟨"C", "block \x7b", 6⟩] }

/-- A text of this group that is not in canonical form. -/
def bracedText : String :=
  "g=0x100\"a \" Q \x7b\"Q::R\x7b\nA\t= 1 \"b\" \x7b c \n\n#\nB_2\rC block \x7b\n\x7d"

/-- The group is read from its canonical text and from another one, and can be written again. -/
theorem parseText_roundTrip_braces
    : Representable [bracedGroup]
      ∧ parseText none (write [bracedGroup]) = .ok (placeGroups none 1 [bracedGroup])
      ∧ parseText none bracedText = .ok [bracedGroup]
      ∧ ∃ again, parseText none (write [bracedGroup]) = .ok again
          ∧ again.map unplaced = [bracedGroup].map unplaced := by
  have writable : Group.Writable bracedGroup := {
    name := rfl
    base := by decide
    label := by decide
    qualifier := by
      intro qualifier h
      cases h
      rfl
    entries := by
      have oneLine : ∀ entry ∈ bracedGroup.entries, OneLine entry.message.toList := by decide
      simp only [bracedGroup, List.forall_mem_cons] at oneLine ⊢
      refine ⟨⟨rfl, oneLine.1, rfl, ?_⟩, ⟨rfl, oneLine.2.1, rfl, ?_⟩,
        ⟨rfl, oneLine.2.2.1, rfl, ?_⟩, by simp⟩
      all_goals
        intro opening h
        cases h
    tags := by decide
  }
  have representable : Representable [bracedGroup] := ⟨by simp, by simpa using writable⟩
  have read : parseText none bracedText = .ok [bracedGroup] := rfl
  exact ⟨representable, parseText_roundTrip.1 none _ representable, read,
    (parseText_roundTrip.2 none bracedText _ read).2 none⟩

end ErrorTables.Definition
