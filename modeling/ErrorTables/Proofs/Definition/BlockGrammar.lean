import ErrorTables.Definition.Parser
import Mathlib

/-! The grammar of definition files: blocks of an opening, entries and a closing line.
A list of lines is read without an error exactly if its significant lines form blocks with readable
bases, distinct names and, in each block, distinct tags; the groups that are read are those blocks.
-/

namespace ErrorTables.Definition

-----------------------------------------------------------------------------------------
-- Blocks
-----------------------------------------------------------------------------------------

/-- The lines of one group, each with its number: an opening, entries and a closing line. -/
structure Block where
  opening : Opening
  openedAt : Nat
  entries : List Entry
  closedAt : Nat
  deriving DecidableEq, Repr

/-- The line that gives an entry, behind its number. -/
def entryLine (entry : Entry) : Nat × Line :=
  (entry.line, .entry entry.tag entry.message)

/-- The lines of a block in order. -/
def Block.lines (block : Block) : List (Nat × Line) :=
  (block.openedAt, .opening block.opening)
    :: (block.entries.map entryLine ++ [(block.closedAt, .closing)])

/-- What the lines say, each behind its number, without the lines that are ignored. -/
def significant (numbered : List (String × Nat)) : List (Nat × Line) :=
  numbered.filterMap fun (text, number) =>
    match Line.classify text with
    | .ok .ignored => none
    | .ok line => some (number, line)
    | .error _ => none

/-- The lines say something each, and what they say is the blocks one after the other. The bases of
the blocks can be read, their names are distinct, and so are the tags inside each.
-/
structure SpellsBlocks (lines : List String) (blocks : List Block) : Prop where
  classified : ∀ text ∈ lines, ∃ line, Line.classify text = .ok line
  spelled : significant (lines.zipIdx 1) = blocks.flatMap Block.lines
  bases : ∀ block ∈ blocks, ∃ base, readBase block.opening.base = .ok base
  names : (blocks.map (·.opening.name)).Nodup
  tags : ∀ block ∈ blocks, (block.entries.map (·.tag)).Nodup

/-- What is said with a number is said by a line with that number. -/
theorem mem_significant {numbered : List (String × Nat)} {number : Nat} {line : Line}
    (member : (number, line) ∈ significant numbered)
    : ∃ text, (text, number) ∈ numbered ∧ Line.classify text = .ok line := by
  obtain ⟨⟨text, place⟩, found, eq⟩ := List.mem_filterMap.mp member
  dsimp only at eq
  split at eq
  · contradiction
  · rename_i said
    obtain ⟨rfl, rfl⟩ := Prod.mk.inj (Option.some.inj eq)
    exact ⟨text, found, said⟩
  · contradiction

theorem SpellsBlocks.line_mem {lines : List String} {blocks : List Block}
    (h : SpellsBlocks lines blocks) {block : Block} (found : block ∈ blocks) {number : Nat}
    {line : Line} (member : (number, line) ∈ block.lines)
    : ∃ text ∈ lines, Line.classify text = .ok line := by
  have spoken : (number, line) ∈ significant (lines.zipIdx 1) := by
    rw [h.spelled]
    exact List.mem_flatMap.mpr ⟨block, found, member⟩
  obtain ⟨text, place, said⟩ := mem_significant spoken
  exact ⟨text, List.fst_mem_of_mem_zipIdx place, said⟩

/-- The group is what the block says, read from the source. -/
structure Block.Gives (source : Option String) (block : Block) (group : Group) : Prop where
  name : group.name = block.opening.name
  base : readBase block.opening.base = .ok group.base
  label : group.label = block.opening.label
  qualifier : group.qualifier = block.opening.qualifier
  entries : group.entries = block.entries
  source : group.source = source
  line : group.line = block.openedAt

theorem names_of_gives {source : Option String} {blocks : List Block} {groups : List Group}
    (gives : List.Forall₂ (Block.Gives source) blocks groups)
    : groups.map (·.name) = blocks.map (·.opening.name) := by
  induction gives with
  | nil => rfl
  | cons given _ ih => simp [given.name, ih]

theorem exists_block_of_mem {source : Option String} {blocks : List Block} {groups : List Group}
    {group : Group} (gives : List.Forall₂ (Block.Gives source) blocks groups)
    (member : group ∈ groups)
    : ∃ block ∈ blocks, block.Gives source group := by
  induction gives with
  | nil => simp at member
  | @cons block _ rest _ given _ ih =>
      rcases List.mem_cons.mp member with same | later
      · exact ⟨block, by simp, same ▸ given⟩
      · obtain ⟨other, found, given⟩ := ih later
        exact ⟨other, by simp [found], given⟩

-----------------------------------------------------------------------------------------
-- What may follow in a state of the reader
-----------------------------------------------------------------------------------------

/-- Outside of a group, the lines ahead are blocks that define the groups, under names that have
not been taken before.
-/
def FollowsGroups (source : Option String) (names : List String) (ahead : List (Nat × Line))
    (groups : List Group)
    : Prop :=
  ∃ blocks : List Block,
    ahead = blocks.flatMap Block.lines
    ∧ List.Forall₂ (Block.Gives source) blocks groups
    ∧ (blocks.map (·.opening.name)).Nodup
    ∧ (∀ block ∈ blocks, block.opening.name ∉ names)
    ∧ ∀ block ∈ blocks, (block.entries.map (·.tag)).Nodup

/-- Inside a group, the lines ahead complete it by entries whose tags it does not have yet and by a
closing line, and go on with blocks.
-/
def CompletesGroup (source : Option String) (names : List String) (group : Group)
    (ahead : List (Nat × Line)) (groups : List Group)
    : Prop :=
  ∃ entries closedAt after more,
    ahead = entries.map entryLine ++ (closedAt, .closing) :: after
    ∧ groups = { group with entries := group.entries ++ entries } :: more
    ∧ (entries.map (·.tag)).Nodup
    ∧ (∀ entry ∈ entries, entry.tag ∉ group.entries.map (·.tag))
    ∧ FollowsGroups source names after more

/-- The lines ahead of a state of the reader take it to the end and define the groups. -/
def Completes (source : Option String) (state : ParserState) (ahead : List (Nat × Line))
    (groups : List Group)
    : Prop :=
  match state.current with
  | none => FollowsGroups source state.names ahead groups
  | some group => CompletesGroup source state.names group ahead groups

section Follows

variable {source : Option String} {names : List String} {number : Nat} {opening : Opening}
  {group : Group} {tag message : String} {ahead : List (Nat × Line)} {groups : List Group}

theorem followsGroups_nil : FollowsGroups source names [] groups ↔ groups = [] := by
  constructor
  · intro held
    obtain ⟨blocks, spelled, gives, -⟩ := held
    cases gives with
    | nil => rfl
    | cons => simp [Block.lines] at spelled
  · intro same
    subst same
    exact ⟨[], rfl, .nil, by simp, by simp, by simp⟩

/-- Outside of a group, only an opening can come next. -/
theorem followsGroups_cons {line : Line}
    (h : FollowsGroups source names ((number, line) :: ahead) groups)
    : ∃ opening, line = .opening opening := by
  obtain ⟨blocks, spelled, -⟩ := h
  cases blocks with
  | nil => simp at spelled
  | cons block rest =>
      simp only [List.flatMap_cons, Block.lines, List.cons_append, List.cons.injEq,
        Prod.mk.injEq] at spelled
      exact ⟨block.opening, spelled.1.2⟩

/-- An opening outside of a group takes a new name and a readable base, and the lines behind it
complete the group that it opens.
-/
theorem followsGroups_opening
    : FollowsGroups source names ((number, .opening opening) :: ahead) groups
      ↔ opening.name ∉ names ∧ ∃ base, readBase opening.base = .ok base
        ∧ CompletesGroup source (opening.name :: names)
            { name := opening.name, base, label := opening.label
              qualifier := opening.qualifier, source, line := number }
            ahead groups := by
  constructor
  · intro held
    obtain ⟨blocks, spelled, gives, distinct, fresh, tags⟩ := held
    cases gives with
    | nil => simp at spelled
    | @cons block group blocks more given gives =>
        simp only [List.flatMap_cons, Block.lines, List.cons_append, List.append_assoc,
          List.cons.injEq, Prod.mk.injEq, Line.opening.injEq] at spelled
        obtain ⟨⟨rfl, rfl⟩, rfl⟩ := spelled
        -- The first block is the group that opens here; the others must avoid its name.
        simp only [List.map_cons, List.nodup_cons, List.mem_map, not_exists, not_and] at distinct
        refine ⟨fresh block (by simp), group.base, given.base, block.entries, block.closedAt,
          blocks.flatMap Block.lines, more, rfl, ?_, tags block (by simp), by simp, blocks, rfl,
          gives, distinct.2, ?_, fun other member => tags other (by simp [member])⟩
        · obtain ⟨name, -, label, qualifier, entries, source, line⟩ := given
          cases group
          simp_all
        · intro other member
          simp [distinct.1 other member, fresh other (by simp [member])]
  · intro held
    obtain ⟨fresh, base, read, entries, closedAt, after, more, rfl, rfl, distinct, -, blocks, rfl,
      gives, names_distinct, names_fresh, tags⟩ := held
    refine ⟨⟨opening, number, entries, closedAt⟩ :: blocks, ?_, .cons ⟨rfl, read, rfl, rfl, rfl,
      rfl, rfl⟩ gives, ?_, ?_, ?_⟩
    · simp [Block.lines]
    · simp only [List.map_cons, List.nodup_cons, List.mem_map, not_exists, not_and]
      refine ⟨fun other member same => ?_, names_distinct⟩
      exact names_fresh other member (by simp [same])
    · simp only [List.mem_cons, forall_eq_or_imp]
      exact ⟨fresh, fun other member taken => names_fresh other member (by simp [taken])⟩
    · simp only [List.mem_cons, forall_eq_or_imp]
      exact ⟨distinct, tags⟩

theorem not_completesGroup_nil : ¬ CompletesGroup source names group [] groups := by
  intro held
  obtain ⟨entries, closedAt, after, more, spelled, -⟩ := held
  simp at spelled

theorem not_completesGroup_opening
    : ¬ CompletesGroup source names group ((number, .opening opening) :: ahead) groups := by
  intro held
  obtain ⟨entries, closedAt, after, more, spelled, -⟩ := held
  cases entries <;> simp [entryLine] at spelled

/-- An entry inside a group has a new tag, and the lines behind it complete the group with it. -/
theorem completesGroup_entry
    : CompletesGroup source names group ((number, .entry tag message) :: ahead) groups
      ↔ tag ∉ group.entries.map (·.tag)
        ∧ CompletesGroup source names
            { group with entries := group.entries ++ [⟨tag, message, number⟩] } ahead groups := by
  constructor
  · intro held
    obtain ⟨entries, closedAt, after, more, spelled, rfl, distinct, fresh, follows⟩ := held
    cases entries with
    | nil => simp at spelled
    | cons entry entries =>
        simp only [List.map_cons, entryLine, List.cons_append, List.cons.injEq, Prod.mk.injEq,
          Line.entry.injEq] at spelled
        obtain ⟨⟨rfl, rfl, rfl⟩, rfl⟩ := spelled
        simp only [List.map_cons, List.nodup_cons, List.mem_map, not_exists, not_and] at distinct
        refine ⟨fresh entry (by simp), entries, closedAt, after, more, rfl, by simp, distinct.2,
          ?_, follows⟩
        intro other member
        have old := fresh other (by simp [member])
        have new := distinct.1 other member
        simp_all
  · intro held
    obtain ⟨fresh, entries, closedAt, after, more, rfl, rfl, distinct, others, follows⟩ := held
    refine ⟨⟨tag, message, number⟩ :: entries, closedAt, after, more, rfl, by simp, ?_, ?_,
      follows⟩
    · simp only [List.map_cons, List.nodup_cons, List.mem_map, not_exists, not_and]
      refine ⟨fun other member same => ?_, distinct⟩
      exact others other member (by simp [same])
    · simp only [List.mem_cons, forall_eq_or_imp]
      exact ⟨fresh, fun other member taken => others other member (by simp_all)⟩

/-- A closing line inside a group ends it as it is, and blocks follow. -/
theorem completesGroup_closing
    : CompletesGroup source names group ((number, .closing) :: ahead) groups
      ↔ ∃ more, groups = group :: more ∧ FollowsGroups source names ahead more := by
  constructor
  · intro held
    obtain ⟨entries, closedAt, after, more, spelled, rfl, -, -, follows⟩ := held
    cases entries with
    | nil =>
        simp only [List.map_nil, List.nil_append, List.cons.injEq] at spelled
        exact ⟨more, by simp, spelled.2 ▸ follows⟩
    | cons => simp [entryLine] at spelled
  · intro held
    obtain ⟨more, rfl, follows⟩ := held
    exact ⟨[], number, ahead, more, rfl, by simp, by simp, by simp, follows⟩

end Follows

-----------------------------------------------------------------------------------------
-- One line
-----------------------------------------------------------------------------------------

/-- The reader goes from one state to the next by what the line with the number says, and closes a
group or none. There is no other way for it to go on.
-/
inductive ParserState.TakesIn (source : Option String) (number : Nat)
    : ParserState → Line → ParserState → Option Group → Prop
  | ignored {state} : TakesIn source number state .ignored state none
  | opening {names opening base} (fresh : opening.name ∉ names)
    (read : readBase opening.base = .ok base)
    : TakesIn source number ⟨names, none⟩ (.opening opening)
        ⟨opening.name :: names, some {
          name := opening.name, base, label := opening.label
          qualifier := opening.qualifier, source, line := number }⟩
        none
  | entry {names group tag message} (fresh : tag ∉ group.entries.map (·.tag))
    : TakesIn source number ⟨names, some group⟩ (.entry tag message)
        ⟨names, some { group with entries := group.entries ++ [⟨tag, message, number⟩] }⟩ none
  | closing {names group}
    : TakesIn source number ⟨names, some group⟩ .closing ⟨names, none⟩ (some group)

section Reading

variable {source : Option String} {state next : ParserState} {closed : Option Group}
  {number count : Nat} {text : String} {line : Line} {rest : List String} {groups : List Group}

/-- A step succeeds exactly if the line says something that the state can take in. -/
theorem step_eq_ok_iff
    : state.step source number text = .ok (next, closed)
      ↔ ∃ line, Line.classify text = .ok line ∧ state.TakesIn source number line next closed := by
  obtain ⟨names, current⟩ := state
  constructor
  · intro h
    cases said : Line.classify text with
    | error unknown => simp [ParserState.step, said] at h
    | ok line =>
        refine ⟨line, rfl, ?_⟩
        cases line with
        | ignored =>
            simp only [ParserState.step, said, Except.ok.injEq, Prod.mk.injEq] at h
            obtain ⟨rfl, rfl⟩ := h
            exact .ignored
        | opening opening =>
            cases current with
            | some group =>
                simp [ParserState.step, said, ParserState.openGroup, Except.map] at h
            | none =>
                simp only [ParserState.step, said, ParserState.openGroup] at h
                split at h
                · simp [Except.map] at h
                · rename_i fresh
                  split at h
                  · simp [Except.map] at h
                  · rename_i base read
                    simp only [Except.map, Except.ok.injEq, Prod.mk.injEq] at h
                    obtain ⟨rfl, rfl⟩ := h
                    exact .opening fresh read
        | entry tag message =>
            cases current with
            | none =>
                simp only [ParserState.step, said, ParserState.addEntry] at h
                split at h <;> simp [Except.map] at h
            | some group =>
                simp only [ParserState.step, said, ParserState.addEntry] at h
                split at h
                · simp [Except.map] at h
                · rename_i fresh
                  simp only [Except.map, Except.ok.injEq, Prod.mk.injEq] at h
                  obtain ⟨rfl, rfl⟩ := h
                  exact .entry fresh
        | closing =>
            cases current with
            | none => simp [ParserState.step, said] at h
            | some group =>
                simp only [ParserState.step, said, Except.ok.injEq, Prod.mk.injEq] at h
                obtain ⟨rfl, rfl⟩ := h
                exact .closing
  · intro held
    obtain ⟨line, said, taken⟩ := held
    cases taken with
    | ignored => simp [ParserState.step, said]
    | opening fresh read =>
        simp [ParserState.step, said, ParserState.openGroup, fresh, read, Except.map]
    | entry fresh =>
        simp only [ParserState.step, said, ParserState.addEntry, fresh, if_false, Except.map]
    | closing => simp [ParserState.step, said]

/-- The lines ahead complete a state exactly if it can take in the first of them and the others
complete the state after it.
-/
theorem completes_cons_iff {ahead : List (Nat × Line)} (said : line ≠ .ignored)
    : Completes source state ((number, line) :: ahead) groups
      ↔ ∃ next closed more, state.TakesIn source number line next closed
        ∧ groups = closed.toList ++ more ∧ Completes source next ahead more := by
  obtain ⟨names, current⟩ := state
  constructor
  · intro h
    cases current with
    | none =>
        obtain ⟨opening, rfl⟩ := followsGroups_cons h
        obtain ⟨fresh, base, read, completes⟩ := followsGroups_opening.mp h
        exact ⟨_, _, groups, .opening fresh read, rfl, completes⟩
    | some group =>
        cases line with
        | ignored => contradiction
        | opening opening => exact (not_completesGroup_opening h).elim
        | entry tag message =>
            obtain ⟨fresh, completes⟩ := completesGroup_entry.mp h
            exact ⟨_, _, groups, .entry fresh, rfl, completes⟩
        | closing =>
            obtain ⟨more, rfl, follows⟩ := completesGroup_closing.mp h
            exact ⟨_, _, more, .closing, rfl, follows⟩
  · intro held
    obtain ⟨next, closed, more, taken, rfl, completes⟩ := held
    cases taken with
    | ignored => contradiction
    | opening fresh read => exact followsGroups_opening.mpr ⟨fresh, _, read, completes⟩
    | entry fresh => exact completesGroup_entry.mpr ⟨fresh, completes⟩
    | closing => exact completesGroup_closing.mpr ⟨more, rfl, completes⟩

theorem completes_nil_iff
    : Completes source state [] groups ↔ state.current = none ∧ groups = [] := by
  cases current : state.current with
  | none => simp [Completes, current, followsGroups_nil]
  | some group => simp [Completes, current, not_completesGroup_nil]

-----------------------------------------------------------------------------------------
-- All lines
-----------------------------------------------------------------------------------------

theorem significant_ignored {numbered : List (String × Nat)}
    (said : Line.classify text = .ok .ignored)
    : significant ((text, number) :: numbered) = significant numbered := by
  simp [significant, said]

theorem significant_cons {numbered : List (String × Nat)}
    (said : Line.classify text = .ok line) (kept : line ≠ .ignored)
    : significant ((text, number) :: numbered) = (number, line) :: significant numbered := by
  cases line <;> simp_all [significant]

theorem significant_append (first second : List (String × Nat))
    : significant (first ++ second) = significant first ++ significant second :=
  List.filterMap_append

theorem parseFrom_nil_iff
    : parseFrom source state count [] = { groups } ↔ state.current = none ∧ groups = [] := by
  cases current : state.current <;> simp [parseFrom, current, eq_comm]

/-- Reading takes a step at the first line, adds the group that it closes, and reads on. -/
theorem parseFrom_cons_iff
    : parseFrom source state count (text :: rest) = { groups }
      ↔ ∃ next closed more, state.step source (count + 1) text = .ok (next, closed)
        ∧ groups = closed.toList ++ more
        ∧ parseFrom source next (count + 1) rest = { groups := more } := by
  cases stepped : state.step source (count + 1) text with
  | error problem => simp [parseFrom, stepped]
  | ok result =>
      obtain ⟨next, closed⟩ := result
      cases read : parseFrom source next (count + 1) rest with
      | mk more error =>
          simp only [parseFrom, stepped, read, Parse.mk.injEq]
          constructor
          · intro held
            obtain ⟨rfl, rfl⟩ := held
            exact ⟨next, closed, more, rfl, rfl, read⟩
          · intro held
            obtain ⟨_, _, _, same, rfl, again⟩ := held
            cases same
            cases read.symm.trans again
            exact ⟨rfl, rfl⟩

/-- Reading from a state ends without an error exactly if every line says something and what the
lines say completes the state, by induction on the lines.
-/
theorem parseFrom_eq_iff {lines : List String}
    : parseFrom source state count lines = { groups }
      ↔ (∀ text ∈ lines, ∃ line, Line.classify text = .ok line)
        ∧ Completes source state (significant (lines.zipIdx (count + 1))) groups := by
  induction lines generalizing state count groups with
  | nil => simp [parseFrom_nil_iff, significant, completes_nil_iff]
  | cons text rest ih =>
      rw [parseFrom_cons_iff]
      simp only [step_eq_ok_iff, ih, List.zipIdx_cons, List.forall_mem_cons]
      constructor
      · intro held
        obtain ⟨next, closed, more, ⟨line, said, taken⟩, rfl, classified, completes⟩ := held
        refine ⟨⟨⟨line, said⟩, classified⟩, ?_⟩
        -- An ignored line leaves the state alone and is not among the significant ones.
        by_cases ignored : line = .ignored
        · subst ignored
          cases taken
          simpa [significant_ignored said] using completes
        · rw [significant_cons said ignored, completes_cons_iff ignored]
          exact ⟨next, closed, more, taken, rfl, completes⟩
      · intro held
        obtain ⟨⟨⟨line, said⟩, classified⟩, completes⟩ := held
        by_cases ignored : line = .ignored
        · subst ignored
          rw [significant_ignored said] at completes
          exact ⟨state, none, groups, ⟨_, said, .ignored⟩, rfl, classified, completes⟩
        · rw [significant_cons said ignored, completes_cons_iff ignored] at completes
          obtain ⟨next, closed, more, taken, eq, completes⟩ := completes
          exact ⟨next, closed, more, ⟨line, said, taken⟩, eq, classified, completes⟩

end Reading

/-- Blocks say groups exactly if all their bases can be read, by induction on the blocks. -/
theorem exists_gives_iff {source : Option String} {blocks : List Block}
    : (∃ groups, List.Forall₂ (Block.Gives source) blocks groups)
      ↔ ∀ block ∈ blocks, ∃ base, readBase block.opening.base = .ok base := by
  induction blocks with
  | nil => simp
  | cons block rest ih =>
      rw [List.forall_mem_cons, ← ih]
      constructor
      · intro held
        obtain ⟨_, gives⟩ := held
        cases gives with
        | cons given gives => exact ⟨⟨_, given.base⟩, _, gives⟩
      · intro held
        obtain ⟨⟨base, read⟩, groups, gives⟩ := held
        refine ⟨{ name := block.opening.name, base, label := block.opening.label
                  qualifier := block.opening.qualifier, entries := block.entries
                  source, line := block.openedAt } :: groups, .cons ?_ gives⟩
        exact ⟨rfl, read, rfl, rfl, rfl, rfl, rfl⟩

/-- Reading finds exactly the groups that blocks say, if the lines spell blocks out. -/
theorem parseLines_eq_iff {source : Option String} {lines : List String} {groups : List Group}
    : parseLines source lines = { groups }
      ↔ ∃ blocks, SpellsBlocks lines blocks ∧ List.Forall₂ (Block.Gives source) blocks groups := by
  rw [parseLines, parseFrom_eq_iff]
  constructor
  · intro held
    obtain ⟨classified, blocks, spelled, gives, names, -, tags⟩ := held
    exact ⟨blocks, ⟨classified, spelled, exists_gives_iff.mp ⟨groups, gives⟩, names, tags⟩, gives⟩
  · intro held
    obtain ⟨blocks, ⟨classified, spelled, -, names, tags⟩, gives⟩ := held
    exact ⟨classified, blocks, spelled, gives, names, by simp, tags⟩

/-- A list of lines is read without an error exactly if it spells blocks out, and then the groups
that are read are what the blocks say, one group for each block and in their order.
-/
theorem parseLines_reads_blocks (source : Option String) (lines : List String)
    : ((parseLines source lines).error = none ↔ ∃ blocks, SpellsBlocks lines blocks)
      ∧ ∀ blocks, SpellsBlocks lines blocks
        → List.Forall₂ (Block.Gives source) blocks (parseLines source lines).groups := by
  have accepted (blocks : List Block) (spelled : SpellsBlocks lines blocks)
      : ∃ groups, parseLines source lines = { groups }
        ∧ List.Forall₂ (Block.Gives source) blocks groups := by
    obtain ⟨groups, gives⟩ := exists_gives_iff.mpr spelled.bases
    exact ⟨groups, parseLines_eq_iff.mpr ⟨blocks, spelled, gives⟩, gives⟩
  refine ⟨⟨fun ended => ?_, fun ⟨blocks, spelled⟩ => ?_⟩, fun blocks spelled => ?_⟩
  · have read : parseLines source lines = { groups := (parseLines source lines).groups } := by
      cases result : parseLines source lines
      simp_all
    obtain ⟨blocks, spelled, -⟩ := parseLines_eq_iff.mp read
    exact ⟨blocks, spelled⟩
  · obtain ⟨groups, read, -⟩ := accepted blocks spelled
    rw [read]
  · obtain ⟨groups, read, gives⟩ := accepted blocks spelled
    rwa [read]

/-- Two blocks with a comment between them and the same tag in both are read as two groups. -/
theorem parseLines_reads_two_blocks
    : let lines := [ "a = 010 \"x\" Q \x7b", "A one", "\x7d", " # next", "b = 2 \"\" \x7b", "A",
        "\x7d" ]
      let blocks : List Block := [
        ⟨⟨"a", "010", "x", some "Q"⟩, 1, [⟨"A", "one", 2⟩], 3⟩,
        ⟨⟨"b", "2", "", none⟩, 5, [⟨"A", "", 6⟩], 7⟩ ]
      SpellsBlocks lines blocks
      ∧ List.Forall₂ (Block.Gives none) blocks (parseLines none lines).groups := by
  have spelled : SpellsBlocks
      ["a = 010 \"x\" Q \x7b", "A one", "\x7d", " # next", "b = 2 \"\" \x7b", "A", "\x7d"]
      [ ⟨⟨"a", "010", "x", some "Q"⟩, 1, [⟨"A", "one", 2⟩], 3⟩,
        ⟨⟨"b", "2", "", none⟩, 5, [⟨"A", "", 6⟩], 7⟩ ] := {
    classified := by
      simp only [List.mem_cons, List.not_mem_nil, or_false, forall_eq_or_imp, forall_eq]
      exact ⟨⟨_, rfl⟩, ⟨_, rfl⟩, ⟨_, rfl⟩, ⟨_, rfl⟩, ⟨_, rfl⟩, ⟨_, rfl⟩, ⟨_, rfl⟩⟩
    spelled := by rfl
    bases := by
      simp only [List.mem_cons, List.not_mem_nil, or_false, forall_eq_or_imp, forall_eq]
      exact ⟨⟨8, rfl⟩, ⟨2, rfl⟩⟩
    names := by decide
    tags := by decide
  }
  exact ⟨spelled, (parseLines_reads_blocks none _).2 _ spelled⟩

end ErrorTables.Definition
