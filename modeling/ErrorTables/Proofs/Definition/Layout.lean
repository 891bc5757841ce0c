import ErrorTables.Proofs.Definition.EarliestError
import ErrorTables.Proofs.Definition.Padding

/-! The layout of a definition does not matter. Blanks around lines and lines that are ignored
change nothing but the numbers of the lines: the same groups are read, and reading ends in the same
way.
-/

namespace ErrorTables

-----------------------------------------------------------------------------------------
-- Other numbers for the lines
-----------------------------------------------------------------------------------------

/-- The group with other numbers for its lines. -/
def Group.renumber (place : Nat → Nat) (group : Group) : Group := {
  group with
  line := place group.line
  entries := group.entries.map fun entry => { entry with line := place entry.line } }

namespace Definition

open Text

/-- The problem with another number for the line that it names. -/
def Problem.renumber (place : Nat → Nat) : Problem → Problem
  | .unclosedGroup name openedAt => .unclosedGroup name (place openedAt)
  | problem => problem

/-- The error with other numbers for its line and the one that its problem names. -/
def ParseError.renumber (place : Nat → Nat) (error : ParseError) : ParseError :=
  { error with problem := error.problem.renumber place, line := place error.line }

/-- The state with other numbers for the lines of the open group, and with more names taken. -/
def ParserState.renumber (place : Nat → Nat) (taken : List String) (state : ParserState)
    : ParserState where
  names := state.names ++ taken
  current := state.current.map (Group.renumber place)

section Steps

variable {source : Option String} {state next last : ParserState} {closed : Option Group}
  {number count : Nat} {text : String} {problem : Problem} {place : Nat → Nat}
  {taken : List String} {lines : List String} {groups : List Group}

theorem tags_renumber (place : Nat → Nat) (group : Group)
    : (group.renumber place).entries.map (·.tag) = group.entries.map (·.tag) := by
  simp [Group.renumber, Function.comp_def]

/-- A group is opened under other numbers as it is under its own, unless its name is one that only
the state with these numbers has taken.
-/
theorem openGroup_renumber {opening : Opening}
    (fresh : state.current = none → opening.name ∉ taken)
    : (state.renumber place taken).openGroup source (place number) opening
      = ((state.openGroup source number opening).map (·.renumber place taken)).mapError
        (Problem.renumber place) := by
  obtain ⟨names, current⟩ := state
  cases current with
  | some group => rfl
  | none =>
      have new := fresh rfl
      by_cases known : opening.name ∈ names
      · simp [ParserState.renumber, ParserState.openGroup, known, Except.map, Except.mapError,
          Problem.renumber]
      · cases base : readBase opening.base with
        | error fault =>
            simp [ParserState.renumber, ParserState.openGroup, known, new, base, Except.map,
              Except.mapError, Problem.renumber]
        | ok base =>
            simp [ParserState.renumber, ParserState.openGroup, known, new, base, Except.map,
              Except.mapError, Group.renumber]

/-- An entry is added under other numbers as it is under its own. -/
theorem addEntry_renumber {tag message : String}
    : (state.renumber place taken).addEntry (place number) text tag message
      = ((state.addEntry number text tag message).map (·.renumber place taken)).mapError
        (Problem.renumber place) := by
  obtain ⟨names, current⟩ := state
  cases current with
  | none =>
      simp only [ParserState.renumber, ParserState.addEntry, Option.map_none]
      split <;> rfl
  | some group =>
      simp only [ParserState.renumber, ParserState.addEntry, Option.map_some, tags_renumber]
      split
      · rfl
      · simp [Except.map, Except.mapError, Group.renumber]

/-- A line is taken in under other numbers as it is under its own, unless it opens a group whose
name is one that only the state with these numbers has taken.
-/
theorem step_renumber
    (fresh : ∀ opening, Line.classify text = .ok (.opening opening) → state.current = none →
      opening.name ∉ taken)
    : (state.renumber place taken).step source (place number) text
      = ((state.step source number text).map fun (next, closed) =>
          (next.renumber place taken, closed.map (Group.renumber place))).mapError
            (Problem.renumber place) := by
  cases said : Line.classify text with
  | error unknown => simp [ParserState.step, said, Except.map, Except.mapError, Problem.renumber]
  | ok line =>
      cases line with
      | ignored => simp [ParserState.step, said, Except.map, Except.mapError]
      | opening opening =>
          simp only [ParserState.step, said, openGroup_renumber (fresh opening said)]
          cases state.openGroup source number opening <;> rfl
      | entry tag message =>
          simp only [ParserState.step, said, addEntry_renumber]
          cases state.addEntry number text tag message <;> rfl
      | closing =>
          obtain ⟨names, current⟩ := state
          cases current <;> simp only [ParserState.step, said] <;> rfl

/-- What a line does is decided by its trimmed text. -/
theorem step_congr {other : String} (same : trim text.toList = trim other.toList)
    : state.step source number text = state.step source number other := by
  simp only [ParserState.step, ParserState.addEntry, classify_congr same, same]

theorem step_of_remark (remark : IsRemark text)
    : state.step source number text = .ok (state, none) := by
  rw [ParserState.step, classify_eq_ignored_iff.mpr remark]

/-- A line that is taken in gives no name up, and takes the name of the group that it opens. -/
theorem names_of_step (stepped : state.step source number text = .ok (next, closed))
    : state.names ⊆ next.names
      ∧ ∀ opening, Line.classify text = .ok (.opening opening) → opening.name ∈ next.names := by
  obtain ⟨line, said, taken⟩ := step_eq_ok_iff.mp stepped
  rw [said]
  cases taken with
  | ignored => simp
  | opening fresh read => simp
  | entry fresh => simp
  | closing => simp

theorem ParserState.Reads.names_subset (h : state.Reads source count lines groups last)
    : state.names ⊆ last.names := by
  induction h with
  | nil => exact List.Subset.refl _
  | cons stepped _ ih => exact List.Subset.trans (names_of_step stepped).1 ih

/-- Without an error, or at the end of the lines inside a group, all lines are taken in. -/
theorem parseLines_of_reads (h : ParserState.Reads source {} 0 lines groups last)
    : parseLines source lines
      = { groups
          error := last.current.map fun group =>
            ⟨.unclosedGroup group.name group.line, source, lines.length⟩ } := by
  have whole := h.parseFrom_append []
  rw [List.append_nil, ← parseLines, Nat.zero_add] at whole
  cases current : last.current <;> simpa [parseFrom, current] using whole

end Steps

-----------------------------------------------------------------------------------------
-- Lines laid out anew
-----------------------------------------------------------------------------------------

/-- Lines that come behind a number of others, and the same lines laid out anew behind another
number of others: blanks are put around each line and lines that say nothing are put in anywhere,
which gives each line the number that `place` says.
-/
inductive Relaid (place : Nat → Nat) : Nat → Nat → List String → List String → Prop
  | nil {count behind} : Relaid place count behind [] []
  | inserted {count behind text lines relaid} (remark : IsRemark text)
    (rest : Relaid place count (behind + 1) lines relaid)
    : Relaid place count behind lines (text :: relaid)
  | kept {count behind front text back lines relaid} (hf : AllBlank front.toList)
    (hb : AllBlank back.toList) (placed : place (count + 1) = behind + 1)
    (rest : Relaid place (count + 1) (behind + 1) lines relaid)
    : Relaid place count behind (text :: lines) ((front ++ text ++ back) :: relaid)

section Relaying

variable {source : Option String} {place : Nat → Nat} {taken : List String}
  {state next last : ParserState} {count behind number : Nat}
  {lines relaid before after : List String} {bad : String} {groups : List Group}

theorem trim_padded {front text back : String} (hf : AllBlank front.toList)
    (hb : AllBlank back.toList)
    : trim (front ++ text ++ back).toList = trim text.toList := by
  rw [String.toList_append, String.toList_append, trim_pad hf hb]

/-- Lines that stay as they are may come in front of a layout, by induction on them. -/
theorem Relaid.keep {rest : List String} (placed : ∀ index < lines.length,
      place (count + index + 1) = behind + index + 1)
    (h : Relaid place (count + lines.length) (behind + lines.length) rest relaid)
    : Relaid place count behind (lines ++ rest) (lines ++ relaid) := by
  induction lines generalizing count behind with
  | nil => exact h
  | cons text lines ih =>
      have unpadded : "" ++ text ++ "" = text := by simp
      have onward : Relaid place (count + 1) (behind + 1) (lines ++ rest) (lines ++ relaid) := by
        refine ih (fun index inside => ?_) ?_
        · have next := placed (index + 1) (by simpa using inside)
          rw [show count + 1 + index + 1 = count + (index + 1) + 1 by omega, next]
          omega
        · simpa only [List.length_cons, Nat.add_assoc, Nat.add_comm 1] using h
      have kept : Relaid place count behind (text :: (lines ++ rest))
          (("" ++ text ++ "") :: (lines ++ relaid)) :=
        .kept (by decide) (by decide) (placed 0 (by simp)) onward
      rwa [unpadded] at kept

/-- Remarks may come in front of a layout, by induction on them. -/
theorem Relaid.insert {added : List String} (remarks : ∀ text ∈ added, IsRemark text)
    (h : Relaid place count (behind + added.length) lines relaid)
    : Relaid place count behind lines (added ++ relaid) := by
  induction added generalizing behind with
  | nil => exact h
  | cons text added ih =>
      obtain ⟨first, others⟩ := List.forall_mem_cons.mp remarks
      refine .inserted first (ih others ?_)
      rwa [List.length_cons, Nat.add_comm added.length, ← Nat.add_assoc] at h

/-- Lines that are taken in are so in every layout, also under further names that none of them
takes. The induction is on the layout.
-/
theorem Relaid.reads (h : Relaid place count behind lines relaid)
    (reads : state.Reads source count lines groups last)
    (fresh : ∀ name ∈ last.names, name ∉ taken)
    : (state.renumber place taken).Reads source behind relaid
        (groups.map (Group.renumber place)) (last.renumber place taken) := by
  induction h generalizing state groups with
  | nil =>
      cases reads
      exact .nil
  | inserted remark _ ih => exact .cons (step_of_remark remark) (ih reads)
  | @kept count behind front text back lines relaid hf hb placed _ ih =>
      cases reads with
      | @cons _ next _ _ _ _ closed groups stepped reads =>
          have taken_in : (state.renumber place taken).step source (behind + 1)
              (front ++ text ++ back)
              = .ok (next.renumber place taken, closed.map (Group.renumber place)) := by
            rw [step_congr (trim_padded hf hb), ← placed, step_renumber, stepped]
            · rfl
            · intro opening said _
              exact fresh _ (reads.names_subset ((names_of_step stepped).2 opening said))
          have onward := ParserState.Reads.cons taken_in (ih reads)
          cases closed <;> simpa using onward

/-- The place of a line splits the layout: the lines in front of it are laid out in front. -/
theorem Relaid.split (h : Relaid place count behind (before ++ bad :: after) relaid)
    : ∃ before' bad' after', relaid = before' ++ bad' :: after'
      ∧ Relaid place count behind before before'
      ∧ place (count + before.length + 1) = behind + before'.length + 1
      ∧ trim bad'.toList = trim bad.toList := by
  generalize whole : before ++ bad :: after = lines at h
  induction h generalizing before with
  | nil => simp at whole
  | @inserted count behind text lines relaid remark _ ih =>
      obtain ⟨before', bad', after', rfl, front, placed, same⟩ := ih whole
      refine ⟨text :: before', bad', after', rfl, .inserted remark front, ?_, same⟩
      rw [placed, List.length_cons]
      omega
  | @kept count behind start text back lines relaid hf hb placed rest ih =>
      cases before with
      | nil =>
          obtain ⟨rfl, rfl⟩ := List.cons.inj whole
          exact ⟨[], _, relaid, rfl, .nil, placed, trim_padded hf hb⟩
      | cons first before =>
          obtain ⟨rfl, tail⟩ := List.cons.inj whole
          obtain ⟨before', bad', after', rfl, front, placed', same⟩ := ih tail
          refine ⟨(start ++ first ++ back) :: before', bad', after', rfl, .kept hf hb placed front,
            ?_, same⟩
          rw [List.length_cons, List.length_cons, show count + (before.length + 1) + 1
            = count + 1 + before.length + 1 by omega, placed']
          omega

end Relaying

section Layout

variable {source : Option String} {place : Nat → Nat} {lines relaid : List String}

/-- Lines that are laid out anew are read as the same groups, and reading ends in the same way. All
numbers of lines become those of the same lines in the new layout, but an end inside a group is
reported at the last line of either layout.
-/
theorem parseLines_relaid (h : Relaid place 0 0 lines relaid)
    : let parse := parseLines source lines
      let again := parseLines source relaid
      again.groups = parse.groups.map (Group.renumber place)
      ∧ (parse.error = none → again.error = none)
      ∧ ∀ error, parse.error = some error →
        (EndsInGroup source lines error → error.line = lines.length
          ∧ again.error = some { error.renumber place with line := relaid.length })
        ∧ (¬ EndsInGroup source lines error → again.error = some (error.renumber place)) := by
  intro parse again
  have initial : ParserState.renumber place [] {} = {} := rfl
  rcases ParserState.reads_or_refuses source {} 0 lines with ⟨groups, last, reads⟩
    | ⟨before, bad, after, groups, next, problem, rfl, reads, refused⟩
  · have read : parse = _ := parseLines_of_reads reads
    have reads' := h.reads reads fun name _ => List.not_mem_nil
    rw [initial] at reads'
    have read' : again = _ := parseLines_of_reads reads'
    rw [read, read']
    cases current : last.current with
    | none => simp [ParserState.renumber, current]
    | some group =>
        refine ⟨rfl, nofun, ?_⟩
        rintro error failed
        obtain rfl := Option.some.inj failed
        have ends := (endsInGroup_of_reads reads (read.trans (by rw [current]; rfl))).2.2.2
        refine ⟨fun _ => ⟨rfl, ?_⟩, fun beyond => absurd ends beyond⟩
        simp [ParserState.renumber, current, ParseError.renumber, Problem.renumber, Group.renumber]
  · obtain ⟨before', bad', after', rfl, front, placed, same⟩ := h.split
    simp only [Nat.zero_add] at placed refused
    have read : parse = _ := parseLines_of_refused reads refused after
    have reads' := front.reads reads fun name _ => List.not_mem_nil
    have refused' : (next.renumber place []).step source (before'.length + 1) bad'
        = .error (problem.renumber place) := by
      rw [step_congr same, ← placed, step_renumber (by simp), refused]
      rfl
    have read' : again = _ := parseLines_of_refused reads' refused' after'
    have beyond := beyondRepair_of_refused reads refused after
    rw [read, read']
    refine ⟨rfl, nofun, ?_⟩
    rintro error failed
    obtain rfl := Option.some.inj failed
    refine ⟨fun ends => absurd beyond ends.not_beyondRepair, fun _ => ?_⟩
    simp [ParseError.renumber, placed]

end Layout

/-- A definition that ends inside a group, with comments in front of it and behind it, blank lines
in it, and blanks of several scripts around its lines.
-/
theorem parseLines_relaid_open_group
    : let place := fun number => [0, 2, 4, 5, 6, 8].getD number 0
      let lines := ["a = 010 \"x\" Q \x7b", "A one", "\x7d", "b = 2 \"\" \x7b", "B"]
      let relaid := ["# head", "\t a = 010 \"x\" Q \x7b\u2003", "", "A one\n", " \x7d\x1c",
        "b = 2 \"\" \x7b", "\u3000", "  B", "# end"]
      Relaid place 0 0 lines relaid
      ∧ EndsInGroup none lines ⟨.unclosedGroup "b" 4, none, 5⟩
      ∧ parseLines none relaid = {
        groups := [{
          name := "a", base := 8, label := "x", qualifier := some "Q", line := 2
          entries := [⟨"A", "one", 4⟩] }]
        error := some ⟨.unclosedGroup "b" 6, none, 9⟩ } := by
  intro place lines relaid
  have remark {text : String} (h : AllBlank text.toList ∨ text.toList.head? = some '#')
      : IsRemark text := by
    refine h.imp_right fun first => ?_
    obtain ⟨rest, split⟩ := List.head?_eq_some_iff.mp first
    exact ⟨[], rest, allBlank_nil, split⟩
  have blank (text : String) (h : AllBlank text.toList) : AllBlank text.toList := h
  have layout : Relaid place 0 0 lines relaid := by
    refine .inserted (remark (by decide)) ?_
    refine .kept (blank "\t " (by decide)) (blank "\u2003" (by decide)) rfl ?_
    refine .inserted (remark (by decide)) ?_
    refine .kept (blank "" (by decide)) (blank "\n" (by decide)) rfl ?_
    refine .kept (blank " " (by decide)) (blank "\x1c" (by decide)) rfl ?_
    refine .kept (blank "" (by decide)) (blank "" (by decide)) rfl ?_
    refine .inserted (remark (by decide)) ?_
    refine .kept (blank "  " (by decide)) (blank "" (by decide)) rfl ?_
    exact .inserted (remark (by decide)) .nil
  have read : parseLines none lines = ⟨[{
      name := "a", base := 8, label := "x", qualifier := some "Q", line := 1
      entries := [⟨"A", "one", 2⟩] }], some ⟨.unclosedGroup "b" 4, none, 5⟩⟩ := rfl
  have ends : EndsInGroup none lines ⟨.unclosedGroup "b" 4, none, 5⟩ := ⟨rfl, rfl⟩
  obtain ⟨groups, -, errors⟩ := @parseLines_relaid none place lines relaid layout
  rw [read] at groups errors
  have error := ((errors _ rfl).1 ends).2
  refine ⟨layout, ends, ?_⟩
  generalize again : parseLines none relaid = found at groups error
  cases found
  simp_all [Group.renumber, ParseError.renumber, Problem.renumber, place, relaid]

end Definition

end ErrorTables
