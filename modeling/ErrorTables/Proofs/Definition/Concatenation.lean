import ErrorTables.Proofs.Definition.Layout

/-! Reading definitions one behind the other. Behind lines that are read without an error, others
are read as they are alone, with the numbers of their lines counted on; nothing but the names of the
groups in front is remembered.
-/

namespace ErrorTables.Definition

open Text

section Reads

variable {source : Option String} {state next last : ParserState} {closed : Option Group}
  {number count : Nat} {text : String} {opening : Opening}
  {lines first second before after : List String} {groups more : List Group}

/-- Lines are taken in one behind the other. -/
theorem ParserState.Reads.append (h : state.Reads source count first groups next)
    (h' : next.Reads source (count + first.length) second more last)
    : state.Reads source count (first ++ second) (groups ++ more) last := by
  induction h with
  | nil => exact h'
  | @cons _ _ _ count _ rest _ _ stepped _ ih =>
      rw [List.cons_append, List.append_assoc]
      refine .cons stepped (ih ?_)
      rwa [List.length_cons, Nat.add_comm rest.length, ← Nat.add_assoc] at h'

/-- The names that are taken are those of the groups that are closed and of the one that is open. -/
theorem names_of_reads (h : state.Reads source count lines groups last)
    : ∃ opened, last.names.reverse = state.names.reverse ++ opened
      ∧ groups.map (·.name) ++ last.current.toList.map (·.name)
        = state.current.toList.map (·.name) ++ opened := by
  induction h with
  | nil => exact ⟨[], by simp, by simp⟩
  | cons stepped _ ih =>
      obtain ⟨line, -, taken⟩ := step_eq_ok_iff.mp stepped
      obtain ⟨opened, names, groups⟩ := ih
      cases taken with
      | ignored => exact ⟨opened, names, groups⟩
      | @opening _ opening _ fresh read =>
          exact ⟨opening.name :: opened, by simpa using names, by simpa using groups⟩
      | entry fresh => exact ⟨opened, names, groups⟩
      | closing => exact ⟨opened, names, by simpa using groups⟩

/-- Lines that are taken in keep the names of all groups that they open. -/
theorem mem_names_of_opening
    (h : state.Reads source count (before ++ text :: after) groups last)
    (said : Line.classify text = .ok (.opening opening))
    : opening.name ∈ last.names := by
  induction before generalizing state count groups with
  | nil =>
      cases h with
      | cons stepped reads => exact reads.names_subset ((names_of_step stepped).2 opening said)
  | cons _ _ ih =>
      cases h with
      | cons _ reads => exact ih reads

/-- Each name that is taken was taken before the lines, or by one of them that is reached outside of
a group.
-/
theorem exists_opening_of_mem_names (h : state.Reads source count lines groups last) {name : String}
    (member : name ∈ last.names)
    : name ∈ state.names
      ∨ ∃ before text after earlier reached opening, lines = before ++ text :: after
        ∧ state.Reads source count before earlier reached ∧ reached.current = none
        ∧ Line.classify text = .ok (.opening opening) ∧ opening.name = name := by
  induction h with
  | nil => exact .inl member
  | @cons state _ _ _ text rest _ _ stepped reads ih =>
      rcases ih member with known | ⟨before, other, after, earlier, reached, opening, split, passed,
        outside, said⟩
      · obtain ⟨line, said, taken⟩ := step_eq_ok_iff.mp stepped
        cases taken with
        | ignored => exact .inl known
        | @opening _ opening _ fresh read =>
            rcases List.mem_cons.mp known with same | old
            · exact .inr ⟨[], text, rest, [], _, opening, rfl, .nil, rfl, said, same.symm⟩
            · exact .inl old
        | entry fresh => exact .inl known
        | closing => exact .inl known
      · refine .inr ⟨text :: before, other, after, _, reached, opening, ?_, .cons stepped passed,
          outside, said⟩
        rw [split, List.cons_append]

/-- Behind closed groups, the names that are taken are those of the groups. -/
theorem mem_names_iff {names : List String}
    (h : ParserState.Reads source {} 0 lines groups ⟨names, none⟩) (name : String)
    : name ∈ names ↔ name ∈ groups.map (·.name) := by
  obtain ⟨opened, kept, closed⟩ := names_of_reads h
  simp only [List.reverse_nil, List.nil_append, Option.toList_none, List.map_nil,
    List.append_nil] at kept closed
  rw [← List.mem_reverse, kept, ← closed]

theorem accepted_iff
    : Accepted source lines
      ↔ parseLines source lines = { groups := (parseLines source lines).groups } :=
  ⟨fun ended => by rw [← show (parseLines source lines).error = none from ended],
    fun read => by rw [Accepted, read]⟩

/-- Lines are accepted exactly if they are taken in and no group is open behind them. -/
theorem parseLines_eq_iff_reads
    : parseLines source lines = { groups }
      ↔ ∃ names, ParserState.Reads source {} 0 lines groups ⟨names, none⟩ := by
  constructor
  · intro read
    rcases ParserState.reads_or_refuses source {} 0 lines with ⟨found, ⟨names, current⟩, reads⟩
      | ⟨before, bad, after, found, next, problem, rfl, reads, refused⟩
    · obtain ⟨rfl, ended⟩ := Parse.mk.inj (read.symm.trans (parseLines_of_reads reads))
      obtain rfl : current = none := by simpa using ended.symm
      exact ⟨names, reads⟩
    · rw [Nat.zero_add] at refused
      have failed := read.symm.trans (parseLines_of_refused reads refused after)
      simp at failed
  · rintro ⟨names, reads⟩
    exact parseLines_of_reads reads

end Reads

-----------------------------------------------------------------------------------------
-- Names that are taken twice
-----------------------------------------------------------------------------------------

/-- Outside of a group, and with nothing wrong before it, a line opens a group under a taken name.
-/
structure Retakes (source : Option String) (taken : List String) (lines before : List String)
    (opening : Opening)
    : Prop where
  line
    : ∃ text after, lines = before ++ text :: after
      ∧ Line.classify text = .ok (.opening opening)
  outside : Accepted source before
  known : opening.name ∈ taken

/-- No line before that one does so. -/
structure RetakesFirst (source : Option String) (taken : List String) (lines before : List String)
    (opening : Opening)
    : Prop extends Retakes source taken lines before opening where
  first : ∀ earlier other, ¬ Retakes source taken before earlier other

section Names

variable {source : Option String} {taken lines before : List String} {opening : Opening}
  {groups : List Group} {last : ParserState}

/-- More lines behind do not change what is taken again. -/
theorem Retakes.extend {after : List String} (h : Retakes source taken lines before opening)
    : Retakes source taken (lines ++ after) before opening := by
  obtain ⟨text, rest, rfl, said⟩ := h.line
  exact ⟨⟨text, rest ++ after, by simp, said⟩, h.outside, h.known⟩

/-- If a line takes a name again, one is the first to do so, by induction on the lines before it. -/
theorem Retakes.exists_first (h : Retakes source taken lines before opening)
    : ∃ first other, RetakesFirst source taken lines first other := by
  induction measure : before.length using Nat.strongRecOn generalizing before opening with
  | ind count ih =>
      by_cases earliest : ∀ earlier other, ¬ Retakes source taken before earlier other
      · exact ⟨before, opening, h, earliest⟩
      · push Not at earliest
        obtain ⟨earlier, other, again⟩ := earliest
        obtain ⟨later, behind, rfl, -⟩ := h.line
        have shorter : earlier.length < count := by
          obtain ⟨text, after, rfl, -⟩ := again.line
          rw [← measure, List.length_append, List.length_cons]
          omega
        exact ih earlier.length shorter again.extend rfl

/-- No line takes a name again exactly if none is the first to do so. -/
theorem not_retakesFirst_iff
    : (∀ before opening, ¬ RetakesFirst source taken lines before opening)
      ↔ ∀ before opening, ¬ Retakes source taken lines before opening := by
  constructor
  · intro none before opening again
    obtain ⟨_, _, first⟩ := again.exists_first
    exact none _ _ first
  · exact fun none before opening first => none before opening first.toRetakes

/-- Lines that take no name again leave the taken names alone. -/
theorem not_mem_taken (reads : ParserState.Reads source {} 0 lines groups last)
    (none : ∀ before opening, ¬ Retakes source taken lines before opening)
    : ∀ name ∈ last.names, name ∉ taken := by
  intro name member known
  rcases exists_opening_of_mem_names reads member with absurd | ⟨before, text, after, earlier,
    reached, opening, rfl, passed, outside, said, rfl⟩
  · contradiction
  · refine none before opening ⟨⟨text, after, rfl, said⟩, ?_, known⟩
    rw [Accepted, parseLines_of_reads passed, outside]
    rfl

/-- Lines that are accepted take no name again exactly if their groups have other names. -/
theorem not_retakes_iff (accepted : parseLines source lines = { groups })
    : (∀ before opening, ¬ Retakes source taken lines before opening)
      ↔ ∀ group ∈ groups, group.name ∉ taken := by
  obtain ⟨names, reads⟩ := parseLines_eq_iff_reads.mp accepted
  constructor
  · intro new group member
    exact not_mem_taken reads new _ ((mem_names_iff reads _).mpr (List.mem_map_of_mem member))
  · intro apart before opening again
    obtain ⟨text, after, rfl, said⟩ := again.line
    have known := (mem_names_iff reads _).mp (mem_names_of_opening reads said)
    obtain ⟨group, member, same⟩ := List.mem_map.mp known
    exact apart group member (same ▸ again.known)

end Names

section Concatenation

variable {source : Option String} {first second before after : List String} {text : String}
  {names : List String} {groups more : List Group} {next : ParserState} {opening : Opening}
  {problem : Problem}

/-- In a layout without blanks and remarks, numbers of lines are counted on. -/
theorem Relaid.countOn (length count : Nat) (lines : List String)
    : Relaid (length + ·) count (length + count) lines lines := by
  have kept : Relaid (length + ·) count (length + count) (lines ++ []) (lines ++ []) :=
    .keep (fun index _ => by simp only [Nat.add_assoc]) .nil
  rwa [List.append_nil] at kept

/-- Behind lines that are accepted, further ones are taken in as they are alone, unless they take a
name again.
-/
theorem reads_behind (accepted : ParserState.Reads source {} 0 first groups ⟨names, none⟩)
    (reads : ParserState.Reads source {} 0 second more next)
    (fresh : ∀ name ∈ next.names, name ∉ names)
    : ParserState.Reads source {} 0 (first ++ second)
        (groups ++ more.map (Group.renumber (first.length + ·)))
        (next.renumber (first.length + ·) names) := by
  refine accepted.append ?_
  have shifted := (Relaid.countOn first.length 0 second).reads reads fresh
  rw [Nat.zero_add]
  exact shifted

/-- Behind lines that are accepted, a line that takes one of their names again is refused for it,
even if its base cannot be read.
-/
theorem parseLines_of_retakesFirst (accepted : parseLines source first = { groups })
    (again : RetakesFirst source (groups.map (·.name)) second before opening)
    : parseLines source (first ++ second)
      = { groups := groups
            ++ (parseLines source before).groups.map (Group.renumber (first.length + ·))
          error := some ⟨.repeatedName opening.name, source,
            first.length + (before.length + 1)⟩ } := by
  obtain ⟨names, taken_in⟩ := parseLines_eq_iff_reads.mp accepted
  obtain ⟨passed, reads⟩ := parseLines_eq_iff_reads.mp (accepted_iff.mp again.outside)
  have whole := reads_behind taken_in reads fun name member =>
    mt (mem_names_iff taken_in name).mp (not_mem_taken reads again.first name member)
  obtain ⟨text, after, rfl, said⟩ := again.line
  have known : opening.name ∈ passed ++ names :=
    List.mem_append_right _ ((mem_names_iff taken_in _).mpr again.known)
  have refused : ParserState.step ⟨passed ++ names, none⟩ source
      ((first ++ before).length + 1) text = .error (.repeatedName opening.name) := by
    simp [ParserState.step, said, ParserState.openGroup, known, Except.map]
  have stopped := parseLines_of_refused whole refused after
  rw [List.length_append, Nat.add_assoc] at stopped
  rw [← List.append_assoc]
  exact stopped

/-- Behind lines that are accepted, lines that take none of their names again are read as they are
alone, with the numbers of their lines counted on.
-/
theorem parseLines_of_not_retakes (accepted : parseLines source first = { groups })
    (new : ∀ before opening, ¬ Retakes source (groups.map (·.name)) second before opening)
    : parseLines source (first ++ second)
      = { groups := groups
            ++ (parseLines source second).groups.map (Group.renumber (first.length + ·))
          error := (parseLines source second).error.map
            (ParseError.renumber (first.length + ·)) } := by
  obtain ⟨names, taken_in⟩ := parseLines_eq_iff_reads.mp accepted
  rcases ParserState.reads_or_refuses source {} 0 second with ⟨more, last, reads⟩
    | ⟨before, bad, after, more, next, problem, rfl, reads, refused⟩
  · have whole := reads_behind taken_in reads fun name member =>
      mt (mem_names_iff taken_in name).mp (not_mem_taken reads new name member)
    rw [parseLines_of_reads whole, parseLines_of_reads reads]
    cases current : last.current <;>
      simp [ParserState.renumber, current, ParseError.renumber, Problem.renumber, Group.renumber]
  · have new_before : ∀ earlier opening,
        ¬ Retakes source (groups.map (·.name)) before earlier opening :=
      fun earlier opening again => new earlier opening again.extend
    have whole := reads_behind taken_in reads fun name member =>
      mt (mem_names_iff taken_in name).mp (not_mem_taken reads new_before name member)
    have fresh : ∀ opening, Line.classify bad = .ok (.opening opening) → next.current = none →
        opening.name ∉ names := by
      intro opening said outside known
      refine new before opening ⟨⟨bad, after, rfl, said⟩, ?_, (mem_names_iff taken_in _).mp known⟩
      rw [Accepted, parseLines_of_reads reads, outside]
      rfl
    rw [Nat.zero_add] at refused
    have refused' : (next.renumber (first.length + ·) names).step source
        ((first ++ before).length + 1) bad
        = .error (problem.renumber (first.length + ·)) := by
      have stepped := @step_renumber source next (before.length + 1) bad (first.length + ·) names
        fresh
      rw [refused] at stepped
      rw [List.length_append, Nat.add_assoc]
      exact stepped
    rw [← List.append_assoc, parseLines_of_refused whole refused' after,
      parseLines_of_refused reads refused after]
    simp [ParseError.renumber, Nat.add_assoc]

/-- Behind lines that are accepted, others are read as they are alone, with the numbers of their
lines counted on, up to the first line that takes the name of a group in front again. All the lines
are accepted exactly if those behind are and no name is taken again.
-/
theorem parseLines_append (accepted : parseLines source first = { groups })
    : let taken := groups.map (·.name)
      let place := (first.length + ·)
      let alone := parseLines source second
      let whole := parseLines source (first ++ second)
      (∀ before opening, RetakesFirst source taken second before opening →
        whole = {
          groups := groups ++ (parseLines source before).groups.map (Group.renumber place)
          error := some ⟨.repeatedName opening.name, source, place (before.length + 1)⟩ })
      ∧ ((∀ before opening, ¬ RetakesFirst source taken second before opening) →
        whole = {
          groups := groups ++ alone.groups.map (Group.renumber place)
          error := alone.error.map (ParseError.renumber place) })
      ∧ (Accepted source (first ++ second)
        ↔ Accepted source second ∧ ∀ group ∈ alone.groups, group.name ∉ taken) := by
  intro taken place alone whole
  have retaken (before : List String) (opening : Opening)
      (again : RetakesFirst source taken second before opening)
      : whole.error = some ⟨.repeatedName opening.name, source, place (before.length + 1)⟩ :=
    congrArg Parse.error (parseLines_of_retakesFirst accepted again)
  have alike (new : ∀ before opening, ¬ Retakes source taken second before opening)
      : whole.error = alone.error.map (ParseError.renumber place) :=
    congrArg Parse.error (parseLines_of_not_retakes accepted new)
  refine ⟨fun before opening => parseLines_of_retakesFirst accepted,
    fun new => parseLines_of_not_retakes accepted (not_retakesFirst_iff.mp new), ?_⟩
  constructor
  · intro ended
    have new : ∀ before opening, ¬ Retakes source taken second before opening := by
      refine not_retakesFirst_iff.mp fun before opening again => ?_
      have failed := (retaken before opening again).symm.trans ended
      contradiction
    have ended_alone : Accepted source second :=
      Option.map_eq_none_iff.mp ((alike new).symm.trans ended)
    exact ⟨ended_alone, (not_retakes_iff (accepted_iff.mp ended_alone)).mp new⟩
  · rintro ⟨ended_alone, apart⟩
    have new := (not_retakes_iff (accepted_iff.mp ended_alone)).mpr apart
    exact (alike new).trans (Option.map_eq_none_iff.mpr ended_alone)

end Concatenation

/-- Behind a group, another one is read with its numbers counted on. A third one that takes the name
of the first is refused for that, although alone it is refused for its base.
-/
theorem parseLines_append_retaken
    : let first := ["a = 010 \"x\" Q \x7b", "A one", "\x7d"]
      let second := ["# next", "b = 2 \"\" \x7b", "A", "\x7d"]
      let third := ["a = 09 \"\" \x7b", "\x7d"]
      let a : Group := {
        name := "a", base := 8, label := "x", qualifier := some "Q", line := 1
        entries := [⟨"A", "one", 2⟩] }
      let b (line : Nat) : Group :=
        { name := "b", base := 2, line, entries := [⟨"A", "", line + 1⟩] }
      parseLines none first = { groups := [a] }
      ∧ parseLines none (second ++ third) = ⟨[b 2], some ⟨.invalidBase "09", none, 5⟩⟩
      ∧ RetakesFirst none ["a"] (second ++ third) second ⟨"a", "09", "", none⟩
      ∧ parseLines none (first ++ (second ++ third))
        = ⟨[a, b 5], some ⟨.repeatedName "a", none, 8⟩⟩
      ∧ Accepted none (first ++ second) := by
  intro first second third a b
  have read : parseLines none first = { groups := [a] } := rfl
  have read' : parseLines none second = { groups := [b 2] } := rfl
  have again : RetakesFirst none ["a"] (second ++ third) second ⟨"a", "09", "", none⟩ := by
    refine ⟨⟨⟨_, _, rfl, rfl⟩, congrArg Parse.error read', by decide⟩, ?_⟩
    exact (not_retakes_iff read').mpr (by decide)
  have retaken := (@parseLines_append none first (second ++ third) _ read).1 _ _ again
  have accepted := (@parseLines_append none first second _ read).2.2
  rw [read'] at retaken accepted
  exact ⟨read, rfl, again, retaken, accepted.mpr ⟨congrArg Parse.error read', by decide⟩⟩

end ErrorTables.Definition
