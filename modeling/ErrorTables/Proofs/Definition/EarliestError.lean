import ErrorTables.Proofs.Definition.BlockGrammar

/-! Where reading stops at an error. It stops at the end of the input inside a group, which a
closing line would repair, or at the first line behind which nothing that follows can help; the
groups that were closed before are kept.
-/

namespace ErrorTables.Definition

-----------------------------------------------------------------------------------------
-- Lines that are read without an error
-----------------------------------------------------------------------------------------

/-- From a state behind a number of lines, the reader takes in the lines one after the other and
closes the groups on its way to another state.
-/
inductive ParserState.Reads (source : Option String)
    : ParserState → Nat → List String → List Group → ParserState → Prop
  | nil {state count} : Reads source state count [] [] state
  | cons {state next last count text rest closed groups}
    (stepped : state.step source (count + 1) text = .ok (next, closed))
    (reads : Reads source next (count + 1) rest groups last)
    : Reads source state count (text :: rest) (closed.toList ++ groups) last

section Reads

variable {source : Option String} {state next last : ParserState} {count : Nat}
  {lines : List String} {groups : List Group} {group : Group}

/-- What follows lines that are read is read from the state behind them. -/
theorem ParserState.Reads.parseFrom_append (h : state.Reads source count lines groups next)
    (rest : List String)
    : parseFrom source state count (lines ++ rest)
      = { groups := groups ++ (parseFrom source next (count + lines.length) rest).groups
          error := (parseFrom source next (count + lines.length) rest).error } := by
  induction h with
  | nil => rfl
  | @cons _ _ _ count text tail closed _ stepped _ ih =>
      have length : count + (text :: tail).length = count + 1 + tail.length := by
        simp [Nat.add_comm, Nat.add_left_comm]
      rw [List.cons_append, parseFrom, stepped, length]
      simp only [ih, List.append_assoc]

/-- The reader takes in all lines, or all in front of one that it refuses. -/
theorem ParserState.reads_or_refuses (source : Option String) (state : ParserState) (count : Nat)
    (lines : List String)
    : (∃ groups last, state.Reads source count lines groups last)
      ∨ ∃ before bad after groups next problem,
        lines = before ++ bad :: after
        ∧ state.Reads source count before groups next
        ∧ next.step source (count + before.length + 1) bad = .error problem := by
  induction lines generalizing state count with
  | nil => exact .inl ⟨[], state, .nil⟩
  | cons text rest ih =>
      cases stepped : state.step source (count + 1) text with
      | error problem => exact .inr ⟨[], text, rest, [], state, problem, rfl, .nil, stepped⟩
      | ok result =>
          obtain ⟨next, closed⟩ := result
          rcases ih next (count + 1) with ⟨groups, last, reads⟩
            | ⟨before, bad, after, groups, last, problem, rfl, reads, refused⟩
          · exact .inl ⟨_, last, .cons stepped reads⟩
          · refine .inr ⟨text :: before, bad, after, _, last, problem, rfl, .cons stepped reads, ?_⟩
            rwa [List.length_cons, Nat.add_comm before.length, ← Nat.add_assoc]

/-- A closing line closes the group that is open. -/
theorem parseFrom_closing (current : state.current = some group)
    : parseFrom source state count ["\x7d"] = { groups := [group] } := by
  have said : Line.classify "\x7d" = .ok .closing := rfl
  simp [parseFrom, ParserState.step, said, current]

end Reads

-----------------------------------------------------------------------------------------
-- Blocks that are closed
-----------------------------------------------------------------------------------------

/-- The lines are read without an error. -/
def Accepted (source : Option String) (lines : List String) : Prop :=
  (parseLines source lines).error = none

/-- The groups are what the blocks say that end within the lines. The lines spell blocks out,
if need be with a closing line behind them.
-/
def ClosedWithin (source : Option String) (lines : List String) (groups : List Group) : Prop :=
  ∃ ending blocks, (ending = [] ∨ ending = ["\x7d"])
    ∧ SpellsBlocks (lines ++ ending) blocks
    ∧ List.Forall₂ (Block.Gives source) (blocks.filter (·.closedAt ≤ lines.length)) groups

/-- Where a block ends, a line says so. -/
theorem Block.closing_mem_lines (block : Block) : (block.closedAt, .closing) ∈ block.lines := by
  simp [Block.lines]

/-- What lines say bears the number of one of them. -/
theorem le_length_of_mem_significant {lines : List String} {number : Nat} {line : Line}
    (member : (number, line) ∈ significant (lines.zipIdx 1))
    : number ≤ lines.length := by
  obtain ⟨text, found, -⟩ := mem_significant member
  have bound := List.snd_lt_of_mem_zipIdx found
  omega

section Closed

variable {source : Option String} {lines : List String} {groups : List Group} {group : Group}
  {last : ParserState}

/-- Lines that end outside of a group are blocks, all of which are closed. -/
theorem closedWithin_of_accepted (read : parseLines source lines = { groups })
    : ClosedWithin source lines groups := by
  obtain ⟨blocks, spelled, gives⟩ := parseLines_eq_iff.mp read
  refine ⟨[], blocks, .inl rfl, by rwa [List.append_nil], ?_⟩
  rwa [List.filter_eq_self.mpr]
  intro block member
  rw [decide_eq_true_iff]
  apply le_length_of_mem_significant
  rw [spelled.spelled]
  exact List.mem_flatMap.mpr ⟨block, member, block.closing_mem_lines⟩

/-- If blocks are spelled out up to a closing line, the last block ends there and the others end
before.
-/
theorem SpellsBlocks.closedAt_last {closed : List Block} {final : Block}
    (h : SpellsBlocks (lines ++ ["\x7d"]) (closed ++ [final]))
    : final.closedAt = lines.length + 1 ∧ ∀ block ∈ closed, block.closedAt ≤ lines.length := by
  have closing (place : Nat) : significant (["\x7d"].zipIdx place) = [(place, .closing)] := rfl
  have whole := h.spelled
  rw [List.zipIdx_append, significant_append, closing, List.flatMap_append, List.flatMap_singleton,
    Block.lines, ← List.cons_append, ← List.append_assoc] at whole
  obtain ⟨front, ends⟩ := List.append_inj' whole rfl
  refine ⟨by simpa [Nat.add_comm] using ends.symm, ?_⟩
  intro block member
  have closes : (block.closedAt, .closing) ∈ significant (lines.zipIdx 1) := by
    rw [front]
    exact List.mem_append_left _ (List.mem_flatMap.mpr ⟨block, member, block.closing_mem_lines⟩)
  exact le_length_of_mem_significant closes

/-- If a closing line completes the lines, all groups but the last one are closed within them. -/
theorem closedWithin_of_closable
    (read : parseLines source (lines ++ ["\x7d"]) = { groups := groups ++ [group] })
    : ClosedWithin source lines groups := by
  obtain ⟨blocks, spelled, gives⟩ := parseLines_eq_iff.mp read
  have front := List.forall₂_take_append blocks groups [group] gives
  have back := List.forall₂_drop_append blocks groups [group] gives
  obtain ⟨final, none, -, nothing, alone⟩ := List.forall₂_cons_right_iff.mp back
  obtain rfl := List.forall₂_nil_right_iff.mp nothing
  rw [← List.take_append_drop groups.length blocks, alone] at spelled
  obtain ⟨last, others⟩ := spelled.closedAt_last
  refine ⟨["\x7d"], _, .inr rfl, spelled, ?_⟩
  rwa [List.filter_append, List.filter_eq_self.mpr (by simpa using others),
    List.filter_eq_nil_iff.mpr (by simp [last]), List.append_nil]

/-- Lines that the reader takes in are accepted, if need be with a closing line behind them. -/
theorem accepted_or_closable (reads : ParserState.Reads source {} 0 lines groups last)
    : (Accepted source lines ∨ Accepted source (lines ++ ["\x7d"]))
      ∧ ClosedWithin source lines groups := by
  cases current : last.current with
  | none =>
      have read : parseLines source lines = { groups } := by
        have whole := reads.parseFrom_append []
        rw [List.append_nil] at whole
        simpa [parseLines, parseFrom, current] using whole
      exact ⟨.inl (by rw [Accepted, read]), closedWithin_of_accepted read⟩
  | some group =>
      have read := (reads.parseFrom_append ["\x7d"]).trans (by rw [parseFrom_closing current])
      exact ⟨.inr (congrArg Parse.error read), closedWithin_of_closable read⟩

end Closed

-----------------------------------------------------------------------------------------
-- The place of an error
-----------------------------------------------------------------------------------------

/-- The lines merely end inside a group: a closing line behind them repairs them. -/
structure EndsInGroup (source : Option String) (lines : List String) (error : ParseError)
    : Prop where
  line : error.line = lines.length
  closable : Accepted source (lines ++ ["\x7d"])

/-- At the line of the error the lines are beyond repair: whatever comes behind that line, the same
groups are read and the same error is met. In front of it nothing is wrong, but for a closing line
that may be missing.
-/
structure BeyondRepair (source : Option String) (lines : List String) (groups : List Group)
    (error : ParseError)
    : Prop where
  final
    : ∀ continuation,
        parseLines source (lines.take error.line ++ continuation) = ⟨groups, some error⟩
  sound
    : Accepted source (lines.take (error.line - 1))
      ∨ Accepted source (lines.take (error.line - 1) ++ ["\x7d"])

section Place

variable {source : Option String} {lines before after : List String} {groups : List Group}
  {error : ParseError} {next : ParserState} {bad : String} {problem : Problem}

/-- What a closing line repairs is not beyond repair. -/
theorem EndsInGroup.not_beyondRepair (ends : EndsInGroup source lines error)
    : ¬ BeyondRepair source lines groups error := by
  intro beyond
  have still := beyond.final ["\x7d"]
  rw [ends.line, List.take_length] at still
  have closable := ends.closable
  rw [Accepted, still] at closable
  contradiction

/-- If all lines are taken in and there is an error nonetheless, a group is open behind the last of
them.
-/
theorem endsInGroup_of_reads (reads : ParserState.Reads source {} 0 lines groups next)
    {found : List Group} (stopped : parseLines source lines = ⟨found, some error⟩)
    : found = groups ∧ error.source = source ∧ lines ≠ [] ∧ EndsInGroup source lines error := by
  have whole := reads.parseFrom_append []
  rw [List.append_nil, ← parseLines, stopped, Nat.zero_add] at whole
  obtain ⟨same, failed⟩ := Parse.mk.inj whole
  cases current : next.current with
  | none => simp [parseFrom, current] at failed
  | some group =>
      simp only [parseFrom, current, Option.some.injEq] at same failed
      refine ⟨by simpa using same, by rw [failed], ?_, by rw [failed], ?_⟩
      · rintro rfl
        cases reads
        contradiction
      · refine (accepted_or_closable reads).1.resolve_left ?_
        rw [Accepted, stopped]
        simp

/-- A line that is refused is so whatever comes behind it. -/
theorem parseLines_of_refused (reads : ParserState.Reads source {} 0 before groups next)
    (refused : next.step source (before.length + 1) bad = .error problem) (after : List String)
    : parseLines source (before ++ bad :: after)
      = ⟨groups, some ⟨problem, source, before.length + 1⟩⟩ := by
  rw [parseLines, reads.parseFrom_append, Nat.zero_add, parseFrom, refused]
  simp

/-- Where a line is refused, the lines are beyond repair. -/
theorem beyondRepair_of_refused (reads : ParserState.Reads source {} 0 before groups next)
    (refused : next.step source (before.length + 1) bad = .error problem) (after : List String)
    : BeyondRepair source (before ++ bad :: after) groups
        ⟨problem, source, before.length + 1⟩ := by
  have front : (before ++ bad :: after).take (before.length + 1) = before ++ [bad] := by
    simp [List.take_append]
  refine ⟨fun continuation => ?_, ?_⟩
  · rw [front, List.append_assoc]
    exact parseLines_of_refused reads refused continuation
  · rw [Nat.add_sub_cancel, List.take_left]
    exact (accepted_or_closable reads).1

/-- An error names the source and one of the lines. Either the lines merely end inside a group, or
the line of the error is the first one at which they are beyond repair. The groups are exactly the
blocks that are closed within the lines, or before the line of the error.
-/
theorem parseLines_stops_at_earliest
    (stopped : parseLines source lines = ⟨groups, some error⟩)
    : error.source = source ∧ 1 ≤ error.line ∧ error.line ≤ lines.length
      ∧ (EndsInGroup source lines error ∨ BeyondRepair source lines groups error)
      ∧ ¬ (EndsInGroup source lines error ∧ BeyondRepair source lines groups error)
      ∧ (EndsInGroup source lines error → ClosedWithin source lines groups)
      ∧ (BeyondRepair source lines groups error →
        ClosedWithin source (lines.take (error.line - 1)) groups) := by
  have apart (ends : EndsInGroup source lines error)
      : ¬ BeyondRepair source lines groups error :=
    ends.not_beyondRepair
  rcases ParserState.reads_or_refuses source {} 0 lines with ⟨found, last, reads⟩
    | ⟨before, bad, after, found, next, problem, rfl, reads, refused⟩
  · obtain ⟨rfl, named, filled, ends⟩ := endsInGroup_of_reads reads stopped
    have some : 0 < lines.length := List.length_pos_of_ne_nil filled
    exact ⟨named, by rw [ends.line]; exact some, by rw [ends.line], .inl ends,
      fun both => apart both.1 both.2, fun _ => (accepted_or_closable reads).2,
      fun beyond => absurd beyond (apart ends)⟩
  · rw [Nat.zero_add] at refused
    obtain ⟨rfl, rfl⟩ : found = groups ∧ ⟨problem, source, before.length + 1⟩ = error := by
      simpa using (parseLines_of_refused reads refused after).symm.trans stopped
    have beyond := beyondRepair_of_refused reads refused after
    refine ⟨rfl, by simp, by simp, .inr beyond, fun both => apart both.1 both.2,
      fun ends => absurd beyond (apart ends), fun _ => ?_⟩
    rw [Nat.add_sub_cancel, List.take_left]
    exact (accepted_or_closable reads).2

end Place

/-- A tag that is repeated cannot be mended, while a group that is open at the end can be closed.
Both times the group in front is kept.
-/
theorem parseLines_stops_at_repeated_tag_and_end
    : let first : Group := { name := "a", base := 8, line := 1, entries := [⟨"A", "one", 2⟩] }
      let unclosed := ["a = 010 \"\" \x7b", "A one", "\x7d", "b = 2 \"\" \x7b", "A"]
      let repeated := unclosed ++ ["# two", "A", "\x7d"]
      parseLines none unclosed = ⟨[first], some ⟨.unclosedGroup "b" 4, none, 5⟩⟩
      ∧ EndsInGroup none unclosed ⟨.unclosedGroup "b" 4, none, 5⟩
      ∧ parseLines none repeated = ⟨[first], some ⟨.repeatedTag "A" "b", none, 7⟩⟩
      ∧ BeyondRepair none repeated [first] ⟨.repeatedTag "A" "b", none, 7⟩ := by
  intro first unclosed repeated
  have ended : parseLines none unclosed = ⟨[first], some ⟨.unclosedGroup "b" 4, none, 5⟩⟩ := rfl
  have refused : parseLines none repeated = ⟨[first], some ⟨.repeatedTag "A" "b", none, 7⟩⟩ := rfl
  obtain ⟨-, -, -, either, -⟩ := parseLines_stops_at_earliest ended
  obtain ⟨-, -, -, either', -⟩ := parseLines_stops_at_earliest refused
  refine ⟨ended, either.resolve_right ?_, refused, either'.resolve_left ?_⟩
  · intro beyond
    have closed : (parseLines none (unclosed ++ ["\x7d"])).error = none := rfl
    have still : parseLines none (unclosed ++ ["\x7d"]) = _ := beyond.final ["\x7d"]
    rw [still] at closed
    contradiction
  · intro ends
    have impossible : 7 = 8 := ends.line
    contradiction

end ErrorTables.Definition
