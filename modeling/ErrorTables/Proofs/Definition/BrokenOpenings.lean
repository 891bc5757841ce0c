import ErrorTables.Proofs.Definition.Concatenation
import ErrorTables.Proofs.Definition.LineKinds

/-! Openings that are broken.
Outside of a group, a line that ends in an opening brace and spells no opening out is meant as one.
Reading stops at it, but whether it is reported as a broken opening depends on its first word: a line
that could not be an entry is refused before the brace at its end is looked at.
-/

namespace ErrorTables.Definition

open Text

-----------------------------------------------------------------------------------------
-- First words
-----------------------------------------------------------------------------------------

/-- The first word of a line reaches up to the first blank behind it. -/
def firstWord (text : List Char) : List Char :=
  (trimStart text).takeWhile fun c => !isBlank c

/-- What follows the first word of a line. -/
def behindWord (text : List Char) : List Char :=
  (trimStart text).dropWhile fun c => !isBlank c

/-- The line starts with a tag, which is a word of its own, and what follows is on one line. -/
def StartsWithTag (text : List Char) : Prop :=
  isName (firstWord text) = true ∧ '\n' ∉ trim (behindWord text)

instance (text : List Char) : Decidable (StartsWithTag text) :=
  inferInstanceAs (Decidable (_ ∧ _))

section Words

variable {text front word rest : List Char}

theorem isBlank_head_behindWord {c : Char} (first : (behindWord text).head? = some c)
    : isBlank c = true := by
  have stop := @head_dropWhile _ (fun c => !isBlank c) c (trimStart text) first
  simpa using stop

/-- A name in front of a blank, or of nothing, is the first word. -/
theorem words_of_name (blank : AllBlank front) (named : isName word = true)
    (stop : ∀ c, rest.head? = some c → isBlank c = true)
    : firstWord (front ++ (word ++ rest)) = word ∧ behindWord (front ++ (word ++ rest)) = rest := by
  have start : trimStart (front ++ (word ++ rest)) = word ++ rest :=
    trimStart_append_eq blank (isBlank_head_name named)
  have inside : ∀ c ∈ word, (!isBlank c) = true := by
    intro c member
    simp [isBlank_of_isWord (isWord_of_isName named member)]
  have ends : ∀ c, rest.head? = some c → (!isBlank c) = false := by
    intro c first
    simp [stop c first]
  rw [firstWord, behindWord, start]
  exact ⟨takeWhile_run inside ends, dropWhile_run inside ends⟩

/-- A line spells an entry out exactly if it starts with a tag. -/
theorem exists_spellsEntry_iff
    : (∃ tag message : String, isName tag.toList = true
        ∧ SpellsEntry tag.toList message.toList text)
      ↔ StartsWithTag text := by
  constructor
  · rintro ⟨tag, message, named, spelled⟩
    generalize message.toList = said at spelled
    cases spelled with
    | @bare front back hf hb =>
        obtain ⟨first, behind⟩ :=
          words_of_name hf named fun c member => hb c (List.mem_of_head? member)
        refine ⟨by rwa [first], ?_⟩
        rw [behind, trim_eq_nil_iff.mpr hb]
        exact List.not_mem_nil
    | @told front gap said back hf hg hb gapped nonempty trimmed line =>
        have stop : ∀ c, (gap ++ (said ++ back)).head? = some c → isBlank c = true := by
          intro c first
          rw [List.head?_append_of_ne_nil _ gapped] at first
          exact hg c (List.mem_of_head? first)
        obtain ⟨first, behind⟩ := words_of_name hf named stop
        refine ⟨by rwa [first], ?_⟩
        have whole : trim (gap ++ said ++ back) = said :=
          trim_append hg hb (fun _ => trimmed.head) (fun _ => trimmed.getLast)
        rwa [behind, ← List.append_assoc, whole]
  · rintro ⟨named, line⟩
    obtain ⟨front, hf, split⟩ := exists_append_trimStart text
    have parts : text = front ++ (firstWord text ++ behindWord text) := by
      rw [firstWord, behindWord, List.takeWhile_append_dropWhile, ← split]
    obtain ⟨gap, back, hg, hb, behind⟩ := exists_trim_append (behindWord text)
    refine ⟨String.ofList (firstWord text), String.ofList (trim (behindWord text)),
      by simpa using named, ?_⟩
    rw [String.toList_ofList, String.toList_ofList]
    have spelled : SpellsEntry (firstWord text) (trim (behindWord text))
        (front ++ (firstWord text ++ behindWord text)) := by
      by_cases silent : trim (behindWord text) = []
      · rw [silent]
        exact .bare hf (trim_eq_nil_iff.mp silent)
      · have gapped : gap ≠ [] := by
          rintro rfl
          obtain ⟨c, others, start⟩ := List.exists_cons_of_ne_nil silent
          have first : (behindWord text).head? = some c := by
            rw [behind, start]
            rfl
          have apart : isBlank c = false := isBlank_head_trim (by rw [start]; rfl)
          simp [isBlank_head_behindWord first] at apart
        have told : SpellsEntry (firstWord text) (trim (behindWord text))
            (front ++ (firstWord text ++ (gap ++ (trim (behindWord text) ++ back)))) :=
          .told hf hg hb gapped silent (trimmed_trim _) line
        rwa [← List.append_assoc gap, ← behind] at told
    rwa [← parts] at spelled

end Words

-----------------------------------------------------------------------------------------
-- Broken openings
-----------------------------------------------------------------------------------------

/-- The line says nothing that could stand outside of a group, but ends in an opening brace. -/
structure IsBrokenOpening (text : String) : Prop where
  told : ¬ IsRemark text
  stays : ¬ IsClosing text
  unspelled : ∀ opening : Opening, ¬ opening.Spells text.toList
  brace : ∃ front back, AllBlank back ∧ text.toList = front ++ '{' :: back

section Broken

variable {source : Option String} {before after : List String} {text : String}
  {groups : List Group} {names : List String} {number : Nat}

/-- A broken opening is an entry if it starts with a tag, and else it is refused. -/
theorem IsBrokenOpening.classify_cases (broken : IsBrokenOpening text)
    : (StartsWithTag text.toList ∧ ∃ tag message, Line.classify text = .ok (.entry tag message))
      ∨ (¬ StartsWithTag text.toList
        ∧ Line.classify text = .error ⟨String.ofList (trim text.toList)⟩) := by
  rw [← exists_spellsEntry_iff]
  cases said : Line.classify text with
  | error unknown =>
      obtain ⟨silent, rfl⟩ := classify_eq_error_iff.mp said
      refine .inr ⟨?_, rfl⟩
      rintro ⟨tag, message, named, spelled⟩
      exact silent _ (.entry named spelled broken.unspelled)
  | ok line =>
      cases classify_eq_ok_iff.mp said with
      | ignored remark => exact absurd remark broken.told
      | closing closes => exact absurd closes broken.stays
      | opening spelled => exact absurd spelled (broken.unspelled _)
      | @entry tag message named spelled _ =>
          exact .inl ⟨⟨tag, message, named, spelled⟩, tag, message, rfl⟩

/-- Outside of a group, a broken opening is refused as one if it starts with a tag, and else as a line
that is not known.
-/
theorem IsBrokenOpening.step_eq (broken : IsBrokenOpening text)
    : ParserState.step ⟨names, none⟩ source number text
      = .error (if StartsWithTag text.toList
          then .malformedOpening (String.ofList (trim text.toList))
          else .unknownLine ⟨String.ofList (trim text.toList)⟩) := by
  rcases broken.classify_cases with ⟨tagged, tag, message, said⟩ | ⟨untagged, said⟩
  · obtain ⟨front, back, blank, ends⟩ := broken.brace
    have brace : (trim text.toList).getLast? = some '{' := by
      rw [ends]
      exact getLast_trim blank (by decide)
    rw [if_pos tagged]
    simp [ParserState.step, said, ParserState.addEntry, brace, Except.map]
  · rw [if_neg untagged]
    simp [ParserState.step, said]

/-- A line that is an entry or is refused is a broken opening if it ends in an opening brace. -/
theorem isBrokenOpening_of_classify {front back : List Char}
    (said : (∃ unknown, Line.classify text = .error unknown)
      ∨ ∃ tag message, Line.classify text = .ok (.entry tag message))
    (blank : AllBlank back) (ends : text.toList = front ++ '{' :: back)
    : IsBrokenOpening text := by
  have other (line : Line) (spelled : line.SpelledBy text)
      : ∃ tag message, line = .entry tag message := by
    rw [← classify_eq_ok_iff] at spelled
    rcases said with ⟨unknown, said⟩ | ⟨tag, message, said⟩
    · simp [said] at spelled
    · exact ⟨tag, message, by simpa [said] using spelled.symm⟩
  refine ⟨fun remark => ?_, fun closes => ?_, fun opening spelled => ?_, front, back, blank, ends⟩
  · simpa using other _ (.ignored remark)
  · simpa using other _ (.closing closes)
  · simpa using other _ (.opening spelled)

/-- Reading stops at a broken opening that is reached outside of a group, keeps the groups in front
of it and quotes the trimmed line. The line is reported as a malformed opening exactly if it starts
with a tag, and otherwise as a line that is not known.
-/
theorem parseLines_stops_at_brokenOpening (outside : parseLines source before = { groups })
    (broken : IsBrokenOpening text)
    : let trimmed := String.ofList (trim text.toList)
      ∃ problem,
        parseLines source (before ++ text :: after)
          = ⟨groups, some ⟨problem, source, before.length + 1⟩⟩
        ∧ ((StartsWithTag text.toList ∧ problem = .malformedOpening trimmed
            ∧ problem.message = "malformed group header: " ++ quoted trimmed)
          ∨ (¬ StartsWithTag text.toList ∧ problem = .unknownLine ⟨trimmed⟩
            ∧ problem.message = "bad line: " ++ quoted trimmed)) := by
  intro trimmed
  obtain ⟨names, reads⟩ := parseLines_eq_iff_reads.mp outside
  refine ⟨_, parseLines_of_refused reads broken.step_eq after, ?_⟩
  by_cases tagged : StartsWithTag text.toList
  · rw [if_pos tagged]
    exact .inl ⟨tagged, rfl, rfl⟩
  · rw [if_neg tagged]
    exact .inr ⟨tagged, rfl, rfl⟩

end Broken

/-- Behind a group, an opening whose label is not closed is reported as malformed, while one with two
qualifiers and no blank behind its name is a line that is not known.
-/
theorem parseLines_stops_at_brokenOpening_behind_group
    : let before := ["a = 010 \"\" \x7b", "A one", "\x7d # b"]
      let first : Group := { name := "a", base := 8, line := 1, entries := [⟨"A", "one", 2⟩] }
      let unclosed := "\tb\n= 2 \"x \x7b\u2028"
      let crowded := "b= 2 \"x\" c d\x7b"
      parseLines none before = { groups := [first] }
      ∧ IsBrokenOpening unclosed ∧ IsBrokenOpening crowded
      ∧ parseLines none (before ++ [unclosed, "\x7d"])
        = ⟨[first], some ⟨.malformedOpening "b\n= 2 \"x \x7b", none, 4⟩⟩
      ∧ parseLines none (before ++ [crowded])
        = ⟨[first], some ⟨.unknownLine ⟨crowded⟩, none, 4⟩⟩ := by
  intro before first unclosed crowded
  have outside : parseLines none before = { groups := [first] } := by rfl
  have broken : IsBrokenOpening unclosed := by
    refine isBrokenOpening_of_classify (.inr ⟨"b", "= 2 \"x \x7b", by cbv⟩) ?_
      (show unclosed.toList = "\tb\n= 2 \"x ".toList ++ '{' :: ['\u2028'] by cbv)
    decide
  have broken' : IsBrokenOpening crowded :=
    isBrokenOpening_of_classify (.inl ⟨_, show Line.classify crowded = .error ⟨crowded⟩ by cbv⟩)
      allBlank_nil (show crowded.toList = "b= 2 \"x\" c d".toList ++ '{' :: [] by cbv)
  have tagged : StartsWithTag unclosed.toList := by decide
  have untagged : ¬ StartsWithTag crowded.toList := by decide
  have trimmed : String.ofList (trim unclosed.toList) = "b\n= 2 \"x \x7b" := by cbv
  have trimmed' : String.ofList (trim crowded.toList) = crowded := by cbv
  obtain ⟨problem, stopped, ⟨-, same, -⟩ | ⟨apart, -⟩⟩ :=
    @parseLines_stops_at_brokenOpening none before ["\x7d"] unclosed _ outside broken
  · obtain ⟨problem', stopped', ⟨apart, -⟩ | ⟨-, same', -⟩⟩ :=
      @parseLines_stops_at_brokenOpening none before [] crowded _ outside broken'
    · exact absurd apart untagged
    · rw [same, trimmed] at stopped
      rw [same', trimmed'] at stopped'
      exact ⟨outside, broken, broken', stopped, stopped'⟩
  · exact absurd tagged apart

/-- A broken opening whose name is not followed by a blank is not reported as one, while the same
opening with a blank is.
-/
theorem brokenOpening_is_not_reported
    : IsBrokenOpening "g=1 \x7b" ∧ IsBrokenOpening "g =1 \x7b" ∧ parseLines none [] = {}
      ∧ parseLines none ["g=1 \x7b"] = ⟨[], some ⟨.unknownLine ⟨"g=1 \x7b"⟩, none, 1⟩⟩
      ∧ parseLines none ["g =1 \x7b"] = ⟨[], some ⟨.malformedOpening "g =1 \x7b", none, 1⟩⟩ := by
  have refused : Line.classify "g=1 \x7b" = .error ⟨"g=1 \x7b"⟩ := by cbv
  have taken : Line.classify "g =1 \x7b" = .ok (.entry "g" "=1 \x7b") := by cbv
  refine ⟨?_, ?_, rfl, rfl, rfl⟩
  · exact isBrokenOpening_of_classify (.inl ⟨_, refused⟩) allBlank_nil
      (show "g=1 \x7b".toList = "g=1 ".toList ++ '{' :: [] by cbv)
  · exact isBrokenOpening_of_classify (.inr ⟨_, _, taken⟩) allBlank_nil
      (show "g =1 \x7b".toList = "g =1 ".toList ++ '{' :: [] by cbv)

end ErrorTables.Definition
