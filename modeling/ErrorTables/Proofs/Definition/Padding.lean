import ErrorTables.Proofs.Definition.LineGrammar

/-! Blanks around a line do not matter.
What a line says is said by its trimmed text, so that lines with the same trimmed text say the same.
-/

namespace ErrorTables

-----------------------------------------------------------------------------------------
-- Trimmed texts
-----------------------------------------------------------------------------------------

namespace Text

/-- Blanks around a text are trimmed away with its own. -/
theorem trim_pad {front back : List Char} (hf : AllBlank front) (hb : AllBlank back)
    (text : List Char)
    : trim (front ++ text ++ back) = trim text := by
  obtain ⟨start, rest, hs, hr, split⟩ := exists_trim_append text
  have whole : front ++ text ++ back = (front ++ start) ++ trim text ++ (rest ++ back) := by
    conv_lhs => rw [split]
    simp only [List.append_assoc]
  rw [whole]
  exact trim_append (allBlank_append.mpr ⟨hf, hs⟩) (allBlank_append.mpr ⟨hr, hb⟩)
    (fun _ => isBlank_head_trim) (fun _ => isBlank_getLast_trim)

/-- Nothing is left of a text exactly if it is blank. -/
theorem trim_eq_nil_iff {text : List Char} : trim text = [] ↔ AllBlank text := by
  constructor
  · intro nothing
    obtain ⟨front, back, hf, hb, split⟩ := exists_trim_append text
    rw [split, nothing, List.append_nil]
    exact allBlank_append.mpr ⟨hf, hb⟩
  · intro blank
    rw [trim, trimStart_eq_nil_iff.mpr blank, trimEnd_nil]

/-- A character that is not blank comes first in the trimmed text exactly if only blanks stand in
front of it.
-/
theorem head_trim_eq_iff {text : List Char} {c : Char} (hc : isBlank c = false)
    : (trim text).head? = some c ↔ ∃ front rest, AllBlank front ∧ text = front ++ c :: rest := by
  constructor
  · intro first
    obtain ⟨front, back, hf, -, split⟩ := exists_trim_append text
    obtain ⟨rest, start⟩ := List.head?_eq_some_iff.mp first
    refine ⟨front, rest ++ back, hf, ?_⟩
    rw [split, start, List.append_assoc, List.cons_append]
  · rintro ⟨front, rest, blank, rfl⟩
    exact head_trim blank hc

end Text

namespace Definition

open Text

section Spellings

variable {opening : Opening} {tag message text front back : List Char}

/-- An opening is spelled out with any blanks around it. -/
theorem Opening.Spells.pad (h : opening.Spells text) (hf : AllBlank front) (hb : AllBlank back)
    : opening.Spells (front ++ text ++ back) := by
  obtain ⟨start, beforeSign, beforeBase, beforeLabel, ending, hs, hsign, hbase, hlabel, rfl, named,
    based, baseChars, line, gap, middle, last, hg, hm, hl, rfl, qualifies⟩ := h
  refine ⟨front ++ start, beforeSign, beforeBase, beforeLabel,
    gap ++ ((opening.qualifier.getD "").toList ++ (middle ++ '{' :: (last ++ back))),
    allBlank_append.mpr ⟨hf, hs⟩, hsign, hbase, hlabel, ?_, named, based, baseChars, line, gap,
    middle, last ++ back, hg, hm, allBlank_append.mpr ⟨hl, hb⟩, rfl, qualifies⟩
  simp only [List.append_assoc, List.cons_append]

/-- An opening is spelled out without the blanks around it: it starts with a name and ends with a
brace.
-/
theorem Opening.Spells.trim (h : opening.Spells text) : opening.Spells (trim text) := by
  obtain ⟨start, beforeSign, beforeBase, beforeLabel, ending, hs, hsign, hbase, hlabel, rfl, named,
    based, baseChars, line, gap, middle, last, hg, hm, hl, rfl, qualifies⟩ := h
  generalize bare : opening.name.toList ++ (beforeSign ++ '=' :: (beforeBase
    ++ (opening.base.toList ++ (beforeLabel ++ '"' :: (opening.label.toList
      ++ '"' :: (gap ++ ((opening.qualifier.getD "").toList ++ middle))))))) = body
  have first : ∀ c, (body ++ ['{']).head? = some c → isBlank c = false := by
    rw [← bare, List.append_assoc]
    exact isBlank_head_name named
  have final : ∀ c, (body ++ ['{']).getLast? = some c → isBlank c = false := by
    intro c ends
    obtain rfl : '{' = c := by simpa using ends
    decide
  have trimmed := trim_append hs hl first final
  simp only [← bare, List.append_assoc, List.cons_append, List.nil_append] at trimmed
  rw [trimmed]
  exact ⟨[], beforeSign, beforeBase, beforeLabel, _, allBlank_nil, hsign, hbase, hlabel, rfl,
    named, based, baseChars, line, gap, middle, [], hg, hm, allBlank_nil, rfl, qualifies⟩

/-- An entry is spelled out with any blanks around it. -/
theorem SpellsEntry.pad (h : SpellsEntry tag message text) (hf : AllBlank front)
    (hb : AllBlank back)
    : SpellsEntry tag message (front ++ text ++ back) := by
  cases h with
  | @bare start rest hs hr =>
      have wide : SpellsEntry tag [] ((front ++ start) ++ (tag ++ (rest ++ back))) :=
        .bare (allBlank_append.mpr ⟨hf, hs⟩) (allBlank_append.mpr ⟨hr, hb⟩)
      simpa only [List.append_assoc] using wide
  | @told start gap _ rest hs hg hr gapped said trimmed line =>
      have wide : SpellsEntry tag message
          ((front ++ start) ++ (tag ++ (gap ++ (message ++ (rest ++ back))))) :=
        .told (allBlank_append.mpr ⟨hf, hs⟩) hg (allBlank_append.mpr ⟨hr, hb⟩) gapped said trimmed
          line
      simpa only [List.append_assoc] using wide

/-- An entry is spelled out without the blanks around it: it starts with its tag, and ends with it
or with the message.
-/
theorem SpellsEntry.trim (named : isName tag = true) (h : SpellsEntry tag message text)
    : SpellsEntry tag message (trim text) := by
  have filled : tag ≠ [] := by
    obtain ⟨c, rest, rfl, -⟩ := isName_head named
    simp
  cases h with
  | @bare start rest hs hr =>
      have trimmed : Text.trim (start ++ tag ++ rest) = tag :=
        trim_append hs hr (List.append_nil tag ▸ isBlank_head_name named)
          (fun c last => isBlank_of_isWord (isWord_of_isName named (List.mem_of_getLast? last)))
      rw [← List.append_assoc, trimmed]
      have alone : SpellsEntry tag [] ([] ++ (tag ++ [])) := .bare allBlank_nil allBlank_nil
      rwa [List.nil_append, List.append_nil] at alone
  | @told start gap _ rest hs hg hr gapped said trimmed line =>
      have bare : Text.trim (start ++ (tag ++ (gap ++ message)) ++ rest)
          = tag ++ (gap ++ message) := by
        refine trim_append hs hr (isBlank_head_name named) fun c last => ?_
        rw [← List.append_assoc, List.getLast?_append_of_ne_nil _ said] at last
        exact trimmed.getLast last
      have whole : start ++ (tag ++ (gap ++ (message ++ rest)))
          = start ++ (tag ++ (gap ++ message)) ++ rest := by
        simp only [List.append_assoc]
      rw [whole, bare]
      have alone : SpellsEntry tag message ([] ++ (tag ++ (gap ++ (message ++ [])))) :=
        .told allBlank_nil hg allBlank_nil gapped said trimmed line
      rwa [List.nil_append, List.append_nil] at alone

end Spellings

-----------------------------------------------------------------------------------------
-- What a line says
-----------------------------------------------------------------------------------------

theorem Opening.read?_trim (text : List Char)
    : Opening.read? (trim text) = Opening.read? text := by
  refine Option.ext fun opening => ?_
  rw [Opening.read?_eq_some_iff, Opening.read?_eq_some_iff]
  refine ⟨fun spelled => ?_, Opening.Spells.trim⟩
  obtain ⟨front, back, hf, hb, split⟩ := exists_trim_append text
  rw [split]
  exact spelled.pad hf hb

theorem readEntry?_trim (text : List Char) : readEntry? (trim text) = readEntry? text := by
  refine Option.ext fun ⟨tag, message⟩ => ?_
  rw [readEntry?_eq_some_iff, readEntry?_eq_some_iff]
  refine and_congr_right fun named => ⟨fun spelled => ?_, SpellsEntry.trim named⟩
  obtain ⟨front, back, hf, hb, split⟩ := exists_trim_append text
  rw [split]
  exact spelled.pad hf hb

/-- Lines with the same trimmed text say the same, and are refused alike. -/
theorem classify_congr {first second : String} (same : trim first.toList = trim second.toList)
    : Line.classify first = Line.classify second := by
  simp only [Line.classify, ← Opening.read?_trim first.toList, ← readEntry?_trim first.toList,
    ← Opening.read?_trim second.toList, ← readEntry?_trim second.toList, same]

/-- A line that says nothing: it is blank, or a number sign comes first in it. -/
def IsRemark (text : String) : Prop :=
  AllBlank text.toList ∨ ∃ front rest, AllBlank front ∧ text.toList = front ++ '#' :: rest

theorem classify_eq_ignored_iff {text : String}
    : Line.classify text = .ok .ignored ↔ IsRemark text := by
  have hash : isBlank '#' = false := by decide
  rw [IsRemark, ← trim_eq_nil_iff, ← head_trim_eq_iff hash, Line.classify]
  cases start : trim text.toList with
  | nil => simp
  | cons c rest =>
      by_cases sign : c = '#'
      · subst sign
        simp
      · simp only [List.head?_cons, List.cons_ne_nil, Option.some.injEq, sign, or_self, iff_false]
        intro ignored
        split at ignored
        · contradiction
        · simp_all
        · contradiction
        · split at ignored <;> simp at ignored

end Definition

end ErrorTables
