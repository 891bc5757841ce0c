import ErrorTables.Proofs.Definition.Padding

/-! What any line says is decided by how it is spelled.
The kinds of lines do not overlap and the parts of a line are unique; a line is refused exactly if
it is spelled like none of them.
-/

namespace ErrorTables.Definition

open Text

/-- A line that closes a group: a closing brace comes first in it. -/
def IsClosing (text : String) : Prop :=
  ∃ front rest, AllBlank front ∧ text.toList = front ++ '}' :: rest

/-- What a line says by how it is spelled. What spells an opening out is no entry, although some
openings could be read as a tag and a message.
-/
inductive Line.SpelledBy (text : String) : Line → Prop
  | ignored (remark : IsRemark text) : SpelledBy text .ignored
  | closing (closes : IsClosing text) : SpelledBy text .closing
  | opening {opening : Opening} (spelled : opening.Spells text.toList)
    : SpelledBy text (.opening opening)
  | entry {tag message : String} (named : isName tag.toList = true)
    (spelled : SpellsEntry tag.toList message.toList text.toList)
    (other : ∀ opening : Opening, ¬ opening.Spells text.toList)
    : SpelledBy text (.entry tag message)

-----------------------------------------------------------------------------------------
-- One kind after the other
-----------------------------------------------------------------------------------------

theorem classify_eq_closing_iff {text : String}
    : Line.classify text = .ok .closing ↔ IsClosing text := by
  have brace : isBlank '}' = false := by decide
  rw [IsClosing, ← head_trim_eq_iff brace, Line.classify]
  cases start : trim text.toList with
  | nil => simp
  | cons c rest =>
      by_cases same : c = '}'
      · subst same
        simp
      · simp only [List.head?_cons, Option.some.injEq, same, iff_false]
        intro closing
        split at closing
        · contradiction
        · contradiction
        · simp_all
        · split at closing <;> simp at closing

theorem Opening.read?_eq_none_iff {text : List Char}
    : Opening.read? text = none ↔ ∀ opening : Opening, ¬ opening.Spells text := by
  simp only [Option.eq_none_iff_forall_ne_some, ne_eq, Opening.read?_eq_some_iff]

/-- A line is taken for something exactly if it is spelled so, by the kinds of lines. -/
theorem classify_eq_ok_iff {text : String} {line : Line}
    : Line.classify text = .ok line ↔ line.SpelledBy text := by
  constructor
  · intro taken
    cases line with
    | ignored => exact .ignored (classify_eq_ignored_iff.mp taken)
    | opening opening => exact .opening (classify_eq_opening_iff.mp taken)
    | closing => exact .closing (classify_eq_closing_iff.mp taken)
    | entry tag message =>
        obtain ⟨named, spelled, unread⟩ := classify_eq_entry_iff.mp taken
        exact .entry named spelled (Opening.read?_eq_none_iff.mp unread)
  · intro spelled
    cases spelled with
    | ignored remark => exact classify_eq_ignored_iff.mpr remark
    | closing closes => exact classify_eq_closing_iff.mpr closes
    | opening spelled => exact classify_eq_opening_iff.mpr spelled
    | entry named spelled other =>
        exact classify_eq_entry_iff.mpr ⟨named, spelled, Opening.read?_eq_none_iff.mpr other⟩

/-- A line that is refused is reported by its trimmed text. -/
theorem eq_of_classify_eq_error {text : String} {unknown : UnknownLine}
    (refused : Line.classify text = .error unknown)
    : unknown = ⟨String.ofList (trim text.toList)⟩ := by
  simp only [Line.classify] at refused
  split at refused
  · contradiction
  · contradiction
  · contradiction
  · split at refused
    · contradiction
    · contradiction
    · exact (Except.error.inj refused).symm

/-- A line is refused exactly if it says nothing. -/
theorem classify_eq_error_iff {text : String} {unknown : UnknownLine}
    : Line.classify text = .error unknown
      ↔ (∀ line : Line, ¬ line.SpelledBy text) ∧ unknown = ⟨String.ofList (trim text.toList)⟩ := by
  constructor
  · intro refused
    refine ⟨?_, eq_of_classify_eq_error refused⟩
    intro line spelled
    have taken := classify_eq_ok_iff.mpr spelled
    simp [refused] at taken
  · rintro ⟨silent, rfl⟩
    cases outcome : Line.classify text with
    | error unknown => rw [eq_of_classify_eq_error outcome]
    | ok line => exact absurd (classify_eq_ok_iff.mp outcome) (silent line)

-----------------------------------------------------------------------------------------
-- The parts of an opening
-----------------------------------------------------------------------------------------

/-- A line spells one opening out at most. -/
theorem Opening.Spells.unique {first second : Opening} {text : List Char}
    (h : first.Spells text) (h' : second.Spells text)
    : first = second :=
  Option.some.inj
    ((Opening.read?_eq_some_iff.mpr h).symm.trans (Opening.read?_eq_some_iff.mpr h'))

/-- The label of an opening stands between the first double quote of the line and the last one. -/
theorem Opening.Spells.label_between {opening : Opening} {text : List Char}
    (h : opening.Spells text)
    : ∃ before after, text = before ++ '"' :: (opening.label.toList ++ '"' :: after)
      ∧ '"' ∉ before ∧ '"' ∉ after := by
  obtain ⟨front, beforeSign, beforeBase, beforeLabel, ending, hf, hs, hb, hl, rfl, named, -,
    baseChars, -, ended⟩ := h
  have blank {part : List Char} (hp : AllBlank part) : '"' ∉ part := by
    intro member
    have impossible := hp _ member
    contradiction
  have name : '"' ∉ opening.name.toList := by
    intro member
    have impossible := isWord_of_isName named member
    contradiction
  have base : '"' ∉ opening.base.toList := by
    intro member
    have impossible := baseChars _ member
    contradiction
  refine ⟨front ++ (opening.name.toList ++ (beforeSign ++ '=' :: (beforeBase
    ++ (opening.base.toList ++ beforeLabel)))), ending, ?_, ?_, ended.noQuote⟩
  · simp only [List.append_assoc, List.cons_append]
  · simp [blank hf, name, blank hs, blank hb, base, blank hl]

-----------------------------------------------------------------------------------------
-- The decision
-----------------------------------------------------------------------------------------

/-- Every line says one thing at most, by how it is spelled, and this is what it is taken for; it is
refused, by its trimmed text, exactly if it says nothing. The parts of an opening are determined by
the line, and its label reaches from the first double quote to the last one.
-/
theorem classify_decides (text : String)
    : (∀ line, Line.classify text = .ok line ↔ line.SpelledBy text)
      ∧ (∀ unknown, Line.classify text = .error unknown
        ↔ (∀ line : Line, ¬ line.SpelledBy text) ∧ unknown = ⟨String.ofList (trim text.toList)⟩)
      ∧ (∀ first second : Line, first.SpelledBy text → second.SpelledBy text → first = second)
      ∧ (∀ first second : Opening, first.Spells text.toList → second.Spells text.toList →
        first = second)
      ∧ ∀ opening : Opening, opening.Spells text.toList →
        ∃ before after, text.toList = before ++ '"' :: (opening.label.toList ++ '"' :: after)
          ∧ '"' ∉ before ∧ '"' ∉ after := by
  refine ⟨fun line => classify_eq_ok_iff, fun unknown => classify_eq_error_iff, ?_,
    fun first second => Opening.Spells.unique, fun opening => Opening.Spells.label_between⟩
  intro first second spelled spelled'
  have taken := classify_eq_ok_iff.mpr spelled
  rw [classify_eq_ok_iff.mpr spelled'] at taken
  exact (Except.ok.inj taken).symm

/-- A label may hold double quotes and what looks like the end of an opening, and the line may hold
line breaks; a message must not.
-/
theorem classify_decides_quotes
    : let opening : Opening := ⟨"a", "0x1", "b\" c \x7b\" ", some "d::e"⟩
      let text := "\na=0x1\"b\" c \x7b\" \"\u2028d::e\x7b\n"
      Line.classify text = .ok (.opening opening)
      ∧ Line.SpelledBy text (.opening opening)
      ∧ (∃ before after, text.toList = before ++ '"' :: (opening.label.toList ++ '"' :: after)
        ∧ '"' ∉ before ∧ '"' ∉ after)
      ∧ Line.classify "a b\nc" = .error ⟨"a b\nc"⟩
      ∧ ∀ line : Line, ¬ line.SpelledBy "a b\nc" := by
  intro opening text
  have taken : Line.classify text = .ok (.opening opening) := by cbv
  have refused : Line.classify "a b\nc" = .error ⟨"a b\nc"⟩ := by cbv
  obtain ⟨decided, -, -, -, between⟩ := classify_decides text
  obtain ⟨-, silent, -⟩ := classify_decides "a b\nc"
  exact ⟨taken, (decided _).mp taken, between opening (classify_eq_opening_iff.mp taken), refused,
    ((silent _).mp refused).1⟩

end ErrorTables.Definition
