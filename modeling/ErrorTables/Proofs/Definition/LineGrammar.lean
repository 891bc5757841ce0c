import ErrorTables.Definition.Line
import ErrorTables.Proofs.Text.Names

/-! The grammar of the lines of a definition file, apart from the functions that read them.
An opening and an entry are described by how they are spelled; reading a line finds exactly the
spelled parts, and no other line is read as an opening or as an entry.
-/

namespace ErrorTables.Definition

open Text

-----------------------------------------------------------------------------------------
-- Spellings
-----------------------------------------------------------------------------------------

/-- A qualifier starts like a name and goes on with word characters and colons. -/
def isQualifier : List Char → Bool
  | [] => false
  | c :: rest => isNameStart c && rest.all isQualifierChar

/-- What follows the label of an opening: a qualifier, if there is one, and a brace, with blanks
anywhere between them.
-/
def SpellsEnd (qualifier : Option String) (text : List Char) : Prop :=
  ∃ front middle back,
    AllBlank front ∧ AllBlank middle ∧ AllBlank back
    ∧ text = front ++ ((qualifier.getD "").toList ++ (middle ++ '{' :: back))
    ∧ ∀ written, qualifier = some written → isQualifier written.toList = true

/-- The line spells the opening out. Blanks may stand around each of its parts, and the label is
followed by no further double quote because none can stand in what follows it.
-/
def Opening.Spells (opening : Opening) (text : List Char) : Prop :=
  ∃ front beforeSign beforeBase beforeLabel ending,
    AllBlank front ∧ AllBlank beforeSign ∧ AllBlank beforeBase ∧ AllBlank beforeLabel
    ∧ text = front ++ (opening.name.toList ++ (beforeSign ++ '=' :: (beforeBase
        ++ (opening.base.toList ++ (beforeLabel ++ '"' :: (opening.label.toList
          ++ '"' :: ending))))))
    ∧ isName opening.name.toList = true
    ∧ opening.base.toList ≠ [] ∧ (∀ c ∈ opening.base.toList, isBaseChar c = true)
    ∧ '\n' ∉ opening.label.toList
    ∧ SpellsEnd opening.qualifier ending

/-- The line spells an entry out: a tag alone, or a tag and a message that is set off by blanks and
has none at its ends.
-/
inductive SpellsEntry (tag : List Char) : List Char → List Char → Prop
  | bare {front back} (hf : AllBlank front) (hb : AllBlank back)
    : SpellsEntry tag [] (front ++ (tag ++ back))
  | told {front gap message back} (hf : AllBlank front) (hg : AllBlank gap) (hb : AllBlank back)
    (gapped : gap ≠ []) (said : message ≠ []) (trimmed : Trimmed message) (line : '\n' ∉ message)
    : SpellsEntry tag message (front ++ (tag ++ (gap ++ (message ++ back))))

-----------------------------------------------------------------------------------------
-- Characters of the parts
-----------------------------------------------------------------------------------------

/-- The characters of bases are ASCII. -/
theorem toNat_lt_of_isBaseChar {c : Char} (h : isBaseChar c = true) : c.toNat < 0x80 := by
  simp only [isBaseChar, Char.isDigit, Bool.or_eq_true, Bool.and_eq_true, decide_eq_true_eq,
    beq_iff_eq] at h
  rcases h with (((⟨-, h⟩ | ⟨-, h⟩) | ⟨-, h⟩) | rfl) | rfl
  · exact Nat.lt_of_le_of_lt h (by decide)
  · exact Nat.lt_of_le_of_lt h (by decide)
  · exact Nat.lt_of_le_of_lt h (by decide)
  · decide
  · decide

theorem isWord_of_isBaseChar {c : Char} (h : isBaseChar c = true) : isWord c = true := by
  have alphanumeric : c.isAlphanum = true := by
    simp only [isBaseChar, Bool.or_eq_true, Bool.and_eq_true, decide_eq_true_eq, beq_iff_eq] at h
    simp only [Char.isAlphanum, Char.isAlpha, Char.isUpper, Char.isLower, Bool.or_eq_true,
      Bool.and_eq_true, decide_eq_true_eq]
    rcases h with (((h | ⟨low, high⟩) | ⟨low, high⟩) | rfl) | rfl
    · exact Or.inr h
    · exact Or.inl (Or.inr ⟨low, Nat.le_trans high (by decide)⟩)
    · exact Or.inl (Or.inl ⟨low, Nat.le_trans high (by decide)⟩)
    · decide
    · decide
  simp [isWord, toNat_lt_of_isBaseChar h, alphanumeric]

theorem isBlank_of_isQualifierChar {c : Char} (h : isQualifierChar c = true)
    : isBlank c = false := by
  simp only [isQualifierChar, Bool.or_eq_true, beq_iff_eq] at h
  rcases h with h | rfl
  · exact isBlank_of_isWord h
  · decide

theorem isQualifier_iff {text : List Char}
    : isQualifier text = true
      ↔ text.head?.any isNameStart = true ∧ ∀ c ∈ text, isQualifierChar c = true := by
  cases text with
  | nil => simp [isQualifier]
  | cons c rest =>
      have first : isNameStart c = true → isQualifierChar c = true := by
        intro h
        simp [isQualifierChar, isWord_of_isNameStart h]
      simp only [isQualifier, Bool.and_eq_true, List.all_eq_true, List.head?_cons,
        Option.any_some, List.mem_cons, forall_eq_or_imp]
      exact ⟨fun h => ⟨h.1, first h.1, h.2⟩, fun h => ⟨h.1, h.2.2⟩⟩

/-- After blanks, a mark that is not of a kind ends a run of that kind. -/
theorem head_blank_mark {kind : Char → Bool} {front rest : List Char} {mark : Char}
    (apart : ∀ c, kind c = true → isBlank c = false) (blank : AllBlank front)
    (hm : kind mark = false)
    : ∀ c, (front ++ mark :: rest).head? = some c → kind c = false := by
  intro c first
  by_contra inside
  cases front with
  | nil => simp_all
  | cons d tail =>
      have same : d = c := by simpa using first
      have hd := blank d (by simp)
      rw [same, apart c (by simpa using inside)] at hd
      contradiction

-----------------------------------------------------------------------------------------
-- Reading the parts
-----------------------------------------------------------------------------------------

theorem takeName?_eq_some_iff {text name rest : List Char}
    : takeName? text = some (name, rest)
      ↔ text = name ++ rest ∧ isName name = true
        ∧ ∀ c, rest.head? = some c → isWord c = false := by
  constructor
  · intro h
    simp only [takeName?, Option.ite_none_right_eq_some, Option.some.injEq, Prod.mk.injEq] at h
    obtain ⟨start, rfl, rfl⟩ := h
    refine ⟨List.takeWhile_append_dropWhile.symm, ?_, fun c => head_dropWhile⟩
    cases text with
    | nil => simp at start
    | cons c tail =>
        have start : isNameStart c = true := by simpa using start
        have word := isWord_of_isNameStart start
        rw [isName_iff]
        refine ⟨by simp [word, start], fun d member => List.mem_takeWhile_imp member⟩
  · intro held
    obtain ⟨rfl, named, stop⟩ := held
    have start : (name ++ rest).head?.any isNameStart = true := by
      obtain ⟨c, tail, rfl, start⟩ := isName_head named
      simpa using start
    have inside := fun c => @isWord_of_isName _ named c
    simp only [takeName?, start, if_true, takeWhile_run inside stop, dropWhile_run inside stop]

/-- A mark is met behind blanks. -/
theorem expect?_eq_some_iff {mark : Char} {text rest : List Char} (hm : isBlank mark = false)
    : expect? mark text = some rest
      ↔ ∃ front, AllBlank front ∧ text = front ++ mark :: rest := by
  constructor
  · intro h
    obtain ⟨front, blank, eq⟩ := exists_append_trimStart text
    refine ⟨front, blank, ?_⟩
    cases start : trimStart text with
    | nil => simp [expect?, start] at h
    | cons c tail =>
        simp only [expect?, start, Option.ite_none_right_eq_some, Option.some.injEq] at h
        rw [eq, start, h.1, h.2]
  · intro held
    obtain ⟨front, blank, rfl⟩ := held
    simp [expect?, trimStart_append_cons blank hm]

theorem splitAtLast?_eq_none_iff {mark : Char} {text : List Char}
    : splitAtLast? mark text = none ↔ mark ∉ text := by
  induction text with
  | nil => simp [splitAtLast?]
  | cons c rest ih =>
      cases found : splitAtLast? mark rest with
      | some parts =>
          have present : mark ∈ rest := by
            by_contra absent
            simp [ih.mpr absent] at found
          simp [splitAtLast?, found, present]
      | none =>
          have absent := ih.mp found
          simp [splitAtLast?, found, absent, eq_comm]

/-- A text is split at the last occurrence of a mark, behind which there is none. -/
theorem splitAtLast?_eq_some_iff {mark : Char} {text before after : List Char}
    : splitAtLast? mark text = some (before, after)
      ↔ text = before ++ mark :: after ∧ mark ∉ after := by
  constructor
  · intro h
    induction text generalizing before with
    | nil => simp [splitAtLast?] at h
    | cons c rest ih =>
        cases found : splitAtLast? mark rest with
        | some parts =>
            simp only [splitAtLast?, found, Option.some.injEq, Prod.mk.injEq] at h
            obtain ⟨rfl, rfl⟩ := h
            obtain ⟨eq, absent⟩ := ih found
            exact ⟨by rw [List.cons_append, ← eq], absent⟩
        | none =>
            simp only [splitAtLast?, found, Option.ite_none_right_eq_some, Option.some.injEq,
              Prod.mk.injEq] at h
            obtain ⟨rfl, rfl, rfl⟩ := h
            exact ⟨rfl, splitAtLast?_eq_none_iff.mp found⟩
  · intro held
    obtain ⟨rfl, absent⟩ := held
    induction before with
    | nil => simp [splitAtLast?, splitAtLast?_eq_none_iff.mpr absent]
    | cons c tail ih => simp [splitAtLast?, ih]

/-- The qualifier at the start of a text, nothing if there is none. -/
def leadingQualifier (text : List Char) : List Char :=
  if text.head?.any isNameStart then text.takeWhile isQualifierChar else []

/-- What is taken from the start of a text is a qualifier or nothing. -/
theorem leadingQualifier_spec (text : List Char)
    : (leadingQualifier text = [] ∨ isQualifier (leadingQualifier text) = true)
      ∧ text = leadingQualifier text ++ text.drop (leadingQualifier text).length := by
  by_cases start : text.head?.any isNameStart = true
  · simp only [leadingQualifier, start, if_true]
    refine ⟨Or.inr ?_, ?_⟩
    · rw [isQualifier_iff]
      refine ⟨?_, fun c member => List.mem_takeWhile_imp member⟩
      cases text with
      | nil => simp at start
      | cons c tail =>
          have start : isNameStart c = true := by simpa using start
          simp [isQualifierChar, isWord_of_isNameStart start, start]
    · exact (List.prefix_iff_eq_append.mp (List.takeWhile_prefix _)).symm
  · simp [leadingQualifier, start]

/-- A qualifier is taken whole in front of a character that cannot go on with it. -/
theorem leadingQualifier_append {written rest : List Char}
    (qualifies : written = [] ∨ isQualifier written = true)
    (stop : ∀ c, rest.head? = some c → isQualifierChar c = false)
    : leadingQualifier (written ++ rest) = written := by
  rcases qualifies with rfl | qualifies
  · cases rest with
    | nil => rfl
    | cons c tail =>
        have start : isNameStart c = false := by
          by_contra start
          have word := isWord_of_isNameStart (by simpa using start)
          simp [isQualifierChar, word] at stop
        simp [leadingQualifier, start]
  · obtain ⟨first, inside⟩ := isQualifier_iff.mp qualifies
    cases written with
    | nil => simp at first
    | cons c tail =>
        have start : ((c :: tail) ++ rest).head?.any isNameStart = true := by simpa using first
        simp only [leadingQualifier, start, if_true, takeWhile_run inside stop]

theorem readOpeningEnd?_eq_some_iff {text : List Char} {qualifier : Option String}
    : readOpeningEnd? text = some qualifier ↔ SpellsEnd qualifier text := by
  have unfolded : readOpeningEnd? text
      = (expect? '{' ((trimStart text).drop (leadingQualifier (trimStart text)).length)).bind
          fun rest =>
            if rest.all isBlank then
              some (if (leadingQualifier (trimStart text)).isEmpty then none
                else some (String.ofList (leadingQualifier (trimStart text))))
            else none := by
    rw [readOpeningEnd?, ← leadingQualifier]
    cases expect? '{' ((trimStart text).drop (leadingQualifier (trimStart text)).length) <;> rfl
  rw [unfolded]
  constructor
  · intro h
    obtain ⟨front, hf, eq⟩ := exists_append_trimStart text
    obtain ⟨qualifies, parts⟩ := leadingQualifier_spec (trimStart text)
    generalize leadingQualifier (trimStart text) = written at h qualifies parts
    obtain ⟨rest, found, h⟩ := Option.bind_eq_some_iff.mp h
    rw [expect?_eq_some_iff (by decide)] at found
    obtain ⟨middle, hm, found⟩ := found
    simp only [all_isBlank_iff, Option.ite_none_right_eq_some, Option.some.injEq] at h
    obtain ⟨hb, rfl⟩ := h
    refine ⟨front, middle, rest, hf, hm, hb, ?_, ?_⟩
    · rw [eq, parts, found]
      by_cases none : written = [] <;> simp [none]
    · rcases qualifies with rfl | qualifies
      · simp
      · intro name eq
        by_cases none : written = []
        · simp [none] at eq
        · simp only [List.isEmpty_iff, none, if_false, Option.some.injEq] at eq
          simpa [← eq] using qualifies
  · intro held
    obtain ⟨front, middle, back, hf, hm, hb, rfl, qualifies⟩ := held
    -- Without a qualifier, trimming takes the blanks in front of the brace as well.
    have start : ∃ gap, AllBlank gap
        ∧ trimStart (front ++ ((qualifier.getD "").toList ++ (middle ++ '{' :: back)))
          = (qualifier.getD "").toList ++ (gap ++ '{' :: back) := by
      rw [trimStart_append hf]
      cases qualifier with
      | none => exact ⟨[], allBlank_nil, trimStart_append_cons hm (by decide)⟩
      | some written =>
          refine ⟨middle, hm, trimStart_eq_self ?_⟩
          obtain ⟨first, -⟩ := isQualifier_iff.mp (qualifies written rfl)
          cases split : written.toList with
          | nil => simp [split] at first
          | cons c tail =>
              have start : isNameStart c = true := by simpa [split] using first
              simp [split, isBlank_of_isNameStart start]
    obtain ⟨gap, blank, start⟩ := start
    have written : (qualifier.getD "").toList = []
        ∨ isQualifier (qualifier.getD "").toList = true := by
      cases qualifier with
      | none => exact Or.inl rfl
      | some written => exact Or.inr (qualifies written rfl)
    have stop : ∀ c, (gap ++ '{' :: back).head? = some c → isQualifierChar c = false :=
      head_blank_mark (fun c => isBlank_of_isQualifierChar) blank (by decide)
    have found : expect? '{' (gap ++ '{' :: back) = some back :=
      (expect?_eq_some_iff (by decide)).mpr ⟨gap, blank, rfl⟩
    rw [start, leadingQualifier_append written stop, List.drop_left, found]
    simp only [Option.bind_some, all_isBlank_iff.mpr hb, if_true, Option.some.injEq]
    cases qualifier with
    | none => rfl
    | some name =>
        have named : name.toList ≠ [] := by
          intro none
          simpa [none, isQualifier] using qualifies name rfl
        simp [named]

-----------------------------------------------------------------------------------------
-- Reading a line
-----------------------------------------------------------------------------------------

theorem SpellsEnd.noQuote {qualifier : Option String} {text : List Char}
    (h : SpellsEnd qualifier text)
    : '"' ∉ text := by
  obtain ⟨front, middle, back, hf, hm, hb, rfl, qualifies⟩ := h
  have blank {part : List Char} (hp : AllBlank part) : '"' ∉ part := by
    intro member
    have impossible := hp _ member
    contradiction
  have written : '"' ∉ (qualifier.getD "").toList := by
    cases qualifier with
    | none => simp
    | some name =>
        intro member
        have inside := (isQualifier_iff.mp (qualifies name rfl)).2 _ member
        contradiction
  simp [blank hf, blank hm, blank hb, written]

/-- The steps in which an opening is read from a line, each from what the one before leaves. -/
theorem Opening.read?_steps {text : List Char} {opening : Opening}
    : Opening.read? text = some opening
      ↔ ∃ name afterName afterSign afterMark label ending qualifier,
          takeName? (trimStart text) = some (name, afterName)
          ∧ expect? '=' afterName = some afterSign
          ∧ (trimStart afterSign).takeWhile isBaseChar ≠ []
          ∧ expect? '"' ((trimStart afterSign).dropWhile isBaseChar) = some afterMark
          ∧ splitAtLast? '"' afterMark = some (label, ending)
          ∧ '\n' ∉ label
          ∧ readOpeningEnd? ending = some qualifier
          ∧ opening = ⟨String.ofList name,
              String.ofList ((trimStart afterSign).takeWhile isBaseChar),
              String.ofList label, qualifier⟩ := by
  simp only [Opening.read?, Option.bind_eq_bind, Option.bind_eq_some_iff, Prod.exists]
  constructor
  · intro held
    obtain ⟨name, afterName, named, afterSign, signed, h⟩ := held
    split at h
    · simp at h
    · rename_i based
      obtain ⟨afterMark, marked, ⟨label, ending⟩, split, h⟩ := by
        simpa only [Option.bind_eq_some_iff] using h
      split at h
      · simp at h
      · rename_i line
        obtain ⟨qualifier, ended, eq⟩ := Option.bind_eq_some_iff.mp h
        exact ⟨name, afterName, afterSign, afterMark, label, ending, qualifier, named, signed,
          by simpa using based, marked, split, by simpa using line, ended,
          (Option.some.inj eq).symm⟩
  · intro held
    obtain ⟨name, afterName, afterSign, afterMark, label, ending, qualifier, named, signed, based,
      marked, split, line, ended, rfl⟩ := held
    refine ⟨name, afterName, named, afterSign, signed, ?_⟩
    simp [based, marked, split, line, ended]

theorem Opening.read?_eq_some_iff {text : List Char} {opening : Opening}
    : Opening.read? text = some opening ↔ opening.Spells text := by
  rw [Opening.read?_steps]
  constructor
  · intro held
    obtain ⟨name, afterName, afterSign, afterMark, label, ending, qualifier, named, signed, based,
      marked, split, line, ended, rfl⟩ := held
    obtain ⟨front, hf, text_eq⟩ := exists_append_trimStart text
    obtain ⟨name_eq, named, -⟩ := takeName?_eq_some_iff.mp named
    obtain ⟨beforeSign, hs, sign_eq⟩ := (expect?_eq_some_iff (by decide)).mp signed
    obtain ⟨beforeBase, hb, base_eq⟩ := exists_append_trimStart afterSign
    obtain ⟨beforeLabel, hl, mark_eq⟩ := (expect?_eq_some_iff (by decide)).mp marked
    obtain ⟨label_eq, -⟩ := splitAtLast?_eq_some_iff.mp split
    refine ⟨front, beforeSign, beforeBase, beforeLabel, ending, hf, hs, hb, hl, ?_, ?_, ?_, ?_,
      ?_, readOpeningEnd?_eq_some_iff.mp ended⟩
    · have parts := @List.takeWhile_append_dropWhile _ isBaseChar (trimStart afterSign)
      simp only [String.toList_ofList]
      rw [← label_eq, ← mark_eq, parts, ← base_eq, ← sign_eq, ← name_eq, ← text_eq]
    · simpa using named
    · simpa using based
    · intro c member
      exact List.mem_takeWhile_imp (by simpa using member)
    · simpa using line
  · intro held
    obtain ⟨front, beforeSign, beforeBase, beforeLabel, ending, hf, hs, hb, hl, rfl, named, based,
      baseChars, line, ended⟩ := held
    have baseStart {rest : List Char} {c : Char}
        (first : (opening.base.toList ++ rest).head? = some c)
        : isBlank c = false := by
      cases split : opening.base.toList with
      | nil => exact (based split).elim
      | cons d tail =>
          have same : d = c := by simpa [split] using first
          exact same ▸ isBlank_of_isWord (isWord_of_isBaseChar (baseChars d (by simp [split])))
    -- Neither a blank nor the double quote goes on with the base, so it ends where it is written.
    have labelStop {rest : List Char}
        : ∀ c, (beforeLabel ++ '"' :: rest).head? = some c → isBaseChar c = false :=
      head_blank_mark (fun c h => isBlank_of_isWord (isWord_of_isBaseChar h)) hl (by decide)
    have spelled := readOpeningEnd?_eq_some_iff.mpr ended
    refine ⟨opening.name.toList, _, beforeBase ++ (opening.base.toList ++ (beforeLabel
        ++ '"' :: (opening.label.toList ++ '"' :: ending))), _, opening.label.toList, ending,
      opening.qualifier, ?_, (expect?_eq_some_iff (by decide)).mpr ⟨beforeSign, hs, rfl⟩, ?_,
      ?_, splitAtLast?_eq_some_iff.mpr ⟨rfl, ended.noQuote⟩, line, spelled, ?_⟩
    · rw [trimStart_append_eq hf (isBlank_head_name named), takeName?_eq_some_iff]
      exact ⟨rfl, named, head_blank_mark (fun c => isBlank_of_isWord) hs (by decide)⟩
    · rw [trimStart_append_eq hb (fun c => baseStart), takeWhile_run baseChars labelStop]
      exact based
    · rw [trimStart_append_eq hb (fun c => baseStart), dropWhile_run baseChars labelStop]
      exact (expect?_eq_some_iff (by decide)).mpr ⟨_, hl, rfl⟩
    · rw [trimStart_append_eq hb (fun c => baseStart), takeWhile_run baseChars labelStop]
      simp

theorem SpellsEntry.front {tag message text : List Char} (h : SpellsEntry tag message text)
    : ∃ front rest, AllBlank front ∧ text = front ++ (tag ++ rest) := by
  cases h with
  | bare hf _ => exact ⟨_, _, hf, rfl⟩
  | told hf => exact ⟨_, _, hf, rfl⟩

theorem isWord_head_blank {back : List Char} (blank : ∀ c, back.head? = some c → isBlank c = true)
    : ∀ c, back.head? = some c → isWord c = false := by
  intro c first
  by_contra word
  have apart := isBlank_of_isWord (by simpa using word)
  rw [blank c first] at apart
  contradiction

/-- A line is read as an entry exactly if it spells that entry out. -/
theorem readEntry?_eq_some_iff {text : List Char} {tag message : String}
    : readEntry? text = some (tag, message)
      ↔ isName tag.toList = true ∧ SpellsEntry tag.toList message.toList text := by
  constructor
  · intro h
    simp only [Option.bind_eq_bind, readEntry?, Option.bind_eq_some_iff, Prod.exists,
      Option.ite_none_right_eq_some, Bool.and_eq_true, Bool.not_eq_true',
      List.contains_eq_mem, decide_eq_false_iff_not, Option.some.injEq, Prod.mk.injEq] at h
    obtain ⟨name, rest, found, ⟨gapped, line⟩, rfl, rfl⟩ := h
    obtain ⟨name_eq, named, -⟩ := takeName?_eq_some_iff.mp found
    obtain ⟨front, hf, text_eq⟩ := exists_append_trimStart text
    obtain ⟨gap, back, hg, hb, rest_eq⟩ := exists_trim_append rest
    simp only [String.toList_ofList]
    refine ⟨named, ?_⟩
    rw [text_eq, name_eq]
    by_cases silent : trim rest = []
    · have blank : AllBlank rest := by
        rw [rest_eq, silent]
        simpa [AllBlank, or_imp, forall_and] using And.intro hg hb
      rw [silent]
      exact .bare hf blank
    · have nonempty : gap ≠ [] := by
        intro same
        subst same
        cases start : trim rest with
        | nil => exact silent start
        | cons c tail =>
            have apart : isBlank c = false := isBlank_head_trim (by rw [start]; rfl)
            rw [rest_eq, start] at gapped
            simp [apart] at gapped
      have told : SpellsEntry name (trim rest) (front ++ (name ++ (gap ++ (trim rest ++ back)))) :=
        .told hf hg hb nonempty silent (trimmed_trim rest) line
      rwa [← List.append_assoc gap, ← rest_eq] at told
  · intro held
    obtain ⟨named, spelled⟩ := held
    generalize said_eq : message.toList = said at spelled
    cases spelled with
    | @bare front back hf hb =>
        have gapped : ∀ c, back.head? = some c → isBlank c = true :=
          fun c first => hb c (List.mem_of_head? first)
        have found : takeName? (trimStart (front ++ (tag.toList ++ back)))
            = some (tag.toList, back) := by
          rw [trimStart_append_eq hf (isBlank_head_name named), takeName?_eq_some_iff]
          exact ⟨rfl, named, isWord_head_blank gapped⟩
        have silent : trim back = [] := by
          simp [trim, trimStart_eq_nil_iff.mpr hb]
        have blank : back.head?.all isBlank = true := by simpa [Option.all_eq_true] using gapped
        have message_eq : message = "" := by simpa using said_eq
        simp [found, readEntry?, silent, blank, message_eq]
    | @told front gap said back hf hg hb nonempty silent trimmed line =>
        have gapped : ∀ c, (gap ++ (said ++ back)).head? = some c → isBlank c = true := by
          cases gap with
          | nil => exact (nonempty rfl).elim
          | cons c tail => simpa using hg c (by simp)
        have found : takeName? (trimStart (front ++ (tag.toList ++ (gap ++ (said ++ back)))))
            = some (tag.toList, gap ++ (said ++ back)) := by
          rw [trimStart_append_eq hf (isBlank_head_name named), takeName?_eq_some_iff]
          exact ⟨rfl, named, isWord_head_blank gapped⟩
        have said_trim : trim (gap ++ (said ++ back)) = said := by
          rw [← List.append_assoc]
          exact trim_append hg hb (fun _ => trimmed.head) (fun _ => trimmed.getLast)
        have blank : (gap ++ (said ++ back)).head?.all isBlank = true := by
          simpa only [Option.all_eq_true] using gapped
        simp only [Option.bind_eq_bind, readEntry?, found, Option.bind_some, said_trim, blank]
        subst said_eq
        simp [line]

/-- The message of an entry is part of the line and has no blank at its ends. -/
theorem SpellsEntry.message_spec {tag message text : List Char} (h : SpellsEntry tag message text)
    : Trimmed message ∧ message ⊆ text := by
  cases h with
  | bare => exact ⟨rfl, List.nil_subset _⟩
  | told hf hg hb gapped said trimmed line =>
      refine ⟨trimmed, ?_⟩
      intro c member
      simp [member]

/-- The name in front of other characters is the only one that a text starts with. -/
theorem name_unique {first second rest tail : List Char} (hf : isName first = true)
    (hs : isName second = true)
    (stop : ∀ c, rest.head? = some c → isWord c = false)
    (end_ : ∀ c, tail.head? = some c → isWord c = false)
    (eq : first ++ rest = second ++ tail)
    : first = second ∧ rest = tail := by
  have left : takeName? (first ++ rest) = some (first, rest) :=
    takeName?_eq_some_iff.mpr ⟨rfl, hf, stop⟩
  have right : takeName? (first ++ rest) = some (second, tail) :=
    takeName?_eq_some_iff.mpr ⟨eq, hs, end_⟩
  exact Prod.mk.inj (Option.some.inj (left.symm.trans right))

/-- In a line that starts with a tag and spells an opening out, what follows the tag is blanks, an
equals sign and the rest of the opening, whatever blanks stand around all this.
-/
theorem Opening.Spells.after_tag {opening : Opening} {tag after : List Char}
    (named : isName tag = true) (stop : ∀ c, after.head? = some c → isWord c = false)
    (h : opening.Spells (tag ++ after))
    : ∃ gap rest, AllBlank gap ∧ after = gap ++ '=' :: rest
        ∧ ∀ front space back, AllBlank front → AllBlank space → AllBlank back
          → opening.Spells (front ++ (tag ++ (space ++ '=' :: (rest ++ back)))) := by
  obtain ⟨front, beforeSign, beforeBase, beforeLabel, ending, hf, hs, hb, hl, eq, opens, based,
    baseChars, line, ended⟩ := h
  have start : trimStart (tag ++ after) = tag ++ after :=
    trimStart_eq_self (isBlank_head_name named)
  rw [eq, trimStart_append_eq hf (isBlank_head_name opens), ← eq] at start
  obtain ⟨same, after_eq⟩ := name_unique named opens stop
    (head_blank_mark (fun _ => isBlank_of_isWord) hs (by decide)) start.symm
  refine ⟨beforeSign, _, hs, after_eq, ?_⟩
  intro front space back hfront hspace hback
  refine ⟨front, space, beforeBase, beforeLabel, ending ++ back, hfront, hspace, hb, hl, ?_, opens,
    based, baseChars, line, ?_⟩
  · simp [same]
  · obtain ⟨first, middle, last, h1, h2, h3, rfl, qualifies⟩ := ended
    refine ⟨first, middle, last ++ back, h1, h2, ?_, by simp, qualifies⟩
    simpa [AllBlank, or_imp, forall_and] using And.intro h3 hback

/-- A tag and a message that make an opening when one blank stands between them make the same
opening when they are spelled as an entry.
-/
theorem SpellsEntry.respace {tag message text : List Char} {opening : Opening}
    (h : SpellsEntry tag message text) (named : isName tag = true)
    (opens : opening.Spells (if message = [] then tag else tag ++ ' ' :: message))
    : opening.Spells text := by
  cases h with
  | bare hf hb =>
      have opens : opening.Spells (tag ++ []) := by simpa using opens
      obtain ⟨gap, rest, -, eq, -⟩ := opens.after_tag named (by simp)
      simp at eq
  | told hf hg hb gapped said trimmed line =>
      rename_i front gap back
      rw [if_neg said] at opens
      have stop : ∀ c, (' ' :: message).head? = some c → isWord c = false := by
        intro c first
        have same : ' ' = c := by simpa using first
        exact same ▸ by decide
      obtain ⟨space, rest, hs, eq, anywhere⟩ := opens.after_tag named stop
      cases space with
      | nil => simp at eq
      | cons blank space =>
          obtain ⟨-, message_eq⟩ := List.cons.inj eq
          obtain ⟨-, hs⟩ := allBlank_cons.mp hs
          have wide : AllBlank (gap ++ space) := by
            simpa [AllBlank, or_imp, forall_and] using And.intro hg hs
          have spelled := anywhere front (gap ++ space) back hf wide hb
          simpa [message_eq] using spelled

-----------------------------------------------------------------------------------------
-- Kinds of lines
-----------------------------------------------------------------------------------------

/-- The first character of a line that spells an opening or an entry out may start a name. -/
theorem head_trim_name {front name rest : List Char} (hf : AllBlank front)
    (named : isName name = true)
    : ∃ c, isNameStart c = true ∧ (trim (front ++ (name ++ rest))).head? = some c := by
  obtain ⟨c, tail, rfl, start⟩ := isName_head named
  exact ⟨c, start, head_trim hf (isBlank_of_isNameStart start)⟩

/-- A line that starts like a name is neither ignored nor closing: it is what it is read as. -/
theorem classify_of_start {text : String} {c : Char} (start : isNameStart c = true)
    (first : (trim text.toList).head? = some c)
    : (∀ opening, Opening.read? text.toList = some opening
        → Line.classify text = .ok (.opening opening))
      ∧ ∀ tag message, Opening.read? text.toList = none
        → readEntry? text.toList = some (tag, message)
        → Line.classify text = .ok (.entry tag message) := by
  have hash : c ≠ '#' := by
    intro same
    subst same
    contradiction
  have brace : c ≠ '}' := by
    intro same
    subst same
    contradiction
  constructor
  · intro opening read
    simp [Line.classify, first, read]
  · intro tag message unread read
    simp [Line.classify, first, unread, read]

/-- A line is an opening exactly if it spells that opening out. -/
theorem classify_eq_opening_iff {text : String} {opening : Opening}
    : Line.classify text = .ok (.opening opening) ↔ opening.Spells text.toList := by
  constructor
  · intro h
    rw [← Opening.read?_eq_some_iff]
    simp only [Line.classify] at h
    split at h
    · simp at h
    · simp at h
    · simp at h
    · split at h <;> simp_all
  · intro spelled
    obtain ⟨front, _, _, _, _, hf, _, _, _, eq, named, _⟩ := id spelled
    obtain ⟨c, start, first⟩ := head_trim_name hf named
    exact (classify_of_start start (eq ▸ first)).1 opening (Opening.read?_eq_some_iff.mpr spelled)

/-- A line is an entry exactly if it spells that entry out and spells no opening out. -/
theorem classify_eq_entry_iff {text tag message : String}
    : Line.classify text = .ok (.entry tag message)
      ↔ isName tag.toList = true ∧ SpellsEntry tag.toList message.toList text.toList
        ∧ Opening.read? text.toList = none := by
  constructor
  · intro h
    rw [← and_assoc, ← readEntry?_eq_some_iff]
    simp only [Line.classify] at h
    split at h
    · simp at h
    · simp at h
    · simp at h
    · split at h <;> simp_all
  · intro held
    obtain ⟨named, spelled, unread⟩ := held
    have read := readEntry?_eq_some_iff.mpr ⟨named, spelled⟩
    obtain ⟨front, rest, hf, eq⟩ := spelled.front
    obtain ⟨c, start, first⟩ := head_trim_name hf named
    exact (classify_of_start start (eq ▸ first)).2 tag message unread read

end ErrorTables.Definition
