import ErrorTables.Proofs.Text.Trimming
import ErrorTables.Text.Word

/-! Names are runs of word characters behind a letter or an underscore.
No word character is blank or a mark of punctuation, so a name ends where something else starts.
-/

namespace ErrorTables.Text

section Runs

variable {α : Type} {kind : α → Bool} {run rest : List α}

/-- The longest run of a kind ends where a character of another kind follows. -/
theorem takeWhile_run (inside : ∀ c ∈ run, kind c = true)
    (stop : ∀ c, rest.head? = some c → kind c = false)
    : (run ++ rest).takeWhile kind = run := by
  rw [List.takeWhile_append_of_pos inside]
  cases rest with
  | nil => simp
  | cons c tail => simp [stop c rfl]

theorem dropWhile_run (inside : ∀ c ∈ run, kind c = true)
    (stop : ∀ c, rest.head? = some c → kind c = false)
    : (run ++ rest).dropWhile kind = rest := by
  rw [List.dropWhile_append_of_pos inside]
  cases rest with
  | nil => rfl
  | cons c tail => simp [stop c rfl]

/-- A character of another kind follows the longest run, if anything does. -/
theorem head_dropWhile {c : α} {text : List α} (h : (text.dropWhile kind).head? = some c)
    : kind c = false := by
  have stop := List.head?_dropWhile_not kind text
  rw [h] at stop
  simpa using stop

end Runs

-----------------------------------------------------------------------------------------
-- Word characters
-----------------------------------------------------------------------------------------

/-- What holds of each code point of ASCII holds of all characters of ASCII. -/
theorem forall_ascii {P : Char → Prop} (table : ∀ code < 0x80, P (Char.ofNat code)) {c : Char}
    (ascii : c.toNat < 0x80)
    : P c := by
  have here := table c.toNat ascii
  rwa [Char.ofNat_toNat] at here

/-- No word character is blank, by looking up all blanks in the table of letters and numbers. -/
theorem isBlank_of_isWord {c : Char} (h : isWord c = true) : isBlank c = false := by
  have apart : blanks.all (fun c => !isWord c) = true := by decide +kernel
  by_contra blank
  have member : c ∈ blanks := by simpa [isBlank] using blank
  simpa [h] using List.all_eq_true.mp apart c member

theorem isLineBreak_of_isWord {c : Char} (h : isWord c = true) : isLineBreak c = false := by
  by_contra broken
  have blank := isBlank_of_isLineBreak (by simpa using broken)
  simp [isBlank_of_isWord h] at blank

theorem trimmed_of_isWord {text : List Char} (words : ∀ c ∈ text, isWord c = true)
    : Trimmed text := by
  have eq : trim ([] ++ text ++ []) = text :=
    trim_append allBlank_nil allBlank_nil
      (fun c first => isBlank_of_isWord (words c (List.mem_of_head? first)))
      (fun c last => isBlank_of_isWord (words c (List.mem_of_getLast? last)))
  simpa [Trimmed] using eq

theorem toNat_lt_of_isNameStart {c : Char} (h : isNameStart c = true) : c.toNat < 0x80 := by
  simp only [isNameStart, Char.isAlpha, Char.isUpper, Char.isLower, Bool.or_eq_true,
    Bool.and_eq_true, decide_eq_true_eq, beq_iff_eq] at h
  rcases h with (⟨-, h⟩ | ⟨-, h⟩) | rfl
  · exact Nat.lt_of_le_of_lt h (by decide)
  · exact Nat.lt_of_le_of_lt h (by decide)
  · decide

theorem isWord_of_isNameStart {c : Char} (h : isNameStart c = true) : isWord c = true := by
  have ascii := toNat_lt_of_isNameStart h
  simp only [isNameStart, Bool.or_eq_true] at h
  rcases h with h | h <;> simp [isWord, ascii, Char.isAlphanum, h]

theorem isBlank_of_isNameStart {c : Char} (h : isNameStart c = true) : isBlank c = false :=
  isBlank_of_isWord (isWord_of_isNameStart h)

-----------------------------------------------------------------------------------------
-- Names
-----------------------------------------------------------------------------------------

/-- A name is a text of word characters whose first character may start a name. -/
theorem isName_iff {text : List Char}
    : isName text = true ↔ text.head?.any isNameStart = true ∧ ∀ c ∈ text, isWord c = true := by
  cases text with
  | nil => simp [isName]
  | cons c rest =>
      simp only [isName, Bool.and_eq_true, List.all_eq_true, List.head?_cons, Option.any_some,
        List.mem_cons, forall_eq_or_imp]
      exact ⟨fun h => ⟨h.1, isWord_of_isNameStart h.1, h.2⟩, fun h => ⟨h.1, h.2.2⟩⟩

theorem isWord_of_isName {text : List Char} (h : isName text = true) {c : Char} (hc : c ∈ text)
    : isWord c = true :=
  (isName_iff.mp h).2 c hc

theorem isName_head {text : List Char} (h : isName text = true)
    : ∃ c rest, text = c :: rest ∧ isNameStart c = true := by
  cases text with
  | nil => simp [isName] at h
  | cons c rest => exact ⟨c, rest, rfl, by simpa using (isName_iff.mp h).1⟩

theorem isBlank_head_name {name rest : List Char} (h : isName name = true)
    : ∀ c, (name ++ rest).head? = some c → isBlank c = false := by
  obtain ⟨c, tail, rfl, start⟩ := isName_head h
  simpa using isBlank_of_isNameStart start

end ErrorTables.Text
