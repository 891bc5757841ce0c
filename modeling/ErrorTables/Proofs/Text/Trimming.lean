import ErrorTables.Text.Blank
import ErrorTables.Text.Lines
import Mathlib

/-! Trimming takes away blanks at the ends of a text and nothing else.
A text is split by trimming into blanks, the trimmed text, and blanks again.
-/

namespace ErrorTables.Text

/-- The text holds blanks only. -/
def AllBlank (text : List Char) : Prop :=
  ∀ c ∈ text, isBlank c = true

/-- The text has no blank at either end. -/
def Trimmed (text : List Char) : Prop :=
  trim text = text

theorem isBlank_of_isLineBreak {c : Char} (h : isLineBreak c = true) : isBlank c = true := by
  have included : lineBreaks.all isBlank = true := by decide
  exact List.all_eq_true.mp included c (by simpa [isLineBreak] using h)

instance (text : List Char) : Decidable (AllBlank text) :=
  List.decidableBAll (isBlank · = true) text

theorem allBlank_nil : AllBlank [] := by
  simp [AllBlank]

@[simp]
theorem allBlank_cons {c : Char} {text : List Char}
    : AllBlank (c :: text) ↔ isBlank c = true ∧ AllBlank text := by
  simp [AllBlank]

@[simp]
theorem allBlank_append {first second : List Char}
    : AllBlank (first ++ second) ↔ AllBlank first ∧ AllBlank second := by
  simp [AllBlank, or_imp, forall_and]

theorem all_isBlank_iff {text : List Char} : text.all isBlank = true ↔ AllBlank text := by
  simp [AllBlank]

-----------------------------------------------------------------------------------------
-- Trimming at the start
-----------------------------------------------------------------------------------------

/-- A text that starts with another character than a blank stays as it is. -/
theorem trimStart_eq_self {text : List Char}
    (h : ∀ c, text.head? = some c → isBlank c = false)
    : trimStart text = text := by
  cases text with
  | nil => rfl
  | cons c rest => simp [trimStart, h c rfl]

theorem trimStart_append {front rest : List Char} (h : AllBlank front)
    : trimStart (front ++ rest) = trimStart rest :=
  List.dropWhile_append_of_pos h

theorem trimStart_append_eq {front text : List Char} (blank : AllBlank front)
    (first : ∀ c, text.head? = some c → isBlank c = false)
    : trimStart (front ++ text) = text := by
  rw [trimStart_append blank, trimStart_eq_self first]

/-- Trimming stops in front of the first character that is not blank. -/
theorem trimStart_append_cons {front rest : List Char} {c : Char}
    (blank : AllBlank front) (hc : isBlank c = false)
    : trimStart (front ++ c :: rest) = c :: rest :=
  trimStart_append_eq blank (by simpa using hc)

theorem exists_append_trimStart (text : List Char)
    : ∃ front, AllBlank front ∧ text = front ++ trimStart text := by
  refine ⟨text.takeWhile isBlank, ?_, ?_⟩
  · intro c member
    exact List.mem_takeWhile_imp member
  · exact List.takeWhile_append_dropWhile.symm

theorem isBlank_head_trimStart {text : List Char} {c : Char}
    (h : (trimStart text).head? = some c)
    : isBlank c = false := by
  have stop := List.head?_dropWhile_not isBlank text
  rw [show List.dropWhile isBlank text = trimStart text from rfl, h] at stop
  simpa using stop

theorem trimStart_eq_nil_iff {text : List Char} : trimStart text = [] ↔ AllBlank text := by
  exact List.dropWhile_eq_nil_iff

-----------------------------------------------------------------------------------------
-- Trimming at both ends
-----------------------------------------------------------------------------------------

theorem trimEnd_eq (text : List Char) : trimEnd text = (trimStart text.reverse).reverse :=
  rfl

/-- Blanks behind a text that ends with another character are what trimming its end takes. -/
theorem trimEnd_append {text back : List Char} (blank : AllBlank back)
    (h : ∀ c, text.getLast? = some c → isBlank c = false)
    : trimEnd (text ++ back) = text := by
  have reversed : AllBlank back.reverse := by simpa [AllBlank] using blank
  rw [trimEnd_eq, List.reverse_append, trimStart_append reversed,
    trimStart_eq_self (by simpa using h), List.reverse_reverse]

theorem exists_trimEnd_append (text : List Char)
    : ∃ back, AllBlank back ∧ text = trimEnd text ++ back := by
  obtain ⟨front, blank, eq⟩ := exists_append_trimStart text.reverse
  refine ⟨front.reverse, by simpa [AllBlank] using blank, ?_⟩
  rw [trimEnd_eq, ← List.reverse_append, ← eq, List.reverse_reverse]

/-- Trimming takes the blanks around a text that has other characters at both ends. -/
theorem trim_append {front text back : List Char} (hf : AllBlank front) (hb : AllBlank back)
    (first : ∀ c, text.head? = some c → isBlank c = false)
    (last : ∀ c, text.getLast? = some c → isBlank c = false)
    : trim (front ++ text ++ back) = text := by
  cases text with
  | nil =>
      have blank : AllBlank (front ++ back) := by
        simpa [AllBlank, or_imp, forall_and] using And.intro hf hb
      simp [trim, trimStart_eq_nil_iff.mpr blank]
  | cons c rest =>
      have start : trimStart (front ++ (c :: rest) ++ back) = (c :: rest) ++ back := by
        rw [List.append_assoc]
        exact trimStart_append_cons hf (first c rfl)
      rw [trim, start, trimEnd_append hb last]

/-- The first character that is not blank comes first after trimming both ends. -/
theorem head_trim {front rest : List Char} {c : Char}
    (blank : AllBlank front) (hc : isBlank c = false)
    : (trim (front ++ c :: rest)).head? = some c := by
  obtain ⟨back, hb, eq⟩ := exists_trimEnd_append (c :: rest)
  rw [trim, trimStart_append_cons blank hc]
  cases kept : trimEnd (c :: rest) with
  | nil =>
      rw [kept, List.nil_append] at eq
      have blank := hb c (by simp [← eq])
      simp [hc] at blank
  | cons d tail =>
      rw [kept] at eq
      simp [(List.cons.inj eq).1]

/-- The last character that is not blank comes last after trimming both ends. -/
theorem getLast_trim {front back : List Char} {c : Char} (blank : AllBlank back)
    (hc : isBlank c = false)
    : (trim (front ++ c :: back)).getLast? = some c := by
  have start : ∃ kept, trimStart (front ++ c :: back) = kept ++ [c] ++ back := by
    rw [trimStart, List.dropWhile_append]
    split
    · exact ⟨[], by simp [hc]⟩
    · exact ⟨front.dropWhile isBlank, by simp⟩
  obtain ⟨kept, start⟩ := start
  rw [trim, start, trimEnd_append blank (by simpa using hc)]
  simp

/-- Trimming takes blanks only, from both ends. -/
theorem exists_trim_append (text : List Char)
    : ∃ front back, AllBlank front ∧ AllBlank back ∧ text = front ++ trim text ++ back := by
  obtain ⟨front, hf, start⟩ := exists_append_trimStart text
  obtain ⟨back, hb, rest⟩ := exists_trimEnd_append (trimStart text)
  refine ⟨front, back, hf, hb, ?_⟩
  rw [List.append_assoc, trim, ← rest, ← start]

theorem isBlank_head_trim {text : List Char} {c : Char} (h : (trim text).head? = some c)
    : isBlank c = false := by
  obtain ⟨back, -, eq⟩ := exists_trimEnd_append (trimStart text)
  refine @isBlank_head_trimStart text c ?_
  rw [eq, List.head?_append, show trimEnd (trimStart text) = trim text from rfl, h, Option.some_or]

theorem isBlank_getLast_trim {text : List Char} {c : Char} (h : (trim text).getLast? = some c)
    : isBlank c = false := by
  rw [trim, trimEnd_eq, List.getLast?_reverse] at h
  exact isBlank_head_trimStart h

theorem trimmed_trim (text : List Char) : Trimmed (trim text) := by
  have eq : trim ([] ++ trim text ++ []) = trim text :=
    trim_append allBlank_nil allBlank_nil
      (fun _ => isBlank_head_trim) (fun _ => isBlank_getLast_trim)
  simpa [Trimmed] using eq

theorem Trimmed.head {text : List Char} (h : Trimmed text) {c : Char} (first : text.head? = some c)
    : isBlank c = false :=
  isBlank_head_trim (h ▸ first)

theorem Trimmed.getLast {text : List Char} (h : Trimmed text) {c : Char}
    (last : text.getLast? = some c)
    : isBlank c = false :=
  isBlank_getLast_trim (h ▸ last)

end ErrorTables.Text
