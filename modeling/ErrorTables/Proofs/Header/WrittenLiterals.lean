import ErrorTables.Proofs.Header.Scanner
import ErrorTables.Settings

/-! What the literal of a text stands for. It is read back as the text, whatever follows it, and
literals of two texts are joined as the texts are. Escapes leave all characters but backslashes and
double quotes alone, so that a literal is broken where its text is broken.
-/

namespace ErrorTables.Header

open Text

-----------------------------------------------------------------------------------------
-- Escaping in two passes
-----------------------------------------------------------------------------------------

/-- The text with a backslash in front of each occurrence of a character. -/
def backslashed (special : Char) (text : List Char) : List Char :=
  text.flatMap fun c => if c = special then ['\\', c] else [c]

/-- Backslashes may be doubled first and double quotes escaped afterwards: the second pass finds
the quotes of the text only, and leaves all backslashes alone.
-/
theorem backslashed_twice (text : List Char)
    : backslashed '"' (backslashed '\\' text) = text.flatMap escapeChar := by
  induction text with
  | nil => rfl
  | cons c rest ih =>
      have front (first second : List Char) : backslashed '"' (first ++ second)
          = backslashed '"' first ++ backslashed '"' second :=
        List.flatMap_append
      have passes : backslashed '\\' (c :: rest)
          = (if c = '\\' then ['\\', c] else [c]) ++ backslashed '\\' rest :=
        List.flatMap_cons
      rw [passes, front, ih, List.flatMap_cons]
      congr 1
      by_cases slash : c = '\\'
      · subst slash
        rfl
      · simp [backslashed, escapeChar, slash]

section Breaks

variable {text : List Char} {c : Char}

/-- Escapes neither bring in nor take away a character, a backslash or a double quote apart. -/
theorem mem_literal_iff (text : String) (slash : c ≠ '\\') (quote : c ≠ '"')
    : c ∈ (literal text).toList ↔ c ∈ text.toList := by
  have escaped (d : Char) : c ∈ escapeChar d ↔ c = d := by
    rcases escapeChar_cases d with ⟨-, eq⟩ | ⟨-, -, eq⟩ <;> simp [eq, slash]
  simp [toList_literal, quote, escaped]

/-- The scanner gives a literal up at the first line break in its text, by induction on the text. -/
theorem scan_broken_literal (broken : ¬ OneLine text) (body rest : List Char)
    : scan (.literal body) (text.flatMap escapeChar ++ rest) = none := by
  induction text generalizing body with
  | nil => simp at broken
  | cons c tail ih =>
      have later (here : ¬ isLineBreak c = true) : ¬ OneLine tail := fun whole =>
        broken (oneLine_cons.mpr ⟨by simpa using here, whole⟩)
      rw [List.flatMap_cons, List.append_assoc]
      rcases escapeChar_cases c with ⟨-, eq⟩ | ⟨slash, quote, eq⟩
      · rw [eq, List.cons_append, List.cons_append, List.nil_append, scan]
        split
        · rfl
        · rename_i here
          exact ih (later here) _
      · rw [eq, List.singleton_append, scan]
        · split
          · rfl
          · rename_i here
            exact ih (later here) _
        · exact quote
        · intro _ _ same
          exact (slash same).elim

theorem scan_literal_iff (text : String)
    : scan .code (literal text).toList = some (.code, [text]) ↔ OneLine text.toList := by
  refine ⟨fun scanned => ?_, fun whole => (scans_literal whole).whole⟩
  by_contra broken
  rw [toList_literal, scan, scan_broken_literal broken] at scanned
  contradiction

end Breaks

/-- The literal of any text is read back as the text, up to a closing quote that is its last
character. It holds the characters of the text, backslashes and double quotes apart, so that it is
one literal on one line exactly if the text is on one line. Its body doubles the backslashes and
then escapes the double quotes of the text, and the bodies of two texts join to that of the joined
texts.
-/
theorem literal_reads_back (text : String)
    : readLiteral? (literal text).toList = some (text, [])
      ∧ (∀ c, c ≠ '\\' → c ≠ '"' → (c ∈ (literal text).toList ↔ c ∈ text.toList))
      ∧ (scan .code (literal text).toList = some (.code, [text]) ↔ OneLine text.toList)
      ∧ (literalBody text).toList = backslashed '"' (backslashed '\\' text.toList)
      ∧ ∀ other, literalBody (text ++ other) = literalBody text ++ literalBody other := by
  refine ⟨?_, fun c => mem_literal_iff text, scan_literal_iff text, ?_, literalBody_append text⟩
  · have read := readLiteral?_literal text []
    rwa [List.append_nil] at read
  · rw [backslashed_twice, literalBody, String.toList_ofList]

/-- A sentinel of two lines can be set, and its literal is broken by the line feed between them. -/
theorem literal_of_broken_sentinel
    : ∃ settings, Settings.ofMapping [(.text "sentinel", .text "no\nerror")] = .ok settings
      ∧ '\n' ∈ (literal settings.sentinel).toList
      ∧ scan .code (literal settings.sentinel).toList = none :=
  ⟨{ sentinel := "no\nerror" }, by rfl, by decide, by decide⟩

end ErrorTables.Header
