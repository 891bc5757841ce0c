import ErrorTables.Header.Literal
import Mathlib

/-! String literals are read back as the texts that they were written for.
A body is read up to the first double quote that no backslash escapes, and its escapes are undone
afterwards; both follow the characters of the text that was escaped.
-/

namespace ErrorTables.Header

/-- The text with the backslashes removed that escape a backslash or a double quote. -/
def undoEscapes : List Char → List Char
  | '\\' :: c :: rest =>
      if c = '\\' || c = '"' then c :: undoEscapes rest else '\\' :: c :: undoEscapes rest
  | c :: rest => c :: undoEscapes rest
  | [] => []

/-- The body of a literal up to its closing double quote, and what follows the quote. A backslash
takes the next character along, whatever it is.
-/
def splitLiteral? : List Char → Option (List Char × List Char)
  | [] => none
  | '"' :: rest => some ([], rest)
  | '\\' :: c :: rest =>
      (splitLiteral? rest).map fun (body, after) => ('\\' :: c :: body, after)
  | c :: rest => (splitLiteral? rest).map fun (body, after) => (c :: body, after)

/-- The text that the literal at the start of a text stands for, and what follows the literal. -/
def readLiteral? (text : List Char) : Option (String × List Char) := do
  let inside ← text.dropPrefix? ['"']
  let (body, after) ← splitLiteral? inside
  return (String.ofList (undoEscapes body), after)

/-- A character is escaped, or it stands for itself and is neither backslash nor double quote. -/
theorem escapeChar_cases (c : Char)
    : ((c = '\\' || c = '"') = true ∧ escapeChar c = ['\\', c])
      ∨ (c ≠ '\\' ∧ c ≠ '"' ∧ escapeChar c = [c]) := by
  by_cases special : (c = '\\' || c = '"') = true
  · exact Or.inl ⟨special, if_pos special⟩
  · have plain : c ≠ '\\' ∧ c ≠ '"' := by simpa using special
    exact Or.inr ⟨plain.1, plain.2, if_neg special⟩

/-- A text without backslashes and double quotes needs no escapes, by induction on the text. -/
theorem flatMap_escapeChar_eq {text : List Char} (slash : '\\' ∉ text) (quote : '"' ∉ text)
    : text.flatMap escapeChar = text := by
  induction text with
  | nil => rfl
  | cons c rest ih =>
      rw [List.mem_cons, not_or] at slash quote
      have plain : escapeChar c = [c] := by simp [escapeChar, Ne.symm slash.1, Ne.symm quote.1]
      rw [List.flatMap_cons, plain, ih slash.2 quote.2, List.singleton_append]

/-- Undoing escapes gives an escaped text back, by induction on the text. -/
theorem undoEscapes_flatMap (text : List Char)
    : undoEscapes (text.flatMap escapeChar) = text := by
  induction text with
  | nil => rfl
  | cons c rest ih =>
      rw [List.flatMap_cons]
      rcases escapeChar_cases c with ⟨special, eq⟩ | ⟨slash, -, eq⟩
      · rw [eq, List.cons_append, List.cons_append, List.nil_append, undoEscapes, ih]
        exact if_pos special
      · rw [eq, List.singleton_append, undoEscapes, ih]
        intro _ _ same
        exact (slash same).elim

/-- An escaped text is a body up to the double quote behind it, by induction on the text. -/
theorem splitLiteral?_flatMap (text after : List Char)
    : splitLiteral? (text.flatMap escapeChar ++ '"' :: after)
      = some (text.flatMap escapeChar, after) := by
  induction text with
  | nil => rfl
  | cons c rest ih =>
      rw [List.flatMap_cons, List.append_assoc]
      rcases escapeChar_cases c with ⟨-, eq⟩ | ⟨slash, quote, eq⟩
      · rw [eq, List.cons_append, List.cons_append, List.nil_append, splitLiteral?, ih]
        rfl
      · rw [eq, List.singleton_append, splitLiteral?, ih]
        · rfl
        · exact fun same => quote same
        · intro _ _ same
          exact (slash same).elim

theorem toList_literal (text : String)
    : (literal text).toList = '"' :: (text.toList.flatMap escapeChar ++ ['"']) := by
  simp [literal, literalBody, toString]

theorem readLiteral?_literal (text : String) (after : List Char)
    : readLiteral? ((literal text).toList ++ after) = some (text, after) := by
  simp [readLiteral?, toList_literal, List.dropPrefix?, splitLiteral?_flatMap,
    undoEscapes_flatMap]

end ErrorTables.Header
