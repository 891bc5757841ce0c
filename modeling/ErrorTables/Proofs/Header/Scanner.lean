import ErrorTables.Proofs.Header.Literals
import ErrorTables.Proofs.Text.LineSplitting

/-! A scanner that tells the code, the comments and the string literals of a header apart.
Pieces of text after which the scanner is back in code can be put together, and the literals that
it meets in the whole are those that it meets in the pieces.
-/

namespace ErrorTables.Header

open Text

/-- Where a scanner is: in code, in a comment, or in a literal whose body was read so far. -/
inductive Place where
  | code
  | comment
  | literal (body : List Char)
  deriving DecidableEq, Repr

/-- The place that is reached at the end of a text, and the texts of the literals closed on the way.
A comment ends at the next end of a comment, a literal at the next double quote that no backslash
takes along, and no literal holds a line break.
-/
def scan : Place → List Char → Option (Place × List String)
  | place, [] => some (place, [])
  | .code, '/' :: '*' :: rest => scan .comment rest
  | .code, '"' :: rest => scan (.literal []) rest
  | .code, _ :: rest => scan .code rest
  | .comment, '*' :: '/' :: rest => scan .code rest
  | .comment, _ :: rest => scan .comment rest
  | .literal body, '"' :: rest =>
      (scan .code rest).map fun (place, texts) =>
        (place, String.ofList (undoEscapes body) :: texts)
  | .literal body, '\\' :: c :: rest =>
      if isLineBreak c then none else scan (.literal (body ++ ['\\', c])) rest
  | .literal body, c :: rest =>
      if isLineBreak c then none else scan (.literal (body ++ [c])) rest

/-- From code to code, the scanner meets the literals of the given texts in this piece. -/
def Scans (piece : List Char) (texts : List String) : Prop :=
  ∀ rest, scan .code (piece ++ rest)
    = (scan .code rest).map fun (place, others) => (place, texts ++ others)

/-- The text holds neither a slash nor a double quote, so that no comment and no literal starts in
it.
-/
def Quiet (text : List Char) : Prop :=
  '/' ∉ text ∧ '"' ∉ text

/-- The text does not hold the end of a comment. -/
def ClosesNone (text : List Char) : Prop :=
  ¬ ['*', '/'] <:+: text

-----------------------------------------------------------------------------------------
-- Texts that start or close nothing
-----------------------------------------------------------------------------------------

instance (text : List Char) : Decidable (Quiet text) :=
  inferInstanceAs (Decidable (_ ∧ _))

@[simp]
theorem quiet_nil : Quiet [] := by
  simp [Quiet]

@[simp]
theorem quiet_cons {c : Char} {text : List Char}
    : Quiet (c :: text) ↔ c ≠ '/' ∧ c ≠ '"' ∧ Quiet text := by
  simp only [Quiet, List.mem_cons, not_or]
  constructor
  · intro h
    exact ⟨Ne.symm h.1.1, Ne.symm h.2.1, h.1.2, h.2.2⟩
  · intro h
    exact ⟨⟨Ne.symm h.1, h.2.2.1⟩, Ne.symm h.2.1, h.2.2.2⟩

@[simp]
theorem quiet_append {first second : List Char}
    : Quiet (first ++ second) ↔ Quiet first ∧ Quiet second := by
  simp only [Quiet, List.mem_append, not_or]
  exact and_and_and_comm

@[simp]
theorem quiet_closeLines {lines : List String}
    : Quiet (closeLines lines).toList ↔ ∀ line ∈ lines, Quiet line.toList := by
  induction lines with
  | nil => simp
  | cons line rest ih => simp [toList_closeLines_cons, ih]

/-- A text closes no comment if no asterisk in it has a slash right behind it. -/
theorem closesNone_iff {text : List Char}
    : ClosesNone text ↔ text.IsChain fun first second => ¬ (first = '*' ∧ second = '/') := by
  rw [List.isChain_iff_forall_rel_of_append_cons_cons]
  constructor
  · intro h first second front back eq both
    apply h
    exact ⟨front, back, by simp [eq, both.1, both.2]⟩
  · intro h held
    obtain ⟨front, back, eq⟩ := held
    exact h (show text = front ++ '*' :: '/' :: back by simp [← eq]) ⟨rfl, rfl⟩

instance (text : List Char) : Decidable (ClosesNone text) :=
  decidable_of_iff _ closesNone_iff.symm

theorem closesNone_of_not_mem {text : List Char} (absent : '/' ∉ text) : ClosesNone text :=
  fun held => absent (held.subset (by simp))

theorem ClosesNone.start {front text : List Char} (h : ClosesNone text) (start : front <+: text)
    : ClosesNone front :=
  fun held => h (held.trans start.isInfix)

theorem ClosesNone.tail {c : Char} {text : List Char} (h : ClosesNone (c :: text))
    : ClosesNone text :=
  fun held => h (held.trans (List.suffix_cons c text).isInfix)

/-- A text that closes no comment does so neither in front of an asterisk: its last character is not
followed by a slash.
-/
theorem ClosesNone.no_sooner {c : Char} {text rest : List Char} (h : ClosesNone (c :: text))
    : ∀ after, c = '*' → text ++ '*' :: rest = '/' :: after → False := by
  rintro after rfl eq
  cases text with
  | nil => simp at eq
  | cons d others =>
      obtain rfl : d = '/' := (List.cons.inj eq).1
      exact h ⟨[], others, rfl⟩

/-- Two texts with a character between them that belongs to no end of a comment. -/
theorem ClosesNone.join {first second : List Char} {c : Char} (before : ClosesNone first)
    (behind : ClosesNone second) (star : c ≠ '*') (slash : c ≠ '/')
    : ClosesNone (first ++ c :: second) := by
  rw [closesNone_iff] at before behind ⊢
  rw [List.isChain_append, List.isChain_cons]
  simp_all

/-- What stands on the two sides of such a character closes comments on its own. -/
theorem closesNone_join_iff {first second : List Char} {c : Char} (star : c ≠ '*') (slash : c ≠ '/')
    : ClosesNone (first ++ c :: second) ↔ ClosesNone first ∧ ClosesNone second := by
  refine ⟨fun whole => ⟨whole.start (List.prefix_append _ _), fun held => ?_⟩,
    fun parts => parts.1.join parts.2 star slash⟩
  exact whole (held.trans ((List.suffix_cons c second).trans (List.suffix_append _ _)).isInfix)

/-- What is behind a text closes no comment with it unless it holds a slash. -/
theorem closesNone_append_iff {first second : List Char} (absent : '/' ∉ second)
    : ClosesNone (first ++ second) ↔ ClosesNone first := by
  refine ⟨fun whole => whole.start (List.prefix_append _ _), fun before => ?_⟩
  have behind := closesNone_iff.mp (closesNone_of_not_mem absent)
  rw [closesNone_iff] at before ⊢
  refine List.isChain_append.mpr ⟨before, behind, fun _ _ head member both => ?_⟩
  exact absent (both.2 ▸ List.mem_of_mem_head? member)

theorem closesNone_closeLines_iff {lines : List String}
    : ClosesNone (closeLines lines).toList ↔ ∀ line ∈ lines, ClosesNone line.toList := by
  induction lines with
  | nil => simp [closesNone_of_not_mem]
  | cons line rest ih =>
      rw [toList_closeLines_cons, closesNone_join_iff (by decide) (by decide), ih,
        List.forall_mem_cons]

-----------------------------------------------------------------------------------------
-- Pieces
-----------------------------------------------------------------------------------------

theorem Scans.append {first second : List Char} {texts others : List String}
    (before : Scans first texts) (behind : Scans second others)
    : Scans (first ++ second) (texts ++ others) := by
  intro rest
  rw [List.append_assoc, before, behind, Option.map_map]
  congr 1
  funext found
  simp

/-- Quiet code shows no literals, by induction on the code. -/
theorem scans_code {text : List Char} (quiet : Quiet text) : Scans text [] := by
  intro rest
  induction text with
  | nil => simp
  | cons c tail ih =>
      obtain ⟨slash, quote, quiet⟩ := quiet_cons.mp quiet
      rw [List.cons_append, scan, ih quiet]
      · intro _ same
        exact (slash same).elim
      · exact quote

/-- A comment ends where it is closed, by induction on its body. -/
theorem scan_comment {body : List Char} (closesNone : ClosesNone body) (rest : List Char)
    : scan .comment (body ++ '*' :: '/' :: rest) = scan .code rest := by
  induction body with
  | nil => rfl
  | cons c tail ih =>
      rw [List.cons_append, scan, ih closesNone.tail]
      exact closesNone.no_sooner

theorem scans_comment {body : List Char} (closesNone : ClosesNone body)
    : Scans ('/' :: '*' :: (body ++ ['*', '/'])) [] := by
  intro rest
  have shown : '/' :: '*' :: (body ++ ['*', '/']) ++ rest
      = '/' :: '*' :: (body ++ '*' :: '/' :: rest) := by simp
  rw [shown, scan, scan_comment closesNone]
  simp

/-- A literal is read up to its closing quote, by induction on the rest of its text. -/
theorem scan_literal {text : List Char} (whole : OneLine text) (body rest : List Char)
    : scan (.literal body) (text.flatMap escapeChar ++ '"' :: rest)
      = (scan .code rest).map fun (place, others) =>
          (place, String.ofList (undoEscapes (body ++ text.flatMap escapeChar)) :: others) := by
  induction text generalizing body with
  | nil => simp [scan]
  | cons c tail ih =>
      obtain ⟨here, whole⟩ := oneLine_cons.mp whole
      rw [List.flatMap_cons, List.append_assoc]
      rcases escapeChar_cases c with ⟨-, eq⟩ | ⟨slash, quote, eq⟩
      · rw [eq, List.cons_append, List.cons_append, List.nil_append, scan, if_neg (by simp [here]),
          ih whole]
        simp
      · rw [eq, List.singleton_append, scan, if_neg (by simp [here]), ih whole]
        · simp
        · exact quote
        · intro _ _ same
          exact (slash same).elim

theorem scans_literal {text : String} (whole : OneLine text.toList)
    : Scans (literal text).toList [text] := by
  intro rest
  have shown : (literal text).toList ++ rest
      = '"' :: (text.toList.flatMap escapeChar ++ '"' :: rest) := by
    simp [toList_literal]
  rw [shown, scan, scan_literal whole]
  simp [undoEscapes_flatMap]

theorem Scans.line {line : String} {rest : List String} {texts others : List String}
    (first : Scans line.toList texts) (behind : Scans (closeLines rest).toList others)
    : Scans (closeLines (line :: rest)).toList (texts ++ others) := by
  have feed : Scans ['\n'] [] := scans_code (by simp)
  have lines := first.append (feed.append behind)
  simpa [toList_closeLines_cons] using lines

theorem Scans.lines {first second : List String} {texts others : List String}
    (before : Scans (closeLines first).toList texts)
    (behind : Scans (closeLines second).toList others)
    : Scans (closeLines (first ++ second)).toList (texts ++ others) := by
  rw [toList_closeLines_append]
  exact before.append behind

/-- Closed lines with one literal each show these literals in order, by induction on what the lines
are written for.
-/
theorem scans_closeLines {α : Type} {write text : α → String} {items : List α}
    (each : ∀ item ∈ items, Scans (write item).toList [text item])
    : Scans (closeLines (items.map write)).toList (items.map text) := by
  induction items with
  | nil => exact scans_code (by simp)
  | cons item rest ih =>
      obtain ⟨first, others⟩ := List.forall_mem_cons.mp each
      exact first.line (ih others)

/-- What is met in a text from code to code is met in the whole text. -/
theorem Scans.whole {text : List Char} {texts : List String} (h : Scans text texts)
    : scan .code text = some (.code, texts) := by
  have scanned := h []
  simpa [scan] using scanned

end ErrorTables.Header
