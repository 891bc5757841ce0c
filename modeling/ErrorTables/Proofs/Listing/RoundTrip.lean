import ErrorTables.Proofs.Digits
import ErrorTables.Proofs.Listing.Writing
import ErrorTables.Proofs.Text.BlockDecoding

/-! Reading a listing undoes writing it.
The symbols of a listing are word characters, so that neither the equals sign nor a blank nor a line
end falls into one; blank lines between those of a listing are passed over.
-/

namespace ErrorTables.Listing

open Text

-----------------------------------------------------------------------------------------
-- Blank lines put in
-----------------------------------------------------------------------------------------

/-- The second text is the first one with blanks put in front of its lines and at its end. Blank
lines between the lines are such blanks.
-/
inductive BlanksInserted : List Char → List Char → Prop
  | ends {gap} (blank : AllBlank gap) : BlanksInserted [] gap
  | line {gap line rest text} (whole : '\n' ∉ line) (blank : AllBlank gap)
    (later : BlanksInserted rest text)
    : BlanksInserted (line ++ '\n' :: rest) (gap ++ line ++ '\n' :: text)

/-- Lines are their own text with no blanks put in. -/
theorem BlanksInserted.refl {lines : List String} (whole : ∀ line ∈ lines, '\n' ∉ line.toList)
    : BlanksInserted (closeLines lines).toList (closeLines lines).toList := by
  induction lines with
  | nil => exact .ends allBlank_nil
  | cons line rest ih =>
      obtain ⟨here, later⟩ := List.forall_mem_cons.mp whole
      rw [toList_closeLines_cons]
      exact .line here allBlank_nil (ih later)

theorem BlanksInserted.nil {text : List Char} (h : BlanksInserted [] text) : AllBlank text := by
  generalize none : [] = written at h
  cases h with
  | ends blank => exact blank
  | line => simp at none

/-- Blanks may stand in front of the first line, and the rest has blanks put into it. -/
theorem BlanksInserted.cons {line rest text : List Char} (whole : '\n' ∉ line)
    (h : BlanksInserted (line ++ '\n' :: rest) text)
    : ∃ gap more, AllBlank gap ∧ BlanksInserted rest more ∧ text = gap ++ line ++ '\n' :: more := by
  generalize split : line ++ '\n' :: rest = written at h
  cases h with
  | ends => simp at split
  | @line gap other later more single blank inserted =>
      have run {text behind : List Char} (single : '\n' ∉ text)
          : (text ++ '\n' :: behind).takeWhile (· != '\n') = text := by
        refine takeWhile_run (fun c member => ?_) (by simp)
        have apart : c ≠ '\n' := by
          intro same
          exact single (same ▸ member)
        simpa using apart
      have same := congrArg (List.takeWhile (· != '\n')) split
      rw [run whole, run single] at same
      subst same
      obtain ⟨-, rfl⟩ := List.cons.inj (List.append_cancel_left split)
      exact ⟨gap, more, blank, inserted, rfl⟩

-----------------------------------------------------------------------------------------
-- One line
-----------------------------------------------------------------------------------------

/-- The text is a symbol: it is not empty and holds word characters only. -/
def IsSymbol (text : String) : Prop :=
  text.toList ≠ [] ∧ ∀ c ∈ text.toList, isWord c = true

theorem isSymbol_of_isName {group tag : String} (named : isName group.toList = true)
    (tagged : isName tag.toList = true)
    : IsSymbol (group ++ "_" ++ tag) := by
  refine ⟨by simp, ?_⟩
  intro c member
  simp only [String.toList_append, List.mem_append] at member
  rcases member with (front | mark) | back
  · exact isWord_of_isName named front
  · have same : c = '_' := by simpa using mark
    exact same ▸ by decide
  · exact isWord_of_isName tagged back

theorem readLine_blank {text : List Char} (blank : AllBlank text) : readLine text = .ok none := by
  have nothing : trim text = [] := by simp [trim, trimStart_eq_nil_iff.mpr blank]
  simp [readLine, nothing]

/-- The characters of a decimal numeral are not blank and end no line. -/
theorem isBlank_of_mem_decimal {number : Int} {c : Char}
    (member : c ∈ (Numeral.decimal number).toList)
    : isBlank c = false := by
  rw [Numeral.toList_decimal] at member
  rcases List.mem_append.mp member with minus | digit
  · have same : c = '-' := by
      split at minus <;> simp_all
    exact same ▸ by decide
  · exact isBlank_of_isWord (@Numeral.digit_spec .decimal _ _ digit).2.1

section Line

variable {symbol : String} {number : Int}

theorem toList_numberedLine (symbol : String) (number : Int)
    : (numberedLine (symbol, number)).toList
      = symbol.toList ++ [' '] ++ '=' :: ' ' :: (Numeral.decimal number).toList := by
  simp [numberedLine]

/-- The line of a symbol holds one line end and no other, which closes it. -/
theorem not_mem_numberedLine (named : IsSymbol symbol) {c : Char} (blank : isBlank c = true)
    (apart : c ≠ ' ')
    : c ∉ (numberedLine (symbol, number)).toList := by
  intro member
  rw [toList_numberedLine] at member
  simp only [List.mem_append, List.mem_cons, List.not_mem_nil, or_false] at member
  rcases member with (word | space) | sign | space | digit
  · simp [isBlank_of_isWord (named.2 c word)] at blank
  · exact apart space
  · subst sign
    contradiction
  · exact apart space
  · simp [isBlank_of_mem_decimal digit] at blank

theorem isBlank_head_symbol (named : IsSymbol symbol) (rest : List Char)
    : ∀ c, (symbol.toList ++ rest).head? = some c → isBlank c = false := by
  intro c first
  rw [List.head?_append_of_ne_nil _ named.1] at first
  exact isBlank_of_isWord (named.2 c (List.mem_of_head? first))

theorem isBlank_getLast_decimal (front : List Char) (number : Int)
    : ∀ c, (front ++ (Numeral.decimal number).toList).getLast? = some c → isBlank c = false := by
  intro c last
  have digits : (Numeral.decimal number).toList ≠ [] := by
    simp [Numeral.toList_decimal, Nat.toDigits_ne_nil]
  rw [List.getLast?_append_of_ne_nil _ digits] at last
  exact isBlank_of_mem_decimal (List.mem_of_getLast? last)

theorem trim_numberedLine {front : List Char} (blank : AllBlank front) (named : IsSymbol symbol)
    (number : Int)
    : trim (front ++ (numberedLine (symbol, number)).toList)
      = (numberedLine (symbol, number)).toList := by
  have whole := @trim_append front (numberedLine (symbol, number)).toList [] blank allBlank_nil
  rw [List.append_nil] at whole
  apply whole
  · intro c first
    rw [toList_numberedLine, List.append_assoc] at first
    exact isBlank_head_symbol named _ c first
  · intro c last
    rw [toList_numberedLine] at last
    exact isBlank_getLast_decimal (symbol.toList ++ [' ', '=', ' ']) number c (by simpa using last)

/-- The equals sign of a line is the first one in it. -/
theorem takeWhile_numberedLine (named : IsSymbol symbol) (number : Int)
    : (numberedLine (symbol, number)).toList.takeWhile (· ≠ '=') = symbol.toList ++ [' '] := by
  rw [toList_numberedLine]
  refine takeWhile_run (fun c member => ?_) (by simp)
  have apart : c ≠ '=' := by
    intro same
    subst same
    rcases List.mem_append.mp member with word | space
    · have impossible := named.2 _ word
      contradiction
    · simp at space
  simpa using apart

/-- The line of a symbol is read as the symbol with what its numeral is read as, whatever blanks
stand in front.
-/
theorem readLine_numberedLine_eq {front : List Char} (blank : AllBlank front)
    (named : IsSymbol symbol)
    : readLine (front ++ (numberedLine (symbol, number)).toList)
      = (Numeral.read .decimal (String.ofList ([' '] ++ (Numeral.decimal number).toList))).map
        fun value => some (symbol, value) := by
  have given : (numberedLine (symbol, number)).toList ≠ [] := by simp [toList_numberedLine]
  have alone : trim (symbol.toList ++ [' ']) = symbol.toList := by
    have whole := @trim_append [] symbol.toList [' '] allBlank_nil (by decide)
    refine whole (fun c first => ?_) (fun c last => ?_)
    · exact isBlank_head_symbol named [] c (by simpa using first)
    · exact isBlank_of_isWord (named.2 c (List.mem_of_getLast? last))
  have behind : (numberedLine (symbol, number)).toList.drop ((symbol.toList ++ [' ']).length + 1)
      = [' '] ++ (Numeral.decimal number).toList := by
    rw [toList_numberedLine, List.drop_append]
    simp
  simp only [readLine, trim_numberedLine blank named, List.isEmpty_eq_false_iff.mpr given,
    takeWhile_numberedLine named, behind, alone, Bool.false_eq_true, if_false, String.ofList_toList]

/-- The line of a symbol is read as the symbol with its number, whatever blanks stand in front. -/
theorem readLine_numberedLine {front : List Char} (blank : AllBlank front) (named : IsSymbol symbol)
    (short : number.natAbs < 10 ^ Numeral.maxDecimalDigits)
    : readLine (front ++ (numberedLine (symbol, number)).toList) = .ok (some (symbol, number)) := by
  have padding : ∀ c ∈ [' '], Numeral.isPadding c = true := by
    simpa using show Numeral.isPadding ' ' = true by decide
  rw [readLine_numberedLine_eq blank named, Numeral.read_decimal padding short]
  rfl

/-- Line ends are unified in the blanks in front of a line and behind it, and the line stays. -/
theorem unifyBreaks_line (named : IsSymbol symbol) (gap more : List Char)
    : unifyBreaks (gap ++ (numberedLine (symbol, number)).toList ++ '\n' :: more)
      = [] ++ unifyBreaks gap ++ (numberedLine (symbol, number)).toList
        ++ '\n' :: unifyBreaks more := by
  have start : ((numberedLine (symbol, number)).toList ++ '\n' :: more).head? ≠ some '\n' := by
    intro feed
    rw [toList_numberedLine, List.append_assoc, List.append_assoc] at feed
    have impossible := isBlank_head_symbol named _ _ feed
    contradiction
  have whole : '\r' ∉ (numberedLine (symbol, number)).toList :=
    not_mem_numberedLine named (by decide) (by decide)
  rw [List.append_assoc, unifyBreaks_append start, unifyBreaks_append_of_not_mem whole,
    unifyBreaks_cons (by decide), List.nil_append, List.append_assoc]

end Line

-----------------------------------------------------------------------------------------
-- All lines
-----------------------------------------------------------------------------------------

theorem readLines_cons_blank {text : List Char} (blank : AllBlank text) (rest : List (List Char))
    : readLines (text :: rest) = readLines rest := by
  rw [readLines, readLine_blank blank]
  cases readLines rest <;> rfl

theorem readLines_cons {text : List Char} {entry : String × Int}
    (read : readLine text = .ok (some entry)) (rest : List (List Char))
    : readLines (text :: rest) = (readLines rest).map (entry :: ·) := by
  rw [readLines, read]
  cases readLines rest <;> rfl

/-- Blank lines say nothing, by induction on the lines. -/
theorem readLines_blank {text : List Char} (blank : AllBlank text)
    : readLines (splitFeeds text) = .ok [] := by
  have lines : ∀ line ∈ splitFeeds text, AllBlank line :=
    fun line member c inside => blank c (mem_of_mem_splitFeeds member inside)
  generalize splitFeeds text = all at lines
  induction all with
  | nil => rfl
  | cons line rest ih =>
      obtain ⟨here, later⟩ := List.forall_mem_cons.mp lines
      rw [readLines_cons_blank here, ih later]

/-- A line is read behind the blanks in front of it, whatever lines they make, by induction on the
blanks that are yet to come.
-/
theorem readLines_line {front gap line rest : List Char} {entry : String × Int}
    (begun : AllBlank front) (unbroken : '\n' ∉ front) (blank : AllBlank gap) (single : '\n' ∉ line)
    (read : ∀ front, AllBlank front → readLine (front ++ line) = .ok (some entry))
    : readLines (splitFeeds (front ++ gap ++ line ++ '\n' :: rest))
      = (readLines (splitFeeds rest)).map (entry :: ·) := by
  induction gap generalizing front with
  | nil =>
      have whole : '\n' ∉ front ++ line := by simp [unbroken, single]
      rw [List.append_nil, splitFeeds_append_feed whole, readLines_cons (read front begun)]
  | cons c gap ih =>
      obtain ⟨here, later⟩ := allBlank_cons.mp blank
      by_cases feed : c = '\n'
      · subst feed
        have next := ih allBlank_nil (by simp) later
        rw [show front ++ '\n' :: gap ++ line ++ '\n' :: rest
            = front ++ '\n' :: ([] ++ gap ++ line ++ '\n' :: rest) by simp,
          splitFeeds_append_feed unbroken, readLines_cons_blank begun, next]
      · have longer : AllBlank (front ++ [c]) :=
          allBlank_append.mpr ⟨begun, by simp [AllBlank, here]⟩
        have next := ih longer (by simp [unbroken, Ne.symm feed]) later
        rw [← next]
        simp

/-- A listing with blanks put into it is read as its symbols and numbers, by induction on the
symbols.
-/
theorem readLines_numbered {first : Int} {symbols : List String} {text : List Char}
    (named : ∀ symbol ∈ symbols, IsSymbol symbol)
    (short : ∀ entry ∈ numbered first symbols, entry.2.natAbs < 10 ^ Numeral.maxDecimalDigits)
    (inserted : BlanksInserted (listingText first symbols).toList text)
    : readLines (splitFeeds (unifyBreaks text)) = .ok (numbered first symbols) := by
  induction symbols generalizing first text with
  | nil => exact readLines_blank (allBlank_unifyBreaks inserted.nil)
  | cons symbol rest ih =>
      obtain ⟨here, later⟩ := List.forall_mem_cons.mp named
      rw [numbered_cons] at short ⊢
      obtain ⟨fits, shorter⟩ := List.forall_mem_cons.mp short
      have single : '\n' ∉ (numberedLine (symbol, first)).toList :=
        not_mem_numberedLine here (by decide) (by decide)
      rw [listingText, numbered_cons, List.map_cons, toList_closeLines_cons] at inserted
      obtain ⟨gap, more, blank, inner, rfl⟩ := inserted.cons single
      rw [unifyBreaks_line here, readLines_line allBlank_nil (by simp) (allBlank_unifyBreaks blank)
        single fun front blank => readLine_numberedLine blank here fits, ih later shorter inner]
      rfl

-----------------------------------------------------------------------------------------
-- Files
-----------------------------------------------------------------------------------------

/-- A listing that is well-formed as UTF-8 is loaded by reading its lines. -/
theorem load_eq {files : FileSystem} {path : Path} {text : String}
    (held : files.read path = .ok text.toUTF8)
    : load files path
      = (readLines (splitFeeds (unifyBreaks text.toList))).mapError Fault.numeral := by
  have decoded := Utf8.decodeBlocks_toUTF8 (show 0 < blockSize by decide) text
  rw [load, held]
  simp only [bind, Except.bind, Except.mapError, decoded, completeLines, Option.isNone_none,
    Bool.true_or, if_true]
  cases readLines (splitFeeds (unifyBreaks text.toList)) <;> rfl

/-- Each line of a listing ends at its line feed. -/
theorem noFeed_lines {first : Int} {symbols : List String}
    (named : ∀ symbol ∈ symbols, IsSymbol symbol)
    : ∀ line ∈ (numbered first symbols).map numberedLine, '\n' ∉ line.toList := by
  intro line member
  obtain ⟨⟨symbol, number⟩, found, rfl⟩ := List.mem_map.mp member
  obtain ⟨position, inside, same⟩ := List.mem_mapIdx.mp found
  obtain ⟨rfl, rfl⟩ := Prod.mk.inj same
  exact not_mem_numberedLine (named _ (List.getElem_mem inside)) (by decide) (by decide)

/-- Reading undoes writing. Groups that are written one after the other to an open stream make a
listing that is loaded from a file as their symbols, numbered on from the number at which the writer
started, one pair for each entry and in their order; blank lines that are put in change nothing.
-/
theorem load_written {σ ε : Type} {stream : Stream σ ε} {isOpen : σ → Prop} {state : σ}
    {start : Int} {groups : List Group} (accepts : stream.Accepts isOpen) (opened : isOpen state)
    (empty : stream.content state = "")
    (named : ∀ group ∈ groups, isName group.name.toList = true
      ∧ ∀ entry ∈ group.entries, isName entry.tag.toList = true)
    (short : ∀ entry ∈ numbered start (symbols groups),
      entry.2.natAbs < 10 ^ Numeral.maxDecimalDigits)
    : let result := Writer.writeGroups stream ⟨state, start⟩ groups
      let written := stream.content result.1.stream
      result.2 = .ok ()
      ∧ ∀ (files : FileSystem) (path : Path),
        (files.read path = .ok written.toUTF8
          → load files path = .ok (numbered start (symbols groups)))
        ∧ ∀ text, BlanksInserted written.toList text
          → files.read path = .ok (String.ofList text).toUTF8
          → load files path = .ok (numbered start (symbols groups)) := by
  obtain ⟨after, written, extended⟩ :=
    @Writer.writeGroups_extends _ _ _ _ ⟨state, start⟩ accepts groups opened
  have content : stream.content after.stream = listingText start (symbols groups) := by
    rw [extended.content, empty, String.empty_append]
  have proper : ∀ symbol ∈ symbols groups, IsSymbol symbol := by
    intro symbol member
    obtain ⟨group, found, inside⟩ := List.mem_flatMap.mp member
    obtain ⟨entry, listed, rfl⟩ := List.mem_map.mp inside
    exact isSymbol_of_isName (named group found).1 ((named group found).2 entry listed)
  have spaced (files : FileSystem) (path : Path) (text : List Char)
      (inserted : BlanksInserted (listingText start (symbols groups)).toList text)
      (held : files.read path = .ok (String.ofList text).toUTF8)
      : load files path = .ok (numbered start (symbols groups)) := by
    rw [load_eq held, String.toList_ofList, readLines_numbered proper short inserted]
    rfl
  rw [written]
  simp only [content]
  refine ⟨trivial, fun files path => ⟨fun held => ?_, spaced files path⟩⟩
  exact spaced files path _ (.refl (noFeed_lines proper)) (by rwa [String.ofList_toList])

/-- A stream in memory, which refuses nothing. -/
def memory : Stream String Empty where
  content := id
  write := fun held text => (held ++ text, .ok ())
  content_write := fun _ _ => rfl

/-- Three codes in two groups, whose numbers pass from below zero to above it. -/
def countedGroups : List Group := [
  { name := "g", base := 1, entries := [⟨"A", "one", 2⟩, ⟨"B_2", "", 3⟩] },
  { name := "größe", base := 7, entries := [⟨"Eé", "= 5", 6⟩] } ]

/-- The listing of these groups with blank lines, one of them behind a carriage return. -/
def spacedListing : String :=
  " \t\r\ng_A = -1\n\n\u2028\ng_B_2 = 0\ngröße_Eé = 1\n\r\x0b"

/-- The listing is loaded as it was written and with blank lines put in. -/
theorem load_written_across_zero
    : let listing := "g_A = -1\ng_B_2 = 0\ngröße_Eé = 1\n"
      let loaded := [("g_A", -1), ("g_B_2", 0), ("größe_Eé", 1)]
      (Writer.writeGroups memory ⟨"", -1⟩ countedGroups).1.stream = listing
      ∧ load ⟨[(["codes"], .file listing.toUTF8)]⟩ ⟨"", ["codes"]⟩ = .ok loaded
      ∧ BlanksInserted listing.toList spacedListing.toList
      ∧ load ⟨[(["codes"], .file spacedListing.toUTF8)]⟩ ⟨"", ["codes"]⟩ = .ok loaded := by
  have accepts : memory.Accepts fun _ => True := fun _ _ _ => ⟨rfl, trivial⟩
  have written : memory.content (Writer.writeGroups memory ⟨"", -1⟩ countedGroups).1.stream
      = "g_A = -1\ng_B_2 = 0\ngröße_Eé = 1\n" := by decide
  have named : ∀ group ∈ countedGroups, isName group.name.toList = true
      ∧ ∀ entry ∈ group.entries, isName entry.tag.toList = true := by decide +kernel
  have short : ∀ entry ∈ numbered (-1) (symbols countedGroups),
      entry.2.natAbs < 10 ^ Numeral.maxDecimalDigits := by
    have small : ∀ entry ∈ numbered (-1) (symbols countedGroups), entry.2.natAbs < 10 := by decide
    intro entry member
    exact Nat.lt_of_lt_of_le (small entry member) (Nat.le_self_pow (by decide) 10)
  obtain ⟨-, loads⟩ := load_written accepts trivial rfl named short
  have inserted : BlanksInserted "g_A = -1\ng_B_2 = 0\ngröße_Eé = 1\n".toList
      spacedListing.toList := by
    have last : BlanksInserted [] "\r\x0b".toList := .ends (by decide)
    have third := @BlanksInserted.line [] "größe_Eé = 1".toList _ _ (by decide) allBlank_nil last
    have second := @BlanksInserted.line "\n\u2028\n".toList "g_B_2 = 0".toList _ _ (by decide)
      (by decide) third
    have first := @BlanksInserted.line " \t\r\n".toList "g_A = -1".toList _ _ (by decide)
      (by decide) second
    exact first
  rw [written] at loads
  refine ⟨written, (loads _ _).1 ?_, inserted, (loads _ _).2 _ inserted ?_⟩
  · cbv
  · rw [String.ofList_toList]
    cbv

end ErrorTables.Listing
