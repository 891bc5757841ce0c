import ErrorTables.Proofs.Text.Trimming

/-! Lines that are closed and joined can be split again.
A line without breaks comes back whole, at every kind of break or at line feeds alone, and a line
that was split off holds no break.
-/

namespace ErrorTables.Text

/-- The text holds no line break. -/
def OneLine (text : List Char) : Prop :=
  ∀ c ∈ text, isLineBreak c = false

instance (text : List Char) : Decidable (OneLine text) :=
  List.decidableBAll (isLineBreak · = false) text

@[simp]
theorem oneLine_nil : OneLine [] := by
  simp [OneLine]

@[simp]
theorem oneLine_cons {c : Char} {text : List Char}
    : OneLine (c :: text) ↔ isLineBreak c = false ∧ OneLine text := by
  simp [OneLine]

@[simp]
theorem oneLine_append {first second : List Char}
    : OneLine (first ++ second) ↔ OneLine first ∧ OneLine second := by
  simp [OneLine, or_imp, forall_and]

theorem OneLine.noFeed {text : List Char} (h : OneLine text) : '\n' ∉ text := by
  intro member
  have impossible := h _ member
  contradiction

theorem splitLines_cons {c : Char} {rest : List Char} (apart : c ≠ '\r')
    : splitLines (c :: rest)
      = if isLineBreak c then [] :: splitLines rest else consLine c (splitLines rest) :=
  splitLines.eq_3 c rest fun _ same _ => apart same

theorem unifyBreaks_cons {c : Char} {rest : List Char} (apart : c ≠ '\r')
    : unifyBreaks (c :: rest) = c :: unifyBreaks rest := by
  rw [unifyBreaks.eq_3 c rest fun _ same _ => apart same, if_neg apart]

/-- A line without breaks is split off at its line feed, by induction on the line. -/
theorem splitLines_append_feed {line rest : List Char} (whole : OneLine line)
    : splitLines (line ++ '\n' :: rest) = line :: splitLines rest := by
  induction line with
  | nil => rfl
  | cons c tail ih =>
      obtain ⟨here, whole⟩ := oneLine_cons.mp whole
      have inner := ih whole
      have apart : c ≠ '\r' := by
        intro same
        subst same
        contradiction
      rw [List.cons_append, splitLines_cons apart, inner, here]
      rfl

/-- A text that is not empty has a line. -/
theorem splitLines_ne_nil {text : List Char} (filled : text ≠ []) : splitLines text ≠ [] := by
  induction text using splitLines.induct with
  | case1 => contradiction
  | case2 rest _ => simp [splitLines]
  | case3 c rest apart broken _ => simp [splitLines.eq_3 c rest apart, broken]
  | case4 c rest apart whole _ =>
      rw [splitLines.eq_3 c rest apart, if_neg whole]
      cases splitLines rest <;> simp [consLine]

theorem consLine_append {lines : List (List Char)} (filled : lines ≠ []) (c : Char)
    (more : List (List Char))
    : consLine c (lines ++ more) = consLine c lines ++ more := by
  cases lines with
  | nil => contradiction
  | cons line rest => rfl

/-- The text leaves no line open at its end: it is empty or ends with a line feed. -/
def EndsLine (text : List Char) : Prop :=
  ∀ c ∈ text.getLast?, c = '\n'

theorem endsLine_concat (text : List Char) : EndsLine (text ++ ['\n']) := by
  simp [EndsLine]

theorem EndsLine.tail {c : Char} {text : List Char} (h : EndsLine (c :: text))
    : EndsLine text := by
  cases text with
  | nil => simp [EndsLine]
  | cons => simpa [EndsLine] using h

/-- A text that leaves no line open is split apart from what follows, by the recursion of the
splitting.
-/
theorem splitLines_append {text : List Char} (ends : EndsLine text) (rest : List Char)
    : splitLines (text ++ rest) = splitLines text ++ splitLines rest := by
  -- A carriage return at the end would have been a line feed.
  have still {c : Char} {text : List Char} (ends : EndsLine (c :: text))
      (apart : ∀ after, c = '\r' → text = '\n' :: after → False)
      : ∀ after, c = '\r' → text ++ rest = '\n' :: after → False := by
    intro after returned eq
    cases text with
    | nil =>
        have feed := ends c (by simp)
        rw [returned] at feed
        contradiction
    | cons d text => exact apart text returned (by simp_all)
  induction text using splitLines.induct with
  | case1 => rfl
  | case2 text ih =>
      rw [List.cons_append, List.cons_append, splitLines, splitLines, ih ends.tail.tail,
        List.cons_append]
  | case3 c text apart broken ih =>
      rw [List.cons_append, splitLines.eq_3 _ _ (still ends apart), splitLines.eq_3 _ _ apart,
        if_pos broken, if_pos broken, ih ends.tail, List.cons_append]
  | case4 c text apart whole ih =>
      have filled : text ≠ [] := by
        rintro rfl
        have feed := ends c (by simp)
        rw [feed] at whole
        contradiction
      rw [List.cons_append, splitLines.eq_3 _ _ (still ends apart), splitLines.eq_3 _ _ apart,
        if_neg whole, if_neg whole, ih ends.tail,
        consLine_append (splitLines_ne_nil filled)]

/-- A line without line feeds is split off at its line feed, by induction on the line. -/
theorem splitFeeds_append_feed {line rest : List Char} (whole : '\n' ∉ line)
    : splitFeeds (line ++ '\n' :: rest) = line :: splitFeeds rest := by
  induction line with
  | nil => rfl
  | cons c tail ih =>
      simp only [List.mem_cons, not_or] at whole
      rw [List.cons_append, splitFeeds, ih whole.2, if_neg (Ne.symm whole.1)]
      rfl

theorem toList_closeLines_cons (line : String) (rest : List String)
    : (closeLines (line :: rest)).toList = line.toList ++ '\n' :: (closeLines rest).toList := by
  simp [closeLines]

theorem toList_closeLines_append (first second : List String)
    : (closeLines (first ++ second)).toList
      = (closeLines first).toList ++ (closeLines second).toList := by
  induction first with
  | nil => simp
  | cons line rest ih =>
      rw [List.cons_append, toList_closeLines_cons, toList_closeLines_cons, ih, List.append_assoc,
        List.cons_append]

/-- Lines without breaks are split as they were joined, by induction on the lines. -/
theorem splitLines_closeLines {lines : List String}
    (whole : ∀ line ∈ lines, OneLine line.toList)
    : splitLines (closeLines lines).toList = lines.map String.toList := by
  induction lines with
  | nil => rfl
  | cons line rest ih =>
      rw [toList_closeLines_cons, splitLines_append_feed (whole line (by simp)),
        ih fun other member => whole other (by simp [member]), List.map_cons]

/-- Lines without line feeds are split at line feeds as they were joined, by induction on the lines.
-/
theorem splitFeeds_closeLines {lines : List String} (whole : ∀ line ∈ lines, '\n' ∉ line.toList)
    : splitFeeds (closeLines lines).toList = lines.map String.toList := by
  induction lines with
  | nil => rfl
  | cons line rest ih =>
      rw [toList_closeLines_cons, splitFeeds_append_feed (whole line (by simp)),
        ih fun other member => whole other (by simp [member]), List.map_cons]

/-- Where no line feed follows a text, its breaks are unified apart from the rest, by the recursion
of unifying.
-/
theorem unifyBreaks_append {text rest : List Char} (apart : rest.head? ≠ some '\n')
    : unifyBreaks (text ++ rest) = unifyBreaks text ++ unifyBreaks rest := by
  induction text using unifyBreaks.induct with
  | case1 => rfl
  | case2 text ih => rw [List.cons_append, List.cons_append, unifyBreaks, ih, unifyBreaks]; rfl
  | case3 c text alone ih =>
      have still : ∀ tail, c = '\r' → text ++ rest = '\n' :: tail → False := by
        intro tail returned eq
        cases text with
        | nil => exact apart (by simp_all)
        | cons d text => exact alone text returned (by simp_all)
      rw [List.cons_append, unifyBreaks, ih, unifyBreaks, List.cons_append]
      · exact alone
      · exact still

/-- A text without carriage returns is left as it is, by induction on the text. -/
theorem unifyBreaks_append_of_not_mem {text rest : List Char} (absent : '\r' ∉ text)
    : unifyBreaks (text ++ rest) = text ++ unifyBreaks rest := by
  induction text with
  | nil => rfl
  | cons c text ih =>
      simp only [List.mem_cons, not_or] at absent
      rw [List.cons_append, unifyBreaks_cons (Ne.symm absent.1), ih absent.2, List.cons_append]

theorem allBlank_unifyBreaks {text : List Char} (blank : AllBlank text)
    : AllBlank (unifyBreaks text) := by
  induction text using unifyBreaks.induct with
  | case1 => exact blank
  | case2 text ih =>
      rw [unifyBreaks]
      simp only [allBlank_cons] at blank
      exact allBlank_cons.mpr ⟨by decide, ih blank.2.2⟩
  | case3 c text alone ih =>
      rw [unifyBreaks]
      · simp only [allBlank_cons] at blank
        refine allBlank_cons.mpr ⟨?_, ih blank.2⟩
        split
        · decide
        · exact blank.1
      · exact alone

/-- Characters that come to stand in lines are a new one or were in lines before. -/
theorem mem_consLine {c d : Char} {line : List Char} {lines : List (List Char)}
    (member : line ∈ consLine c lines) (hd : d ∈ line)
    : d = c ∨ ∃ other ∈ lines, d ∈ other := by
  cases lines with
  | nil =>
      have same : line = [c] := by simpa [consLine] using member
      exact Or.inl (by simpa [same] using hd)
  | cons first rest =>
      rcases List.mem_cons.mp member with same | later
      · subst same
        rcases List.mem_cons.mp hd with here | inner
        · exact Or.inl here
        · exact Or.inr ⟨first, by simp, inner⟩
      · exact Or.inr ⟨line, by simp [later], hd⟩

/-- Lines that are split at line feeds hold characters of the text, by induction on the text. -/
theorem mem_of_mem_splitFeeds {text line : List Char} {c : Char} (member : line ∈ splitFeeds text)
    (inside : c ∈ line)
    : c ∈ text := by
  induction text generalizing line with
  | nil => simp at member
  | cons d rest ih =>
      rw [splitFeeds] at member
      split at member
      · rcases List.mem_cons.mp member with empty | later
        · simp [empty] at inside
        · exact List.mem_cons_of_mem d (ih later inside)
      · rcases mem_consLine member inside with here | ⟨other, later, inner⟩
        · simp [here]
        · exact List.mem_cons_of_mem d (ih later inner)

/-- What is split off is one line, by the recursion of the splitting. -/
theorem oneLine_of_mem_splitLines {text line : List Char} (member : line ∈ splitLines text)
    : OneLine line := by
  induction text using splitLines.induct generalizing line with
  | case1 => simp at member
  | case2 rest ih =>
      rw [splitLines] at member
      rcases List.mem_cons.mp member with same | later
      · simp [same]
      · exact ih later
  | case3 c rest apart broken ih =>
      rw [splitLines, if_pos broken] at member
      · rcases List.mem_cons.mp member with same | later
        · simp [same]
        · exact ih later
      · exact apart
  | case4 c rest apart whole ih =>
      rw [splitLines, if_neg whole] at member
      · intro d hd
        rcases mem_consLine member hd with same | ⟨other, later, inner⟩
        · simpa [same] using whole
        · exact ih later d inner
      · exact apart

end ErrorTables.Text
