import ErrorTables.Proofs.Definition.Concatenation
import ErrorTables.Proofs.Definition.RoundTrip

/-! Comments that are put into a text. A comment is over where its line ends, and lines end at
breaks of ten kinds: what stands behind a break in a comment is a line of its own. The groups stay
the same exactly if each of these lines is a remark.
-/

namespace ErrorTables.Definition

open Text

-----------------------------------------------------------------------------------------
-- Lines that are put in
-----------------------------------------------------------------------------------------

/-- The number of a line after further lines have been put in behind the first ones. -/
def moveBehind (first added number : Nat) : Nat :=
  if number ≤ first then number else number + added

section Inserting

variable {source : Option String} {place : Nat → Nat} {count behind number : Nat}
  {lines front added back rest relaid : List String} {groups : List Group}

/-- Remarks between lines move the lines behind them. -/
theorem relaid_between (front back : List String) (remarks : ∀ text ∈ added, IsRemark text)
    : Relaid (moveBehind front.length added.length) 0 0 (front ++ back)
        (front ++ (added ++ back)) := by
  refine .keep (fun index inside => ?_) (.insert remarks ?_)
  · rw [moveBehind, if_pos (by omega)]
  · have moved : Relaid (moveBehind front.length added.length) (0 + front.length)
        (0 + front.length + added.length) (back ++ []) (back ++ []) := by
      refine .keep (fun index _ => ?_) .nil
      rw [moveBehind, if_neg (by omega)]
      omega
    rwa [List.append_nil] at moved

-----------------------------------------------------------------------------------------
-- Lines that say something
-----------------------------------------------------------------------------------------

/-- How many lines say something does not depend on their numbers, by induction on the lines. -/
theorem length_significant (lines : List String) (number other : Nat)
    : (significant (lines.zipIdx number)).length = (significant (lines.zipIdx other)).length := by
  induction lines generalizing number other with
  | nil => rfl
  | cons text lines ih =>
      rw [List.zipIdx_cons, List.zipIdx_cons]
      cases said : Line.classify text with
      | error unknown => simpa [significant, said] using ih (number + 1) (other + 1)
      | ok line =>
          by_cases ignored : line = .ignored
          · subst ignored
            rw [significant_ignored said, significant_ignored said, ih]
          · rw [significant_cons said ignored, significant_cons said ignored, List.length_cons,
              List.length_cons, ih]

/-- Lines that are read are those of the groups, two and the entries for each, and lines that are
ignored.
-/
theorem length_significant_of_read (read : parseLines source lines = { groups })
    : (significant (lines.zipIdx 1)).length
      = (groups.map fun group => group.entries.length + 2).sum := by
  obtain ⟨blocks, spelled, gives⟩ := parseLines_eq_iff.mp read
  rw [spelled.spelled, List.length_flatMap]
  clear read spelled
  induction gives with
  | nil => rfl
  | @cons block group _ _ given _ ih =>
      rw [List.map_cons, List.map_cons, List.sum_cons, List.sum_cons, ih, given.entries]
      simp [Block.lines]

/-- Lines that are known and say nothing are remarks. -/
theorem isRemark_of_significant_eq_nil
    (classified : ∀ text ∈ lines, ∃ line, Line.classify text = .ok line)
    (nothing : significant (lines.zipIdx number) = [])
    : ∀ text ∈ lines, IsRemark text := by
  induction lines generalizing number with
  | nil => simp
  | cons text lines ih =>
      obtain ⟨⟨line, said⟩, others⟩ := List.forall_mem_cons.mp classified
      rw [List.zipIdx_cons] at nothing
      by_cases ignored : line = .ignored
      · subst ignored
        rw [significant_ignored said] at nothing
        exact List.forall_mem_cons.mpr ⟨classify_eq_ignored_iff.mp said, ih others nothing⟩
      · rw [significant_cons said ignored] at nothing
        contradiction

-----------------------------------------------------------------------------------------
-- Groups
-----------------------------------------------------------------------------------------

/-- Remarks between lines that are read move the lines of the groups. -/
theorem parseLines_insert (read : parseLines source (front ++ back) = { groups })
    (remarks : ∀ text ∈ added, IsRemark text)
    : parseLines source (front ++ (added ++ back))
      = { groups := groups.map (Group.renumber (moveBehind front.length added.length)) } := by
  obtain ⟨same, ended, -⟩ :=
    @parseLines_relaid source _ _ _ (relaid_between front back remarks)
  rw [read] at same ended
  rw [accepted_iff.mp (ended rfl), same]

/-- Only remarks can be put between lines without changing the groups: whatever else a line says
belongs to a group, and groups of the same size take as many lines.
-/
theorem isRemark_of_parseLines_insert {again : List Group}
    (read : parseLines source (front ++ back) = { groups })
    (reread : parseLines source (front ++ (added ++ back)) = { groups := again })
    (same : again.map unplaced = groups.map unplaced)
    : ∀ text ∈ added, IsRemark text := by
  obtain ⟨blocks, spelled, -⟩ := parseLines_eq_iff.mp reread
  have sizes (groups : List Group) : groups.map (fun group => group.entries.length + 2)
      = (groups.map unplaced).map fun group => group.entries.length + 2 := by
    simp [unplaced, Function.comp_def]
  have before := length_significant_of_read read
  have behind := length_significant_of_read reread
  rw [sizes, same, ← sizes, ← before] at behind
  have moved := length_significant back (1 + front.length) (1 + front.length + added.length)
  simp only [List.zipIdx_append, significant_append, List.length_append] at behind
  have nothing : significant (added.zipIdx (1 + front.length)) = [] :=
    List.eq_nil_of_length_eq_zero (by omega)
  refine isRemark_of_significant_eq_nil (fun text member => ?_) nothing
  exact spelled.classified text (by simp [member])

end Inserting

-----------------------------------------------------------------------------------------
-- Comments
-----------------------------------------------------------------------------------------

/-- The lines of a text. -/
def textLines (text : String) : List String :=
  (splitLines text.toList).map String.ofList

/-- A number sign and a comment, up to a line feed. -/
def remarkLine (comment : String) : String :=
  "#" ++ comment ++ "\n"

theorem textLines_append {text : String} (ends : EndsLine text.toList) (rest : String)
    : textLines (text ++ rest) = textLines text ++ textLines rest := by
  rw [textLines, String.toList_append, splitLines_append ends, List.map_append]
  rfl

theorem endsLine_remarkLine (comment : String) : EndsLine (remarkLine comment).toList := by
  rw [remarkLine, String.toList_append]
  exact endsLine_concat _

/-- A comment without breaks is one line. -/
theorem textLines_remarkLine {comment : String} (whole : OneLine comment.toList)
    : textLines (remarkLine comment) = ["#" ++ comment] := by
  have line : OneLine ("#" ++ comment).toList := by
    simpa [isLineBreak, lineBreaks] using whole
  have split := @splitLines_append_feed ("#" ++ comment).toList [] line
  rw [textLines, remarkLine, String.toList_append, show "\n".toList = ['\n'] from rfl, split]
  simp

/-- For every text that is read, every place at its start or behind a line feed, and every comment
that is put there: if the comment holds no line break, the same groups are read, with the numbers of
the lines behind it increased by one. A comment with breaks is as many lines as they make of it;
the groups are the same if each of these is a remark, and only then.
-/
theorem parseText_commented {source : Option String} {front back : String} {groups : List Group}
    (between : EndsLine front.toList)
    (read : parseText source (front ++ back) = .ok groups) (comment : String)
    : let first := (textLines front).length
      let added := textLines (remarkLine comment)
      let reread := parseText source (front ++ remarkLine comment ++ back)
      (OneLine comment.toList → reread = .ok (groups.map (Group.renumber (moveBehind first 1))))
      ∧ ((∀ text ∈ added, IsRemark text)
        → reread = .ok (groups.map (Group.renumber (moveBehind first added.length))))
      ∧ ∀ again, reread = .ok again → again.map unplaced = groups.map unplaced
        → ∀ text ∈ added, IsRemark text := by
  intro first added reread
  rw [parseText_eq_ok_iff, ← textLines, textLines_append between] at read
  have lines : textLines (front ++ remarkLine comment ++ back)
      = textLines front ++ (added ++ textLines back) := by
    rw [String.append_assoc, textLines_append between,
      textLines_append (endsLine_remarkLine comment)]
  have reads (again : List Group) : reread = .ok again
      ↔ parseLines source (textLines front ++ (added ++ textLines back)) = { groups := again } := by
    rw [← lines]
    exact parseText_eq_ok_iff
  have ignored (remarks : ∀ text ∈ added, IsRemark text) :=
    (reads _).mpr (parseLines_insert read remarks)
  refine ⟨fun whole => ?_, ignored, fun again accepted same => ?_⟩
  · have single : added = ["#" ++ comment] := textLines_remarkLine whole
    have remark : ∀ text ∈ added, IsRemark text := by
      simp only [single, List.mem_singleton, forall_eq]
      exact .inr ⟨[], comment.toList, allBlank_nil, by simp⟩
    have moved := ignored remark
    rwa [show added.length = 1 by rw [single]; rfl] at moved
  · exact isRemark_of_parseLines_insert read ((reads again).mp accepted) same

/-- A table in which a further line stands between two entries. -/
def commentedFront : String := "g = 1 \"\" \x7b\r\nA x\n"

def commentedBack : String := "B y\n\x7d\n"

/-- A comment that looks like a closing line moves one line, and one with breaks before a further
number sign and before blanks moves three.
-/
theorem parseText_commented_twice
    : let group (line : Nat) : Group :=
        { name := "g", base := 1, line := 1, entries := [⟨"A", "x", 2⟩, ⟨"B", "y", line⟩] }
      OneLine "\x7d \"".toList
      ∧ parseText none (commentedFront ++ commentedBack) = .ok [group 3]
      ∧ parseText none (commentedFront ++ remarkLine "\x7d \"" ++ commentedBack)
        = .ok [group 4]
      ∧ (∀ text ∈ textLines (remarkLine " a\x0c # b\u2028\t"), IsRemark text)
      ∧ parseText none (commentedFront ++ remarkLine " a\x0c # b\u2028\t" ++ commentedBack)
        = .ok [group 6] := by
  intro group
  have between : EndsLine commentedFront.toList := by simp [EndsLine, commentedFront]
  have read : parseText none (commentedFront ++ commentedBack) = .ok [group 3] := rfl
  have whole : OneLine "\x7d \"".toList := by decide
  have remarks : ∀ text ∈ textLines (remarkLine " a\x0c # b\u2028\t"), IsRemark text := by
    have lines : textLines (remarkLine " a\x0c # b\u2028\t") = ["# a", " # b", "\t"] := rfl
    simp only [lines, List.forall_mem_cons, List.not_mem_nil, ← classify_eq_ignored_iff]
    exact ⟨rfl, rfl, rfl, by simp⟩
  have moved := (parseText_commented between read "\x7d \"").1 whole
  have further := (parseText_commented between read " a\x0c # b\u2028\t").2.1 remarks
  exact ⟨whole, read, moved, remarks, further⟩

/-- A comment with a form feed, and neither a line feed nor a carriage return: the text behind it is
read as an entry, and the group is another one than without the comment.
-/
theorem parseText_rereads_comment
    : let group (entries : List Entry) : Group := { name := "g", base := 1, line := 1, entries }
      let plain := group [⟨"A", "x", 2⟩]
      let longer := group [⟨"A", "x", 2⟩, ⟨"B", "y", 4⟩]
      '\n' ∉ " old\x0cB y".toList ∧ '\r' ∉ " old\x0cB y".toList
      ∧ parseText none ("g = 1 \"\" \x7b\nA x\n" ++ "\x7d\n") = .ok [plain]
      ∧ parseText none ("g = 1 \"\" \x7b\nA x\n" ++ remarkLine " old\x0cB y" ++ "\x7d\n")
        = .ok [longer]
      ∧ [longer].map unplaced ≠ [plain].map unplaced :=
  ⟨by decide, by decide, rfl, rfl, by decide⟩

end ErrorTables.Definition
