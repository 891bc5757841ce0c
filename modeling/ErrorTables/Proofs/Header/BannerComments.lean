import ErrorTables.Proofs.Header.CommentBodies

/-! The comments of a banner, and what is left of it without them. The label cannot close its
comment, but what the context puts into the opening comment is written as it is: the comment ends
where the banner ends it exactly if none of these texts holds the end of a comment.
-/

namespace ErrorTables.Header

open Text

-----------------------------------------------------------------------------------------
-- Comments of a text
-----------------------------------------------------------------------------------------

/-- The text outside of its comments, and the bodies of the comments in order. A comment runs from
its start to the next end of a comment; its body is given as far as it was read already, if the text
starts inside. Nothing is given for a text whose last comment has no end.
-/
def splitComments : Option (List Char) → List Char → Option (List Char × List (List Char))
  | none, [] => some ([], [])
  | some _, [] => none
  | none, '/' :: '*' :: rest => splitComments (some []) rest
  | none, c :: rest => (splitComments none rest).map fun (code, bodies) => (c :: code, bodies)
  | some body, '*' :: '/' :: rest =>
      (splitComments none rest).map fun (code, bodies) => (code, body :: bodies)
  | some body, c :: rest => splitComments (some (body ++ [c])) rest

section Splitting

variable {text body rest code : List Char} {bodies : List (List Char)}

/-- Where no comment starts, the text is left as it is, by induction on it. -/
theorem splitComments_code (quiet : '/' ∉ text)
    : splitComments none (text ++ rest)
      = (splitComments none rest).map fun (code, bodies) => (text ++ code, bodies) := by
  induction text with
  | nil => simp
  | cons c tail ih =>
      obtain ⟨slash, quiet⟩ := not_or.mp (mt List.mem_cons.mpr quiet)
      rw [List.cons_append, splitComments, ih quiet, Option.map_map]
      · rfl
      · intro _ same
        exact (slash same.symm).elim

/-- A comment ends at its first end, by induction on its body. -/
theorem splitComments_body (closesNone : ClosesNone body) (front : List Char)
    : splitComments (some front) (body ++ '*' :: '/' :: rest)
      = (splitComments none rest).map fun (code, bodies) => (code, (front ++ body) :: bodies) := by
  induction body generalizing front with
  | nil => simp [splitComments]
  | cons c tail ih =>
      rw [List.cons_append, splitComments, ih closesNone.tail]
      · simp
      · exact closesNone.no_sooner

/-- A text that closes a comment has a first end of one, by induction on how much is in front of
some end.
-/
theorem exists_firstEnd (closes : ¬ ClosesNone text)
    : ∃ before after, text = before ++ '*' :: '/' :: after ∧ ClosesNone before := by
  obtain ⟨front, back, eq⟩ := not_not.mp closes
  induction measure : front.length using Nat.strongRecOn generalizing front back with
  | ind count ih =>
      by_cases first : ClosesNone front
      · exact ⟨front, back, by simp [← eq], first⟩
      · obtain ⟨before, after, split⟩ := not_not.mp first
        have shorter : before.length < count := by
          rw [← measure, ← split, List.length_append, List.length_append]
          simp
          omega
        exact ih _ shorter before (after ++ ['*', '/'] ++ back) (by simp [← eq, ← split]) rfl

theorem splitComments_code_iff (quiet : '/' ∉ text)
    : splitComments none (text ++ rest) = some (text ++ code, bodies)
      ↔ splitComments none rest = some (code, bodies) := by
  rw [splitComments_code quiet, Option.map_eq_some_iff]
  constructor
  · rintro ⟨⟨_, _⟩, split, eq⟩
    obtain ⟨same, rfl⟩ := Prod.mk.inj eq
    rwa [← List.append_cancel_left same]
  · intro split
    exact ⟨_, split, rfl⟩

/-- A comment is read with a body exactly if the body closes no comment: else it would have ended
within the body.
-/
theorem splitComments_comment_iff
    : splitComments none ('/' :: '*' :: (body ++ '*' :: '/' :: rest)) = some (code, body :: bodies)
      ↔ ClosesNone body ∧ splitComments none rest = some (code, bodies) := by
  have reads {before after : List Char} (first : ClosesNone before)
      : splitComments none ('/' :: '*' :: (before ++ '*' :: '/' :: after))
        = (splitComments none after).map fun (code, bodies) => (code, before :: bodies) := by
    rw [splitComments, splitComments_body first]
    rfl
  constructor
  · intro split
    have closesNone : ClosesNone body := by
      by_contra closes
      obtain ⟨before, after, eq, first⟩ := exists_firstEnd closes
      have shown : body ++ '*' :: '/' :: rest
          = before ++ '*' :: '/' :: (after ++ '*' :: '/' :: rest) := by simp [eq]
      rw [shown, reads first, Option.map_eq_some_iff] at split
      obtain ⟨_, -, same⟩ := split
      have whole : before = body := (List.cons.inj (Prod.mk.inj same).2).1
      simp [← whole] at eq
    rw [reads closesNone, Option.map_eq_some_iff] at split
    obtain ⟨⟨_, _⟩, split, same⟩ := split
    simp only [Prod.mk.injEq, List.cons.injEq, true_and] at same
    obtain ⟨rfl, rfl⟩ := same
    exact ⟨closesNone, split⟩
  · rintro ⟨closesNone, split⟩
    rw [reads closesNone, split]
    rfl

end Splitting

-----------------------------------------------------------------------------------------
-- The banner
-----------------------------------------------------------------------------------------

/-- The body of the comment with the label, if it is shown. -/
def labelBodies (context : Context) (group : Group) : List (List Char) :=
  if context.showsLabel && !group.label.isEmpty then
    [s!" {group.name}: {String.ofList (openComment group.label.toList)} ".toList]
  else []

/-- The lines of a banner outside of its comments: the two of the guard, and the blank lines that
the comments set off and leave behind.
-/
def guardLines (fileName : String) (context : Context) (group : Group) : List String :=
  [s!"#ifndef {guardToken fileName}", s!"#define {guardToken fileName}"]
    ++ List.replicate (3 + (labelComment context group).length) ""

section Banner

variable {fileName : String} {context : Context} {group : Group}

theorem toList_banner
    : (banner fileName context group).toList
      = (closeLines [s!"#ifndef {guardToken fileName}", s!"#define {guardToken fileName}", ""]).toList
        ++ '/' :: '*' :: (openingBody context
          ++ '*' :: '/' :: '\n' :: (closeLines (labelComment context group ++ [""])).toList) := by
  rw [banner, bannerLines_eq]
  simp [toList_closeLines_append, toList_closeLines_cons, openingBody]

/-- What stands behind the opening comment: blank lines and the comment with the label. -/
theorem splitComments_labelComment_iff
    : splitComments none ('\n' :: (closeLines (labelComment context group ++ [""])).toList)
        = some ((closeLines (List.replicate (2 + (labelComment context group).length) "")).toList,
            labelBodies context group)
      ↔ (labelComment context group ≠ [] → ClosesNone group.name.toList) := by
  unfold labelComment labelBodies
  split
  · have shown : '\n' :: (closeLines (["",
          s!"/* {group.name}: {String.ofList (openComment group.label.toList)} */"] ++ [""])).toList
        = ['\n', '\n'] ++ '/' :: '*' ::
          ((s!" {group.name}: {String.ofList (openComment group.label.toList)} ").toList
            ++ '*' :: '/' :: ['\n', '\n']) := by
      simp [toString, toList_closeLines_cons]
    have left : (closeLines (List.replicate 4 "")).toList = ['\n', '\n'] ++ ['\n', '\n'] := rfl
    have ending : splitComments none ['\n', '\n'] = some (['\n', '\n'], []) := rfl
    rw [shown, List.length_cons, List.length_singleton, left, splitComments_code_iff (by decide),
      splitComments_comment_iff, closesNone_labelBody_iff]
    simp [ending]
  · have ending : splitComments none ['\n', '\n'] = some (['\n', '\n'], []) := rfl
    simpa [toList_closeLines_cons] using ending

end Banner

/-- A banner without its comments is the guard and blank lines, and the comments are those that it
writes, exactly if no text of the context closes comments and, where the label is shown, the name
of the group does not either. The label may be any text.
-/
theorem splitComments_banner_iff (fileName : String) (context : Context) (group : Group)
    : splitComments none (banner fileName context group).toList
        = some ((closeLines (guardLines fileName context group)).toList,
            openingBody context :: labelBodies context group)
      ↔ (∀ text ∈ context.commentTexts, ClosesNone text.toList)
        ∧ (labelComment context group ≠ [] → ClosesNone group.name.toList) := by
  have quiet : '/' ∉ (closeLines [s!"#ifndef {guardToken fileName}",
      s!"#define {guardToken fileName}", ""]).toList := by
    have guarded := (quiet_guardToken fileName).1
    simp [toString, toList_closeLines_cons, guarded]
  have left : (closeLines (guardLines fileName context group)).toList
      = (closeLines [s!"#ifndef {guardToken fileName}", s!"#define {guardToken fileName}", ""]).toList
        ++ (closeLines (List.replicate (2 + (labelComment context group).length) "")).toList := by
    rw [← toList_closeLines_append, guardLines, show 3 + (labelComment context group).length
      = (2 + (labelComment context group).length) + 1 by omega, List.replicate_succ]
    rfl
  rw [toList_banner, left, splitComments_code_iff quiet, splitComments_comment_iff,
    closesNone_openingBody_iff, splitComments_labelComment_iff]

/-- A source whose path holds the end of a comment: the rest of the path and the lines behind it
stand outside of the opening comment.
-/
theorem banner_shows_rest_of_source
    : let context : Context := { source := "old*/g.dat", timestamp := "now" }
      let code := "#ifndef G_H\n#define G_H\n\ng.dat\n *     generated on now\n */\n\n".toList
      splitComments none (banner "g.h" context { name := "g", base := 1 }).toList
        = some (code, ["\n * DO NOT EDIT ---\n *     generated by errgen from old".toList])
      ∧ ¬ ∀ line ∈ splitFeeds code,
        line = "#ifndef G_H".toList ∨ line = "#define G_H".toList ∨ AllBlank line := by
  refine ⟨by decide +kernel, fun each => ?_⟩
  have rest := each "g.dat".toList (by decide +kernel)
  revert rest
  decide

end ErrorTables.Header
