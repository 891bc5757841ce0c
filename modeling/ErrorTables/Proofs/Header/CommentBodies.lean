import ErrorTables.Header.Banner
import ErrorTables.Proofs.Header.Scanner

/-! The comments that a banner writes. The texts of the context stand in the opening comment as they
are, and its body closes no comment exactly if none of them does; the label is opened before it is
written, so that it closes none whatever it is.
-/

namespace ErrorTables.Header

open Text

-----------------------------------------------------------------------------------------
-- The opening comment
-----------------------------------------------------------------------------------------

/-- The lines inside the opening comment. -/
def commentLines (context : Context) : List String :=
  [ " * DO NOT EDIT ---",
    s!" *     generated by {context.program} from {context.source}",
    s!" *     generated on {context.timestamp}" ] ++
  bannerComment context

/-- The opening comment stands between the guard and the label. -/
theorem bannerLines_eq (fileName : String) (context : Context) (group : Group)
    : bannerLines fileName context group
      = [s!"#ifndef {guardToken fileName}", s!"#define {guardToken fileName}", ""]
        ++ ("/*" :: (commentLines context ++ [" */"])) ++ labelComment context group ++ [""] := by
  simp [bannerLines, commentLines]

/-- The texts of the context that stand in the opening comment. -/
def Context.commentTexts (context : Context) : List String :=
  context.program :: context.source :: context.timestamp :: context.bannerLines

/-- A line that the context adds closes a comment exactly if its text does: the blanks that it loses
at its end have no part in that.
-/
theorem closesNone_commentLine_iff {text : String}
    : ClosesNone (commentLine text).toList ↔ ClosesNone text.toList := by
  have line : (commentLine text).toList = trimEnd (" *".toList ++ ' ' :: text.toList) := by
    simp [commentLine, toString]
  obtain ⟨blanks, blank, eq⟩ := exists_trimEnd_append (" *".toList ++ ' ' :: text.toList)
  have absent : '/' ∉ blanks := by
    intro member
    have impossible := blank _ member
    contradiction
  rw [line, ← closesNone_append_iff absent, ← eq, closesNone_join_iff (by decide) (by decide)]
  exact and_iff_right (closesNone_of_not_mem (by decide))

/-- The opening comment is closed by none of its lines exactly if none of the texts in it closes
comments.
-/
theorem closesNone_commentLines_iff {context : Context}
    : (∀ line ∈ commentLines context, ClosesNone line.toList)
      ↔ ∀ text ∈ context.commentTexts, ClosesNone text.toList := by
  have plain {text : String} (absent : '/' ∉ text.toList) : ClosesNone text.toList ↔ True :=
    iff_true_intro (closesNone_of_not_mem absent)
  have origin : ClosesNone (s!" *     generated by {context.program} from {context.source}").toList
      ↔ ClosesNone context.program.toList ∧ ClosesNone context.source.toList := by
    have shown : (s!" *     generated by {context.program} from {context.source}").toList
        = " *     generated by".toList ++ ' ' :: (context.program.toList
          ++ ' ' :: ("from".toList ++ ' ' :: context.source.toList)) := by simp [toString]
    rw [shown, closesNone_join_iff (by decide) (by decide),
      closesNone_join_iff (by decide) (by decide), closesNone_join_iff (by decide) (by decide),
      plain (show '/' ∉ " *     generated by".toList by decide),
      plain (show '/' ∉ "from".toList by decide), true_and, true_and]
  have moment : ClosesNone (s!" *     generated on {context.timestamp}").toList
      ↔ ClosesNone context.timestamp.toList := by
    have shown : (s!" *     generated on {context.timestamp}").toList
        = " *     generated on".toList ++ ' ' :: context.timestamp.toList := by simp [toString]
    rw [shown, closesNone_join_iff (by decide) (by decide),
      plain (show '/' ∉ " *     generated on".toList by decide), true_and]
  have added : (∀ line ∈ bannerComment context, ClosesNone line.toList)
      ↔ ∀ text ∈ context.bannerLines, ClosesNone text.toList := by
    unfold bannerComment
    split
    · rename_i empty
      simp [List.isEmpty_iff.mp empty]
    · simp only [List.forall_mem_cons, List.forall_mem_map, closesNone_commentLine_iff,
        plain (show '/' ∉ " *".toList by decide), true_and]
  simp only [commentLines, Context.commentTexts, List.forall_mem_append, List.forall_mem_cons,
    origin, moment, added, plain (show '/' ∉ " * DO NOT EDIT ---".toList by decide),
    List.not_mem_nil, false_imp_iff, implies_true, true_and, and_true, and_assoc]

/-- The body of the opening comment. -/
def openingBody (context : Context) : List Char :=
  '\n' :: ((closeLines (commentLines context)).toList ++ [' '])

theorem closesNone_openingBody_iff {context : Context}
    : ClosesNone (openingBody context) ↔ ∀ text ∈ context.commentTexts, ClosesNone text.toList := by
  have feed : openingBody context
      = [] ++ '\n' :: ((closeLines (commentLines context)).toList ++ ' ' :: []) := rfl
  have nothing : ClosesNone [] := closesNone_of_not_mem List.not_mem_nil
  rw [feed, closesNone_join_iff (by decide) (by decide), closesNone_join_iff (by decide) (by decide),
    closesNone_closeLines_iff, closesNone_commentLines_iff]
  exact ⟨fun parts => parts.2.1, fun each => ⟨nothing, each, nothing⟩⟩

-----------------------------------------------------------------------------------------
-- The comment with the label
-----------------------------------------------------------------------------------------

theorem head_openComment (text : List Char) : (openComment text).head? = text.head? := by
  unfold openComment
  split <;> rfl

/-- An opened text closes no comment, by the recursion of opening it. -/
theorem closesNone_openComment (text : List Char) : ClosesNone (openComment text) := by
  rw [closesNone_iff]
  induction text using openComment.induct with
  | case1 rest ih =>
      have behind : ('/' :: openComment rest).IsChain
          fun first second => ¬ (first = '*' ∧ second = '/') :=
        List.isChain_cons.mpr ⟨by simp, ih⟩
      exact List.isChain_cons_cons.mpr ⟨by decide, List.isChain_cons_cons.mpr ⟨by decide, behind⟩⟩
  | case2 c rest apart ih =>
      rw [openComment, List.isChain_cons, head_openComment]
      · refine ⟨?_, ih⟩
        -- A slash right behind an asterisk in the text would have been set apart.
        intro second first both
        cases rest with
        | nil => simp at first
        | cons d others =>
            have same : d = second := by simpa using first
            exact apart others both.1 (by rw [same, both.2])
      · exact apart
  | case3 => simp [openComment]

/-- The comment with the label of a group closes none within its body unless the name of the group
does.
-/
theorem closesNone_labelBody_iff (name : String) (label : List Char)
    : ClosesNone (s!" {name}: {String.ofList (openComment label)} ").toList
      ↔ ClosesNone name.toList := by
  have shown : (s!" {name}: {String.ofList (openComment label)} ").toList
      = [] ++ ' ' :: (name.toList ++ ':' :: ([] ++ ' ' :: (openComment label ++ ' ' :: []))) := by
    simp [toString]
  have nothing : ClosesNone [] := closesNone_of_not_mem List.not_mem_nil
  rw [shown, closesNone_join_iff (by decide) (by decide), closesNone_join_iff (by decide) (by decide),
    closesNone_join_iff (by decide) (by decide), closesNone_join_iff (by decide) (by decide)]
  exact ⟨fun parts => parts.2.1,
    fun named => ⟨nothing, named, nothing, closesNone_openComment label, nothing⟩⟩

-----------------------------------------------------------------------------------------
-- The guard
-----------------------------------------------------------------------------------------

theorem quiet_guardToken (fileName : String) : Quiet (guardToken fileName).toList := by
  have absent (c : Char) (apart : isGuardChar c = false) (mark : c ≠ '_')
      : c ∉ (guardToken fileName).toList := by
    intro member
    simp only [guardToken, String.toList_ofList, List.mem_map] at member
    obtain ⟨raised, -, shown⟩ := member
    split at shown
    · rename_i kept
      simp [shown, apart] at kept
    · exact mark shown.symm
  exact ⟨absent '/' (by decide) (by decide), absent '"' (by decide) (by decide)⟩

end ErrorTables.Header
