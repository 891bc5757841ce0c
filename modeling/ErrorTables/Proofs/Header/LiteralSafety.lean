import ErrorTables.Proofs.Definition.RoundTrip
import ErrorTables.Proofs.Header.CommentBodies
import ErrorTables.Proofs.Header.EntryRows

/-! No message and no label breaks out of the text of a header.
A scanner passes over the comments of a header and meets the literals of the messages and of the
sentinel only, each with the text that it was written for.
-/

namespace ErrorTables.Header

open Text Definition

/-- What the context puts into comments closes none, what it puts into code starts neither a comment
nor a literal, and the sentinel stands on one line.
-/
structure Context.Harmless (context : Context) : Prop where
  program : ClosesNone context.program.toList
  source : ClosesNone context.source.toList
  timestamp : ClosesNone context.timestamp.toList
  bannerLines : ∀ line ∈ context.bannerLines, ClosesNone line.toList
  infoType : Quiet context.infoType.toList
  countType : Quiet context.countType.toList
  sentinel : OneLine context.sentinel.toList

-----------------------------------------------------------------------------------------
-- The banner
-----------------------------------------------------------------------------------------

theorem Context.Harmless.commentTexts {context : Context} (harmless : context.Harmless)
    : ∀ text ∈ context.commentTexts, ClosesNone text.toList := by
  simp only [Context.commentTexts, List.forall_mem_cons]
  exact ⟨harmless.program, harmless.source, harmless.timestamp, harmless.bannerLines⟩

theorem scans_labelComment {context : Context} {group : Group}
    (named : isName group.name.toList = true)
    : Scans (closeLines (labelComment context group)).toList [] := by
  unfold labelComment
  split
  · have name : ClosesNone group.name.toList :=
      closesNone_of_not_mem ((solid_name named).not_mem (by decide))
    have comment :=
      scans_comment ((closesNone_labelBody_iff group.name group.label.toList).mpr name)
    have shown : Scans
        (s!"/* {group.name}: {String.ofList (openComment group.label.toList)} */").toList [] := by
      simpa [toString] using comment
    exact (scans_code (by simp)).line (shown.line (scans_code (by simp)))
  · exact scans_code (by simp)

theorem scans_openingComment {context : Context} (harmless : context.Harmless)
    : Scans (closeLines ("/*" :: (commentLines context ++ [" */"]))).toList [] := by
  have body : ClosesNone (openingBody context) :=
    closesNone_openingBody_iff.mpr harmless.commentTexts
  have feed : Scans ['\n'] [] := scans_code (by simp)
  have comment := (scans_comment body).append feed
  simpa [openingBody, toList_closeLines_cons, toList_closeLines_append] using comment

theorem scans_banner {context : Context} {group : Group} (harmless : context.Harmless)
    (named : isName group.name.toList = true) (fileName : String)
    : Scans (banner fileName context group).toList [] := by
  have front : Scans (closeLines [s!"#ifndef {guardToken fileName}",
      s!"#define {guardToken fileName}", ""]).toList [] :=
    scans_code (by simp [toString, quiet_guardToken])
  have comment := scans_openingComment harmless
  have label : Scans (closeLines (labelComment context group)).toList [] :=
    scans_labelComment named
  have back : Scans (closeLines [""]).toList [] := scans_code (by simp)
  rw [banner, bannerLines_eq]
  exact ((front.lines comment).lines label).lines back

-----------------------------------------------------------------------------------------
-- The declarations
-----------------------------------------------------------------------------------------

theorem quiet_of_solid {text : List Char} (solid : Solid text) : Quiet text :=
  ⟨solid.not_mem (by decide), solid.not_mem (by decide)⟩

theorem quiet_column {symbol : String} (solid : Solid symbol.toList)
    : Quiet (column symbol).toList :=
  ⟨not_mem_column solid (by decide) (by decide), not_mem_column solid (by decide) (by decide)⟩

theorem quiet_countRow {context : Context} {name : String} (typed : Quiet context.countType.toList)
    (named : Quiet name.toList) (count : Nat)
    : Quiet (countRow context name count).toList :=
  ⟨not_mem_countRow count typed.1 named.1 (by decide) (by decide),
    not_mem_countRow count typed.2 named.2 (by decide) (by decide)⟩

theorem scans_messageRow {group : String} {entry : Entry} (named : isName group.toList = true)
    (writable : Entry.Writable entry)
    : Scans (messageRow group entry).toList [entry.message] := by
  have symbol := quiet_column (solid_enumSymbol named writable.tag)
  have body : ClosesNone (' ' :: ((column (enumSymbol group entry.tag)).toList ++ [' '])) :=
    closesNone_of_not_mem (by simpa using symbol.1)
  have blank : Scans [' '] [] := scans_code (by simp)
  have comma : Scans [','] [] := scans_code (by simp)
  have row := (scans_comment body).append
    (blank.append ((scans_literal writable.message).append comma))
  simpa [messageRow, toString] using row

theorem scans_infoRow {group : String} {entry : Entry} (named : isName group.toList = true)
    (writable : Entry.Writable entry)
    : Scans (infoRow group entry).toList [entry.message] := by
  have symbol := quiet_column (solid_enumSymbol named writable.tag)
  have front : Scans ("    \x7b ".toList ++ (column (enumSymbol group entry.tag)).toList
      ++ ",  ".toList) [] :=
    scans_code (by simpa using symbol)
  have back : Scans " \x7d,".toList [] := scans_code (by simp)
  have row := front.append ((scans_literal writable.message).append back)
  simpa [infoRow, toString] using row

section Declarations

variable {context : Context} {group : Group} (harmless : context.Harmless)
variable (writable : Group.Writable group)
include harmless writable

/-- The declarations of messages show the messages and the sentinel. -/
theorem scans_messageRows
    : Scans (closeLines (messageRows context group)).toList
        (group.entries.map (·.message) ++ [context.sentinel]) := by
  have name := quiet_of_solid (solid_name writable.name)
  have front : Scans (s!"static const char* {group.name}_errmsg[] = \x7b").toList [] :=
    scans_code (by simpa [toString] using name)
  have rows : Scans (closeLines (group.entries.map (messageRow group.name))).toList
      (group.entries.map (·.message)) :=
    scans_closeLines fun entry found =>
      scans_messageRow writable.name (writable.entries entry found)
  have sentinel : Scans (s!"\t{literal context.sentinel}").toList [context.sentinel] := by
    have tab : Scans ['\t'] [] := scans_code (by simp)
    simpa [toString] using tab.append (scans_literal harmless.sentinel)
  have counted : Quiet (group.name ++ "_msg_size").toList := by simpa using name
  have back : Scans (closeLines ["\x7d;", "",
      countRow context (group.name ++ "_msg_size") group.entries.length]).toList [] :=
    scans_code (by simpa using quiet_countRow harmless.countType counted _)
  rw [messageRows_eq]
  exact front.line (rows.lines (sentinel.line back))

theorem scans_infoRows
    : Scans (closeLines (infoRows context group)).toList (group.entries.map (·.message)) := by
  have owner : Quiet (infoOwner group).toList := by
    have qualifying := isQualifierChar_infoOwner writable.name writable.qualifier
    constructor <;>
    · intro inside
      have impossible := qualifying _ inside
      contradiction
  have front : Scans (s!"{context.infoType} {infoOwner group}error_info[] = \x7b").toList [] :=
    scans_code (by simp [toString, harmless.infoType, owner])
  have rows : Scans (closeLines (group.entries.map (infoRow group.name))).toList
      (group.entries.map (·.message)) :=
    scans_closeLines fun entry found => scans_infoRow writable.name (writable.entries entry found)
  have counted : Quiet (column (upperName group.name ++ "_ERRCNT")).toList :=
    quiet_column (solid_suffixed (solid_upperName writable.name) (by decide))
  have back : Scans (closeLines ["\x7d;", "", countRow context
      (column (upperName group.name ++ "_ERRCNT")) (group.entries.length + 1)]).toList [] :=
    scans_code (by simpa using quiet_countRow harmless.countType counted _)
  have whole := front.line (rows.lines back)
  rw [List.append_nil] at whole
  rw [infoRows_eq]
  exact whole

end Declarations

/-- No message and no label breaks out of the headers of a group that was read from a text: the
scanner ends in code, and the literals that it meets are the messages of the entries in their order,
with the sentinel behind them where the array of messages ends.
-/
theorem literals_stay_closed {source : Option String} {text : String} {groups : List Group}
    {group : Group} {context : Context} (read : parseText source text = .ok groups)
    (member : group ∈ groups) (harmless : context.Harmless) (fileName : String)
    : scan .code (Artifact.messages.render fileName context group).toList
        = some (.code, group.entries.map (·.message) ++ [context.sentinel])
      ∧ scan .code (Artifact.info.render fileName context group).toList
        = some (.code, group.entries.map (·.message)) := by
  have writable := (representable_of_parseText read).each group member
  have banner := scans_banner harmless writable.name fileName
  have ending : Scans footer.toList [] := scans_code (by decide)
  have messages := (banner.append (scans_messageRows harmless writable)).append ending
  have infos := (banner.append (scans_infoRows harmless writable)).append ending
  constructor
  · have scanned := messages.whole
    simpa [Artifact.render, Artifact.rows] using scanned
  · have scanned := infos.whole
    simpa [Artifact.render, Artifact.rows] using scanned

/-- A group whose label closes comments and whose messages open them, close literals and end in a
backslash.
-/
def hostileGroup : Group := {
  name := "g", base := 1, label := "a **/ \"b\" */", line := 1
  entries := [⟨"A", "*/ \" /* //", 2⟩, ⟨"B", "end\\", 3⟩] }

def hostileText : String :=
  "g = 1 \"a **/ \"b\" */\" \x7b\nA */ \" /* //\nB end\\\n\x7d"

/-- A context that shows the label and puts quotes and the start of a comment into the banner. -/
def quotingContext : Context := {
  source := "dir/\"g\".dat", timestamp := "/* today", sentinel := "\\"
  bannerLines := ["*", "/ \""], showsLabel := true }

/-- The scanner meets the messages of this group and the sentinel of this context. -/
theorem literals_stay_closed_hostile
    : parseText none hostileText = .ok [hostileGroup]
      ∧ scan .code (Artifact.messages.render "a/*b.h" quotingContext hostileGroup).toList
          = some (.code, ["*/ \" /* //", "end\\", "\\"])
      ∧ scan .code (Artifact.info.render "a/*b.h" quotingContext hostileGroup).toList
          = some (.code, ["*/ \" /* //", "end\\"]) := by
  have read : parseText none hostileText = .ok [hostileGroup] := rfl
  have harmless : quotingContext.Harmless :=
    ⟨by decide, by decide, by decide, by decide, by decide, by decide, by decide⟩
  have scanned := literals_stay_closed read (show hostileGroup ∈ _ by simp) harmless "a/*b.h"
  exact ⟨read, scanned⟩

end ErrorTables.Header
