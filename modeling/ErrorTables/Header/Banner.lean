import ErrorTables.Group
import ErrorTables.Header.Symbol
import ErrorTables.Text.Blank
import ErrorTables.Text.Lines

/-!
What stands around the declarations of a generated header: the inclusion guard, a comment that says
where the header comes from and, if asked for, a comment with the label of the group.
-/

namespace ErrorTables.Header

open Text

/-- What a header says beyond its group: where it comes from, the types that its declarations use,
the message behind the last one, and what its comments hold. -/
structure Context where
  source : String
  program : String := "errgen"
  timestamp : String
  infoType : String := "heron::error::error_info_t"
  countType : String := "sp_uint32"
  sentinel : String := "dummy error code"
  bannerLines : List String := []
  showsLabel : Bool := false
  deriving DecidableEq, Repr

/-- The text with a blank put into each end of a comment, so that it closes none. -/
def openComment : List Char → List Char
  | '*' :: '/' :: rest => '*' :: ' ' :: '/' :: openComment rest
  | c :: rest => c :: openComment rest
  | [] => []

/-- A line of the opening comment. -/
def commentLine (text : String) : String :=
  String.ofList (trimEnd (s!" * {text}").toList)

/-- The lines that the context adds to the opening comment, set off by an empty one. -/
def bannerComment (context : Context) : List String :=
  if context.bannerLines.isEmpty then [] else " *" :: context.bannerLines.map commentLine

/-- The comment with the label of the group, set off by an empty line. -/
def labelComment (context : Context) (group : Group) : List String :=
  if context.showsLabel && !group.label.isEmpty then
    ["", s!"/* {group.name}: {String.ofList (openComment group.label.toList)} */"]
  else []

/-- The lines in front of the declarations. -/
def bannerLines (fileName : String) (context : Context) (group : Group) : List String :=
  [ s!"#ifndef {guardToken fileName}",
    s!"#define {guardToken fileName}",
    "",
    "/*",
    " * DO NOT EDIT ---",
    s!" *     generated by {context.program} from {context.source}",
    s!" *     generated on {context.timestamp}" ] ++
  bannerComment context ++ [" */"] ++ labelComment context group ++ [""]

/-- What stands in front of the declarations. -/
def banner (fileName : String) (context : Context) (group : Group) : String :=
  closeLines (bannerLines fileName context group)

/-- What stands behind the declarations. -/
def footer : String :=
  "\n#endif\n"

end ErrorTables.Header
