import ErrorTables.Header.Banner
import ErrorTables.Header.Literal
import ErrorTables.Numeral

/-!
The five headers that are generated from a group. All are rendered from the same coded entries, so
that the tables of messages, symbols and codes agree row by row.
-/

namespace ErrorTables.Header

/-- A kind of generated header. -/
inductive Artifact where
  | messages
  | info
  | symbols
  | enumeration
  | macros
  deriving DecidableEq, Repr

/-- All kinds of headers, in the order in which they are written. -/
def Artifact.all : List Artifact :=
  [.messages, .info, .symbols, .enumeration, .macros]

/-- The part of a file name that tells the kinds of headers apart. -/
def Artifact.suffix : Artifact → String
  | .messages => "errmsg-gen"
  | .info => "einfo-gen"
  | .symbols => "einfo-bakw-gen"
  | .enumeration => "error-enum-gen"
  | .macros => "error-def-gen"

/-- The name of the file that a header of a group is written to. -/
def Artifact.fileName (artifact : Artifact) (group extension : String) : String :=
  s!"{group}-{artifact.suffix}.{extension}"

/-- The width of the column of symbols. -/
def symbolWidth : Nat := 25

/-- The text filled up with blanks to the width of the column of symbols. -/
def column (text : String) : String :=
  text ++ String.ofList (List.replicate (symbolWidth - text.length) ' ')

/-- The messages of the entries at their offsets, and the sentinel behind the last one. -/
def messageRows (context : Context) (group : Group) : List String :=
  [s!"static const char* {group.name}_errmsg[] = \x7b"] ++
  group.coded.map (fun entry =>
    s!"/* {column (enumSymbol group.name entry.tag)} */ {literal entry.message},") ++
  [ s!"\t{literal context.sentinel}",
    "\x7d;",
    "",
    s!"const {context.countType} {group.name}_msg_size = {group.count};" ]

/-- The symbols of the entries with their messages, and the number of codes counted with the
sentinel. -/
def infoRows (context : Context) (group : Group) : List String :=
  let owner := match group.qualifier with
    | some qualifier => if qualifier.isEmpty then s!"{group.name}_" else s!"{qualifier}::"
    | none => s!"{group.name}_"
  let count := column s!"{upperName group.name}_ERRCNT"
  [s!"{context.infoType} {owner}error_info[] = \x7b"] ++
  group.coded.map (fun entry =>
    s!"    \x7b {column (enumSymbol group.name entry.tag)},  {literal entry.message} \x7d,") ++
  [ "\x7d;",
    "",
    s!"const {context.countType} {count} = {group.count + 1};" ]

/-- The symbols of the entries with their own spelling. -/
def symbolRows (context : Context) (group : Group) : List String :=
  [s!"{context.infoType} {group.name}_error_info_bakw[] = \x7b"] ++
  group.coded.map (fun entry =>
    let symbol := enumSymbol group.name entry.tag
    s!"    \x7b {symbol}, \"{symbol}\" \x7d,") ++
  ["\x7d;"]

/-- The codes as enumerators, with the first and the last code. -/
def enumerationRows (group : Group) : List String :=
  let lowest := column (upperName group.name ++ "_ERRMIN")
  let highest := column (upperName group.name ++ "_ERRMAX")
  ["enum \x7b"] ++
  group.coded.map (fun entry =>
    s!"    {column (enumSymbol group.name entry.tag)} = {Numeral.hex entry.code},") ++
  [ s!"    {lowest} = {Numeral.hex group.firstCode},",
    s!"    {highest} = {Numeral.hex group.lastCode}",
    "\x7d;" ]

/-- The codes as macros, with the first and the last code. -/
def macroRows (group : Group) : List String :=
  let lowest := column (group.name ++ "_ERRMIN")
  let highest := column (group.name ++ "_ERRMAX")
  group.coded.map (fun entry =>
    s!"#define {column (macroSymbol group.name entry.tag)} {Numeral.hex entry.code}") ++
  [ s!"#define {lowest} {Numeral.hex group.firstCode}",
    s!"#define {highest} {Numeral.hex group.lastCode}" ]

/-- The declarations of a header, line by line. -/
def Artifact.rows (artifact : Artifact) (context : Context) (group : Group) : List String :=
  match artifact with
  | .messages => messageRows context group
  | .info => infoRows context group
  | .symbols => symbolRows context group
  | .enumeration => enumerationRows group
  | .macros => macroRows group

/-- The whole text of a header. -/
def Artifact.render (artifact : Artifact) (fileName : String) (context : Context) (group : Group)
    : String :=
  banner fileName context group ++ Text.closeLines (artifact.rows context group) ++ footer

end ErrorTables.Header
