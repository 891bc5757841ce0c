import ErrorTables.Proofs.Definition.RoundTrip
import ErrorTables.Proofs.Header.EntryRows
import ErrorTables.Proofs.Header.HeaderReading

/-! The five headers of a group agree with one another.
Read back row by row, they give one table: the symbols in the order of the entries, the codes that
count up from the base, and the messages at the distance of their codes from the lowest one.
-/

namespace ErrorTables.Header

open Text Definition

-----------------------------------------------------------------------------------------
-- The table of a group
-----------------------------------------------------------------------------------------

/-- What the context puts into rows of declarations stands on one row each. -/
structure Context.Unbroken (context : Context) : Prop where
  infoType : '\n' ∉ context.infoType.toList
  countType : '\n' ∉ context.countType.toList
  sentinel : '\n' ∉ context.sentinel.toList

/-- The codes of the entries under the given symbols, the lowest and the highest code. -/
def codeTable (symbolOf : String → String) (lowest highest : String) (group : Group)
    : List (String × Int) :=
  group.entries.mapIdx (fun position entry => (symbolOf entry.tag, group.base + position))
    ++ [(lowest, group.base), (highest, group.base + group.entries.length - 1)]

/-- What the headers of a group should declare. -/
def declared (context : Context) (group : Group) : Declared :=
  let messages := group.entries.map fun entry => (enumSymbol group.name entry.tag, entry.message)
  { enumerators := codeTable (enumSymbol group.name)
      (upperName group.name ++ "_ERRMIN") (upperName group.name ++ "_ERRMAX") group
    macros := codeTable (macroSymbol group.name)
      (group.name ++ "_ERRMIN") (group.name ++ "_ERRMAX") group
    messages
    sentinel := context.sentinel
    messageCount := (group.name ++ "_msg_size", group.entries.length)
    infos := messages
    codeCount := (upperName group.name ++ "_ERRCNT", group.entries.length + 1)
    spellings := group.entries.map fun entry =>
      (enumSymbol group.name entry.tag, enumSymbol group.name entry.tag) }

/-- The declarations of a number of entries from a lowest code on describe the same table: equal
codes under both kinds of symbols, the same symbols in the same order in all arrays, and each
message at the distance of its code from the lowest one.
-/
structure Declared.Agree (declared : Declared) (count : Nat) (lowest : Int) : Prop where
  codes : declared.macros.map (·.2) = declared.enumerators.map (·.2)
  messages : declared.messages.map (·.1) = (declared.enumerators.take count).map (·.1)
  infos : declared.infos = declared.messages
  spellings : declared.spellings
    = (declared.enumerators.take count).map fun enumerator => (enumerator.1, enumerator.1)
  messageCount : declared.messageCount.2 = count
  codeCount : declared.codeCount.2 = count + 1
  offsets : ∀ position symbol code, position < count
    → declared.enumerators[position]? = some (symbol, code)
    → code - lowest = position
      ∧ (declared.messages[(code - lowest).toNat]?).map (·.1) = some symbol

-----------------------------------------------------------------------------------------
-- Rows without line feeds
-----------------------------------------------------------------------------------------

theorem noFeed_column {symbol : String} (solid : Solid symbol.toList)
    : '\n' ∉ (column symbol).toList :=
  not_mem_column solid (by decide) (by decide)

theorem noFeed_literal {text : String} (whole : '\n' ∉ text.toList)
    : '\n' ∉ (literal text).toList := by
  have body : '\n' ∉ text.toList.flatMap escapeChar := by
    intro member
    obtain ⟨c, inside, escaped⟩ := List.mem_flatMap.mp member
    rcases escapeChar_cases c with ⟨special, eq⟩ | ⟨-, -, eq⟩
    · have same : '\n' = c := by simpa [eq] using escaped
      simp [← same] at special
    · have same : '\n' = c := by simpa [eq] using escaped
      exact whole (same ▸ inside)
  simp [toList_literal, body]

theorem noFeed_code {coded : String × Int} (solid : Solid coded.1.toList)
    : '\n' ∉ (enumeratorRow coded).toList ∧ '\n' ∉ (macroRow coded).toList := by
  have code := not_mem_hex coded.2 (show isWord '\n' = false by decide) (by decide)
  simp [enumeratorRow, macroRow, toString, noFeed_column solid, code]

theorem codeTable_eq (symbolOf : String → String) (lowest highest : String) (group : Group)
    : codeTable symbolOf lowest highest group
      = lowerCodes symbolOf lowest group ++ [highestCode highest group] := by
  simp [codeTable, lowerCodes, highestCode]

theorem solid_codeTable {symbolOf : String → String} {lowest highest : String} {group : Group}
    (tags : ∀ entry ∈ group.entries, Solid (symbolOf entry.tag).toList)
    (below : Solid lowest.toList) (above : Solid highest.toList)
    : ∀ coded ∈ codeTable symbolOf lowest highest group, Solid coded.1.toList := by
  simp only [codeTable, List.forall_mem_append, List.forall_mem_cons]
  refine ⟨?_, below, above, by simp⟩
  intro coded member
  obtain ⟨position, small, same⟩ := List.mem_mapIdx.mp member
  exact same ▸ tags _ (List.getElem_mem small)

section Rows

variable {context : Context} {group : Group} (writable : Group.Writable group)
include writable

theorem solid_symbol {entry : Entry} (found : entry ∈ group.entries)
    : Solid (enumSymbol group.name entry.tag).toList :=
  solid_enumSymbol writable.name (writable.entries entry found).tag

theorem solid_enumerators
    : ∀ coded ∈ lowerCodes (enumSymbol group.name) (upperName group.name ++ "_ERRMIN") group
          ++ [highestCode (upperName group.name ++ "_ERRMAX") group],
        Solid coded.1.toList := by
  rw [← codeTable_eq]
  have name := solid_upperName writable.name
  exact solid_codeTable (fun _ found => solid_symbol writable found)
    (solid_suffixed name (by decide)) (solid_suffixed name (by decide))

theorem solid_macros
    : ∀ coded ∈ lowerCodes (macroSymbol group.name) (group.name ++ "_ERRMIN") group
          ++ [highestCode (group.name ++ "_ERRMAX") group],
        Solid coded.1.toList := by
  rw [← codeTable_eq]
  have name := solid_name writable.name
  exact solid_codeTable
    (fun _ found => solid_macroSymbol writable.name (writable.entries _ found).tag)
    (solid_suffixed name (by decide)) (solid_suffixed name (by decide))

/-- All rows of a header are rows: none of them holds a line feed. -/
theorem noFeed_rows (unbroken : context.Unbroken) (artifact : Artifact)
    : ∀ row ∈ artifact.rows context group, '\n' ∉ row.toList := by
  have name : '\n' ∉ group.name.toList := (solid_name writable.name).not_mem (by decide)
  have message {entry : Entry} (found : entry ∈ group.entries) :=
    noFeed_literal (writable.entries entry found).message.noFeed
  cases artifact with
  | messages =>
      simp only [Artifact.rows, messageRows_eq, List.forall_mem_cons, List.forall_mem_append,
        List.forall_mem_map]
      refine ⟨by simp [toString, name], ?_, ?_, by simp, by simp, ?_, by simp⟩
      · intro entry found
        simp [messageRow, toString, noFeed_column (solid_symbol writable found), message found]
      · simp [toString, noFeed_literal unbroken.sentinel]
      · exact not_mem_countRow _ unbroken.countType (by simp [name]) (by decide) (by decide)
  | info =>
      have owner : '\n' ∉ (infoOwner group).toList := by
        intro inside
        have impossible := isQualifierChar_infoOwner writable.name writable.qualifier _ inside
        contradiction
      have counted := noFeed_column
        (solid_suffixed (solid_upperName writable.name) (show Solid "_ERRCNT".toList by decide))
      simp only [Artifact.rows, infoRows_eq, List.forall_mem_cons, List.forall_mem_append,
        List.forall_mem_map]
      refine ⟨by simp [toString, unbroken.infoType, owner], ?_, by simp, by simp, ?_, by simp⟩
      · intro entry found
        simp [infoRow, toString, noFeed_column (solid_symbol writable found), message found]
      · exact not_mem_countRow _ unbroken.countType counted (by decide) (by decide)
  | symbols =>
      simp only [Artifact.rows, symbolRows_eq, List.forall_mem_cons, List.forall_mem_append,
        List.forall_mem_map]
      refine ⟨by simp [toString, unbroken.infoType, name], ?_, by simp, by simp⟩
      intro entry found
      have whole := (solid_symbol writable found).not_mem (show isSolid '\n' = false by decide)
      simp [spellingRow, toString, whole]
  | enumeration =>
      obtain ⟨lower, upper⟩ := List.forall_mem_append.mp (solid_enumerators writable)
      simp only [Artifact.rows, enumerationRows_eq, List.forall_mem_cons,
        List.forall_mem_append, List.forall_mem_map]
      refine ⟨by simp, ?_, (noFeed_code (upper _ (by simp))).1, by simp, by simp⟩
      intro coded found
      simp [(noFeed_code (lower coded found)).1]
  | macros =>
      simp only [Artifact.rows, macroRows_eq, List.forall_mem_map]
      exact fun coded found => (noFeed_code (solid_macros writable coded found)).2

end Rows

-----------------------------------------------------------------------------------------
-- Rows read back
-----------------------------------------------------------------------------------------

theorem readMessage?_row {group : String} {entry : Entry}
    (solid : Solid (enumSymbol group entry.tag).toList)
    : readMessage? (messageRow group entry).toList
      = some (enumSymbol group entry.tag, entry.message) := by
  have filled : AllBlank (padding (enumSymbol group entry.tag) ++ [' ']) :=
    allBlank_append.mpr ⟨allBlank_padding _, by decide⟩
  apply readLabelled?_row solid filled (by decide) (by decide)
  simp [messageRow, toString, toList_column]

theorem readInfo?_row {group : String} {entry : Entry}
    (solid : Solid (enumSymbol group entry.tag).toList)
    : readInfo? (infoRow group entry).toList
      = some (enumSymbol group entry.tag, entry.message) := by
  apply readLabelled?_row solid (allBlank_padding (enumSymbol group entry.tag)) (by decide)
    (by decide)
  simp [infoRow, toString, toList_column]

theorem readSpelling?_row {group : String} {entry : Entry}
    (solid : Solid (enumSymbol group entry.tag).toList)
    : readSpelling? (spellingRow group entry).toList
      = some (enumSymbol group entry.tag, enumSymbol group entry.tag) := by
  have plain : (enumSymbol group entry.tag).toList.flatMap escapeChar
      = (enumSymbol group entry.tag).toList :=
    flatMap_escapeChar_eq (solid.not_mem (by decide)) (solid.not_mem (by decide))
  apply readLabelled?_row solid allBlank_nil (by decide) (by decide)
  simp [spellingRow, toString, toList_literal, plain]

theorem readSentinel?_row (text : String)
    : readSentinel? (s!"\t{literal text}").toList = some text := by
  have row : (s!"\t{literal text}").toList = ['\t'] ++ ((literal text).toList ++ []) := by
    simp [toString]
  rw [row, readSentinel?]
  simp only [dropPrefix?_append, readLiteral?_literal, Option.bind_eq_bind, Option.bind_some,
    guard_true, pure]

theorem readEnumeration?_codes {codes : List (String × Int)} {last : String × Int}
    (solid : ∀ coded ∈ codes, Solid coded.1.toList) (ends : Solid last.1.toList)
    : readEnumeration?
        (("enum \x7b" :: (codes.map (fun coded => enumeratorRow coded ++ ",")
            ++ [enumeratorRow last, "\x7d;"])).map String.toList)
      = some (codes ++ [last]) := by
  have rows : ("enum \x7b" :: (codes.map (fun coded => enumeratorRow coded ++ ",")
        ++ [enumeratorRow last, "\x7d;"])).map String.toList
      = ([] ++ "enum \x7b".toList)
        :: ((codes.map (fun coded => (enumeratorRow coded).toList ++ [','])
            ++ [(enumeratorRow last).toList]) ++ closingRow :: []) := by
    simp [closingRow]
  have inside : ∀ row ∈ codes.map (fun coded => (enumeratorRow coded).toList ++ [','])
      ++ [(enumeratorRow last).toList], row ≠ closingRow := by
    simp only [List.forall_mem_append, List.forall_mem_map]
    constructor
    · intro coded _
      simp [enumeratorRow, toString, closingRow]
    · simp [enumeratorRow, toString, closingRow]
  have each (coded : String × Int) (found : coded ∈ codes)
      : readEnumerator? (enumeratorRow coded).toList = some (id coded) :=
    readEnumerator?_row (solid coded found) coded.2
  have final : readEnumerator? (enumeratorRow last).toList = some last :=
    readEnumerator?_row ends last.2
  rw [rows, readEnumeration?, splitBlock?_eq inside]
  simp only [Option.bind_eq_bind, Option.bind_some, guard_true, pure,
    readEnumerators?_rows each final, List.map_id]

theorem readMacros?_codes {codes : List (String × Int)}
    (solid : ∀ coded ∈ codes, Solid coded.1.toList)
    : readMacros? ((codes.map macroRow).map String.toList) = some codes := by
  have each (coded : String × Int) (found : coded ∈ codes)
      : readMacro? (macroRow coded).toList = some (id coded) :=
    readMacro?_row (solid coded found) coded.2
  have read := mapM_rows each
  rw [List.map_id] at read
  rw [readMacros?, List.map_map]
  exact read

section Headers

variable {context : Context} {group : Group} (writable : Group.Writable group)
include writable

/-- The messages are read in the order of the entries, the sentinel and the count behind them. -/
theorem readMessages?_rows
    : readMessages? ((messageRows context group).map String.toList)
      = some (group.entries.map fun entry => (enumSymbol group.name entry.tag, entry.message),
          context.sentinel, group.name ++ "_msg_size", group.entries.length) := by
  have rows : (messageRows context group).map String.toList
      = (("static const char* ".toList ++ group.name.toList) ++ "_errmsg[] = \x7b".toList)
        :: ((group.entries.map (fun entry => (messageRow group.name entry).toList)
              ++ [(s!"\t{literal context.sentinel}").toList])
          ++ closingRow :: [[],
            (countRow context (group.name ++ "_msg_size") group.entries.length).toList]) := by
    simp [messageRows_eq, toString, closingRow]
  have inside : ∀ row ∈ group.entries.map (fun entry => (messageRow group.name entry).toList)
      ++ [(s!"\t{literal context.sentinel}").toList], row ≠ closingRow := by
    simp only [List.forall_mem_append, List.forall_mem_map]
    constructor
    · intro entry _
      simp [messageRow, toString, closingRow]
    · simp [toString, closingRow]
  have count : readConstant?
      (countRow context (group.name ++ "_msg_size") group.entries.length).toList
      = some (group.name ++ "_msg_size", group.entries.length) := by
    apply readConstant?_row (solid_suffixed (solid_name writable.name) (by decide)) (by simp)
      allBlank_nil
    simp
  rw [rows, readMessages?, splitBlock?_eq inside]
  simp only [Option.bind_eq_bind, Option.bind_some, List.dropLast_concat,
    mapM_rows fun entry found => readMessage?_row (solid_symbol writable found),
    List.getLast?_concat, readSentinel?_row, readCount?, count, pure]

theorem readInfos?_rows
    : readInfos? ((infoRows context group).map String.toList)
      = some (group.entries.map fun entry => (enumSymbol group.name entry.tag, entry.message),
          upperName group.name ++ "_ERRCNT", group.entries.length + 1) := by
  have rows : (infoRows context group).map String.toList
      = ((context.infoType.toList ++ " ".toList ++ (infoOwner group).toList)
            ++ "error_info[] = \x7b".toList)
        :: (group.entries.map (fun entry => (infoRow group.name entry).toList)
          ++ closingRow :: [[],
            (countRow context (column (upperName group.name ++ "_ERRCNT"))
              (group.entries.length + 1)).toList]) := by
    simp [infoRows_eq, toString, closingRow]
  have inside : ∀ row ∈ group.entries.map (fun entry => (infoRow group.name entry).toList),
      row ≠ closingRow := by
    rw [List.forall_mem_map]
    intro entry _
    simp [infoRow, toString, closingRow]
  have count : readConstant? (countRow context (column (upperName group.name ++ "_ERRCNT"))
      (group.entries.length + 1)).toList
      = some (upperName group.name ++ "_ERRCNT", group.entries.length + 1) :=
    readConstant?_row (solid_suffixed (solid_upperName writable.name) (by decide)) (by simp)
      (allBlank_padding _) (toList_column _) context.countType _
  rw [rows, readInfos?, splitBlock?_eq inside]
  simp only [Option.bind_eq_bind, Option.bind_some, readCount?, count, pure,
    mapM_rows fun entry found => readInfo?_row (solid_symbol writable found)]

theorem readSpellings?_rows
    : readSpellings? ((symbolRows context group).map String.toList)
      = some (group.entries.map fun entry =>
          (enumSymbol group.name entry.tag, enumSymbol group.name entry.tag)) := by
  have rows : (symbolRows context group).map String.toList
      = ((context.infoType.toList ++ " ".toList ++ group.name.toList)
            ++ "_error_info_bakw[] = \x7b".toList)
        :: (group.entries.map (fun entry => (spellingRow group.name entry).toList)
          ++ closingRow :: []) := by
    simp [symbolRows_eq, toString, closingRow]
  have inside : ∀ row ∈ group.entries.map (fun entry => (spellingRow group.name entry).toList),
      row ≠ closingRow := by
    rw [List.forall_mem_map]
    intro entry _
    simp [spellingRow, toString, closingRow]
  rw [rows, readSpellings?, splitBlock?_eq inside]
  simp only [Option.bind_eq_bind, Option.bind_some, guard_true, pure,
    mapM_rows fun entry found => readSpelling?_row (solid_symbol writable found)]

theorem readEnumeration?_rows
    : readEnumeration? ((enumerationRows group).map String.toList)
      = some (codeTable (enumSymbol group.name) (upperName group.name ++ "_ERRMIN")
          (upperName group.name ++ "_ERRMAX") group) := by
  obtain ⟨lower, upper⟩ := List.forall_mem_append.mp (solid_enumerators writable)
  rw [enumerationRows_eq, codeTable_eq]
  exact readEnumeration?_codes lower (upper _ (by simp))

theorem readMacros?_rows
    : readMacros? ((macroRows group).map String.toList)
      = some (codeTable (macroSymbol group.name) (group.name ++ "_ERRMIN")
          (group.name ++ "_ERRMAX") group) := by
  rw [macroRows_eq, codeTable_eq]
  exact readMacros?_codes (solid_macros writable)

/-- Read back, the headers declare the table of the group. -/
theorem readHeaders?_render (unbroken : context.Unbroken) (fileName : Artifact → String)
    : readHeaders? (fun artifact => declarations? artifact (fileName artifact) context group)
      = some (declared context group) := by
  have rows (artifact : Artifact) := declarations?_eq (noFeed_rows writable unbroken artifact)
    (fileName artifact)
  simp only [readHeaders?, rows, Artifact.rows, Option.bind_eq_bind, Option.bind_some,
    readEnumeration?_rows writable, readMacros?_rows writable, readMessages?_rows writable,
    readInfos?_rows writable, readSpellings?_rows writable, pure, declared]

end Headers

-----------------------------------------------------------------------------------------
-- Agreement
-----------------------------------------------------------------------------------------

/-- The codes of a table count up from the base, whatever the symbols are. -/
theorem codes_codeTable (symbolOf : String → String) (lowest highest : String) (group : Group)
    : (codeTable symbolOf lowest highest group).map (·.2)
      = group.entries.mapIdx (fun position _ => group.base + position)
        ++ [group.base, group.base + group.entries.length - 1] := by
  have counted : (group.entries.mapIdx fun position entry =>
        (symbolOf entry.tag, group.base + position)).map (·.2)
      = group.entries.mapIdx fun position _ => group.base + (position : Int) := by
    apply List.ext_getElem <;> simp
  simp [codeTable, counted]

/-- The first symbols of a table of codes are those of the entries, in their order. -/
theorem symbols_codeTable (symbolOf : String → String) (lowest highest : String) (group : Group)
    : ((codeTable symbolOf lowest highest group).take group.entries.length).map (·.1)
      = group.entries.map fun entry => symbolOf entry.tag := by
  rw [codeTable, List.take_left' (by simp)]
  apply List.ext_getElem <;> simp

/-- A code at a position of an entry belongs to that entry. -/
theorem codeTable_getElem? {symbolOf : String → String} {lowest highest symbol : String}
    {group : Group} {position : Nat} {code : Int} (inside : position < group.entries.length)
    (found : (codeTable symbolOf lowest highest group)[position]? = some (symbol, code))
    : symbol = symbolOf group.entries[position].tag ∧ code = group.base + position := by
  rw [codeTable, List.getElem?_append_left (by simpa using inside)] at found
  simp only [List.getElem?_mapIdx, List.getElem?_eq_getElem inside, Option.map_some,
    Option.some.injEq, Prod.mk.injEq] at found
  exact ⟨found.1.symm, found.2.symm⟩

theorem agree_declared (context : Context) (group : Group)
    : (declared context group).Agree group.entries.length group.base := {
  codes := (codes_codeTable _ _ _ group).trans (codes_codeTable _ _ _ group).symm
  messages := by
    have symbols := symbols_codeTable (enumSymbol group.name) (upperName group.name ++ "_ERRMIN")
      (upperName group.name ++ "_ERRMAX") group
    simpa [declared, Function.comp_def] using symbols.symm
  infos := rfl
  spellings := by
    have symbols := symbols_codeTable (enumSymbol group.name) (upperName group.name ++ "_ERRMIN")
      (upperName group.name ++ "_ERRMAX") group
    have spelled := congrArg (List.map fun symbol => (symbol, symbol)) symbols
    simpa [declared, Function.comp_def] using spelled.symm
  messageCount := rfl
  codeCount := rfl
  offsets := by
    intro position symbol code inside found
    obtain ⟨named, counted⟩ := codeTable_getElem? inside found
    have offset : code - group.base = position := by omega
    refine ⟨offset, ?_⟩
    simp [declared, offset, named, List.getElem?_eq_getElem inside]
}

/-- The headers of a group that was read from a text declare one table, whatever their files are
called: read back row by row, the enumerators and the macros are the codes of the entries that count
up from the base, followed by the lowest and the highest code, and all arrays hold one row for each
entry in the same order.
-/
theorem headers_agree {source : Option String} {text : String} {groups : List Group}
    {group : Group} {context : Context} (read : parseText source text = .ok groups)
    (member : group ∈ groups) (unbroken : context.Unbroken) (fileName : Artifact → String)
    : readHeaders? (fun artifact => declarations? artifact (fileName artifact) context group)
        = some (declared context group)
      ∧ (declared context group).Agree group.entries.length group.base := by
  have writable := (representable_of_parseText read).each group member
  exact ⟨readHeaders?_render writable unbroken fileName, agree_declared context group⟩

/-- A text with a group of two entries and an empty group whose codes would start at zero. -/
def countedText : String :=
  "g = 0xff \"\" \x7b\nA say \"hi\"\nB\n\x7d\nh = 0 \"\" \x7b\n\x7d"

def filledGroup : Group := {
  name := "g", base := 255, line := 1
  entries := [⟨"A", "say \"hi\"", 2⟩, ⟨"B", "", 3⟩] }

def emptyGroup : Group := { name := "h", base := 0, line := 5 }

def plainContext : Context := { source := "g.dat", timestamp := "today" }

/-- Both groups agree in their headers; the highest code of the empty one is negative. -/
theorem headers_agree_filled_and_empty
    : parseText none countedText = .ok [filledGroup, emptyGroup]
      ∧ readHeaders? (fun artifact =>
            declarations? artifact (artifact.fileName "g" "h") plainContext filledGroup)
          = some {
              enumerators := [("G_A", 255), ("G_B", 256), ("G_ERRMIN", 255), ("G_ERRMAX", 256)]
              macros := [("g_A", 255), ("g_B", 256), ("g_ERRMIN", 255), ("g_ERRMAX", 256)]
              messages := [("G_A", "say \"hi\""), ("G_B", "")]
              sentinel := "dummy error code"
              messageCount := ("g_msg_size", 2)
              infos := [("G_A", "say \"hi\""), ("G_B", "")]
              codeCount := ("G_ERRCNT", 3)
              spellings := [("G_A", "G_A"), ("G_B", "G_B")] }
      ∧ readHeaders? (fun artifact =>
            declarations? artifact (artifact.fileName "h" "h") plainContext emptyGroup)
          = some {
              enumerators := [("H_ERRMIN", 0), ("H_ERRMAX", -1)]
              macros := [("h_ERRMIN", 0), ("h_ERRMAX", -1)]
              messages := []
              sentinel := "dummy error code"
              messageCount := ("h_msg_size", 0)
              infos := []
              codeCount := ("H_ERRCNT", 1)
              spellings := [] } := by
  have read : parseText none countedText = .ok [filledGroup, emptyGroup] := rfl
  have unbroken : plainContext.Unbroken := ⟨by decide, by decide, by decide⟩
  have filled := headers_agree read (show filledGroup ∈ _ by simp) unbroken
    fun artifact => artifact.fileName "g" "h"
  have empty := headers_agree read (show emptyGroup ∈ _ by simp) unbroken
    fun artifact => artifact.fileName "h" "h"
  exact ⟨read, filled.1, empty.1⟩

end ErrorTables.Header
