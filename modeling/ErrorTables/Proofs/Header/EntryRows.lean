import ErrorTables.Header.Artifact
import ErrorTables.Proofs.Definition.LineGrammar
import ErrorTables.Proofs.Digits
import ErrorTables.Proofs.Text.SolidText

/-! The rows of headers, entry by entry.
Each header is its first row, one row for each entry or code, and its last rows; the symbols in
these rows are solid, so that they end where the row goes on.
-/

namespace ErrorTables.Header

open Text Definition

-----------------------------------------------------------------------------------------
-- Symbols
-----------------------------------------------------------------------------------------

theorem solid_name {name : String} (named : isName name.toList = true) : Solid name.toList :=
  solid_of_isWord fun _ member => isWord_of_isName named member

theorem solid_upperName {name : String} (named : isName name.toList = true)
    : Solid (upperName name).toList := by
  simpa [upperName] using solid_upper fun _ member => isWord_of_isName named member

theorem solid_joined {first second : String} (before : Solid first.toList)
    (behind : Solid second.toList)
    : Solid (s!"{first}_{second}").toList := by
  have mark : isSolid '_' = true := by decide
  simp [toString, before, behind, mark]

theorem solid_suffixed {name suffix : String} (solid : Solid name.toList)
    (words : Solid suffix.toList)
    : Solid (name ++ suffix).toList := by
  simp [solid, words]

theorem solid_enumSymbol {group tag : String} (named : isName group.toList = true)
    (tagged : isName tag.toList = true)
    : Solid (enumSymbol group tag).toList :=
  solid_joined (solid_upperName named) (solid_name tagged)

theorem solid_macroSymbol {group tag : String} (named : isName group.toList = true)
    (tagged : isName tag.toList = true)
    : Solid (macroSymbol group tag).toList :=
  solid_joined (solid_name named) (solid_name tagged)

/-- A column with a solid symbol holds only solid characters and blanks. -/
theorem not_mem_column {symbol : String} (solid : Solid symbol.toList) {c : Char}
    (apart : isSolid c = false) (blank : c ≠ ' ')
    : c ∉ (column symbol).toList := by
  simp [column, solid.not_mem apart, blank]

-----------------------------------------------------------------------------------------
-- Rows
-----------------------------------------------------------------------------------------

/-- The row of an entry in the array of messages. -/
def messageRow (group : String) (entry : Entry) : String :=
  s!"/* {column (enumSymbol group entry.tag)} */ {literal entry.message},"

def infoRow (group : String) (entry : Entry) : String :=
  s!"    \x7b {column (enumSymbol group entry.tag)},  {literal entry.message} \x7d,"

def spellingRow (group : String) (entry : Entry) : String :=
  s!"    \x7b {enumSymbol group entry.tag}, \"{enumSymbol group entry.tag}\" \x7d,"

/-- The row of a constant that counts. -/
def countRow (context : Context) (name : String) (count : Nat) : String :=
  s!"const {context.countType} {name} = {count};"

theorem not_mem_countRow {context : Context} {name : String} {c : Char} (count : Nat)
    (typed : c ∉ context.countType.toList) (named : c ∉ name.toList) (apart : isWord c = false)
    (plain : c ∉ [' ', '=', ';'])
    : c ∉ (countRow context name count).toList := by
  have digits := Numeral.not_mem_decimal count apart
  have letters : c ∉ "const".toList := by
    have words : "const".toList.all isWord = true := by decide
    intro member
    simp [List.all_eq_true.mp words c member] at apart
  simp_all [countRow, toString]

/-- The row of a code as an enumerator, without the comma behind it. -/
def enumeratorRow (coded : String × Int) : String :=
  s!"    {column coded.1} = {Numeral.hex coded.2}"

def macroRow (coded : String × Int) : String :=
  s!"#define {column coded.1} {Numeral.hex coded.2}"

/-- The codes of the entries under the given symbols, and the lowest code under its own. -/
def lowerCodes (symbolOf : String → String) (lowest : String) (group : Group)
    : List (String × Int) :=
  group.entries.mapIdx (fun position entry => (symbolOf entry.tag, group.base + position))
    ++ [(lowest, group.base)]

/-- The highest code under its symbol. -/
def highestCode (highest : String) (group : Group) : String × Int :=
  (highest, group.base + group.entries.length - 1)

/-- Rows of coded entries that do not show the codes are rows of the entries. -/
theorem map_coded {α : Type} (group : Group) (row : String → String → α)
    : group.coded.map (fun entry => row entry.tag entry.message)
      = group.entries.map fun entry => row entry.tag entry.message := by
  apply List.ext_getElem <;> simp [Group.coded]

/-- Rows of coded entries that show the codes are rows of their codes. -/
theorem map_codes (group : Group) (symbolOf : String → String) (row : String × Int → String)
    : group.coded.map (fun entry => row (symbolOf entry.tag, entry.code))
      = (group.entries.mapIdx fun position entry =>
          (symbolOf entry.tag, group.base + position)).map row := by
  apply List.ext_getElem <;> simp [Group.coded]

/-- The messages stand between the first row, and the sentinel with what closes the array. -/
theorem messageRows_eq (context : Context) (group : Group)
    : messageRows context group
      = s!"static const char* {group.name}_errmsg[] = \x7b"
        :: (group.entries.map (messageRow group.name)
          ++ [s!"\t{literal context.sentinel}", "\x7d;", "",
            countRow context (group.name ++ "_msg_size") group.entries.length]) := by
  have rows := map_coded group fun tag message => messageRow group.name ⟨tag, message, 0⟩
  simp only [messageRow] at rows
  have counted : countRow context (group.name ++ "_msg_size") group.entries.length
      = s!"const {context.countType} {group.name}_msg_size = {group.entries.length};" := by
    simp [countRow, toString, String.append_assoc]
  simp only [messageRows, rows, counted]
  rfl

/-- What stands in front of the name of the array of symbols and messages. -/
def infoOwner (group : Group) : String :=
  match group.qualifier with
  | some qualifier => if qualifier.isEmpty then s!"{group.name}_" else s!"{qualifier}::"
  | none => s!"{group.name}_"

theorem isQualifierChar_infoOwner {group : Group} (named : isName group.name.toList = true)
    (qualifies : ∀ qualifier, group.qualifier = some qualifier
      → isQualifier qualifier.toList = true)
    : ∀ c ∈ (infoOwner group).toList, isQualifierChar c = true := by
  have owned : ∀ c ∈ (s!"{group.name}_").toList, isQualifierChar c = true := by
    have name : ∀ c ∈ group.name.toList, isQualifierChar c = true := by
      intro c member
      simp [isQualifierChar, isWord_of_isName named member]
    have mark : isQualifierChar '_' = true := by decide
    simpa [toString, or_imp, forall_and, mark] using name
  unfold infoOwner
  split
  · rename_i qualifier eq
    split
    · exact owned
    · have mark : isQualifierChar ':' = true := by decide
      have written := (isQualifier_iff.mp (qualifies qualifier eq)).2
      simpa [toString, or_imp, forall_and, mark] using written
  · exact owned

theorem infoRows_eq (context : Context) (group : Group)
    : infoRows context group
      = s!"{context.infoType} {infoOwner group}error_info[] = \x7b"
        :: (group.entries.map (infoRow group.name)
          ++ ["\x7d;", "",
            countRow context (column (upperName group.name ++ "_ERRCNT"))
              (group.entries.length + 1)]) := by
  have rows := map_coded group fun tag message => infoRow group.name ⟨tag, message, 0⟩
  simp only [infoRow] at rows
  simp only [infoRows, rows, infoOwner]
  rfl

theorem symbolRows_eq (context : Context) (group : Group)
    : symbolRows context group
      = s!"{context.infoType} {group.name}_error_info_bakw[] = \x7b"
        :: (group.entries.map (spellingRow group.name) ++ ["\x7d;"]) := by
  have rows := map_coded group fun tag message => spellingRow group.name ⟨tag, message, 0⟩
  simp only [spellingRow] at rows
  simp [symbolRows, rows, spellingRow]

/-- The codes stand between the first row and the last one, with a comma behind each but the last.
-/
theorem enumerationRows_eq (group : Group)
    : enumerationRows group
      = "enum \x7b"
        :: ((lowerCodes (enumSymbol group.name) (upperName group.name ++ "_ERRMIN") group).map
              (fun coded => enumeratorRow coded ++ ",")
          ++ [enumeratorRow (highestCode (upperName group.name ++ "_ERRMAX") group), "\x7d;"]) := by
  have rows := map_codes group (enumSymbol group.name) fun coded => enumeratorRow coded ++ ","
  have joined (coded : String × Int) : enumeratorRow coded ++ ","
      = s!"    {column coded.1} = {Numeral.hex coded.2}," := by
    simp [enumeratorRow, toString, String.append_assoc]
  simp only [joined] at rows
  simp only [enumerationRows, rows, lowerCodes, joined, List.map_append, List.append_assoc]
  rfl

theorem macroRows_eq (group : Group)
    : macroRows group
      = (lowerCodes (macroSymbol group.name) (group.name ++ "_ERRMIN") group
          ++ [highestCode (group.name ++ "_ERRMAX") group]).map macroRow := by
  have rows := map_codes group (macroSymbol group.name) macroRow
  simp only [macroRow] at rows
  simp [macroRows, lowerCodes, ← rows, macroRow, highestCode, Group.firstCode, Group.lastCode,
    Group.count]

end ErrorTables.Header
