import ErrorTables.Proofs.Header.Agreement

/-! The identifiers that the headers of one group define.
All of them join a prefix and a word: the name of the group, as it is written or in upper case, and
a tag or one of three reserved words. They clash only if a tag is a reserved word or if the name is
in upper case already.
-/

namespace ErrorTables.Header

open Text Definition

-----------------------------------------------------------------------------------------
-- Upper case in front of other text
-----------------------------------------------------------------------------------------

/-- The upper case of a character is the character itself or starts with another one. -/
theorem upperChar_eq_self_or (c : Char)
    : upperChar c = [c] ∨ ∃ raised rest, upperChar c = raised :: rest ∧ raised ≠ c := by
  unfold upperChar
  split
  · by_cases same : c.toUpper = c
    · exact .inl (by rw [same])
    · exact .inr ⟨_, _, rfl, same⟩
  · unfold upperNonAscii
    split
    · rename_i codes found
      have table : ∀ entry ∈ caseExpansions, ∃ raised ∈ entry.2.head?,
          Char.ofNat raised ≠ Char.ofNat entry.1 := by
        decide +kernel
      obtain ⟨before, after, listed, -⟩ := List.lookup_eq_some_iff.mp found
      obtain ⟨raised, first, differs⟩ := table (c.toNat, codes) (by simp [listed])
      obtain ⟨rest, rfl⟩ := List.head?_eq_some_iff.mp first
      rw [Char.ofNat_toNat] at differs
      exact .inr ⟨_, _, rfl, differs⟩
    · by_cases same : shiftCase raisingRuns c = c
      · exact .inl (by rw [same])
      · exact .inr ⟨_, _, rfl, same⟩

/-- A text that upper case changes is told from its upper case by the first character that
changes, whatever follows the two.
-/
theorem upper_append_ne {text : List Char} (changed : upper text ≠ text) (first second : List Char)
    : upper text ++ first ≠ text ++ second := by
  induction text with
  | nil => exact absurd rfl changed
  | cons c rest ih =>
      intro same
      rw [upper_cons] at changed same
      rcases upperChar_eq_self_or c with kept | ⟨raised, tail, eq, differs⟩
      · simp only [kept, List.cons_append, List.nil_append, ne_eq, List.cons.injEq, true_and]
          at changed same
        exact ih changed same
      · simp only [eq, List.cons_append, List.cons.injEq] at same
        exact differs same.1

-----------------------------------------------------------------------------------------
-- Identifiers read back
-----------------------------------------------------------------------------------------

/-- The identifiers that the header of enumerators defines, read back from its rows. -/
def enumeratorNames? (fileName : String) (context : Context) (group : Group)
    : Option (List String) :=
  ((declarations? .enumeration fileName context group).bind readEnumeration?).map (·.map (·.1))

/-- The identifiers that the header of macros defines, read back from its rows. -/
def macroNames? (fileName : String) (context : Context) (group : Group) : Option (List String) :=
  ((declarations? .macros fileName context group).bind readMacros?).map (·.map (·.1))

/-- The constant that the last row of the header of information defines. -/
def countName? (context : Context) (group : Group) : Option String :=
  ((Artifact.info.rows context group).getLast?.bind fun row => readConstant? row.toList).map (·.1)

/-- The identifiers for the words under a prefix. -/
def joined (front : String) (words : List String) : List String :=
  words.map (macroSymbol front)

/-- The words that a header of codes joins to its prefix: the tags of the entries, and the reserved
words for the lowest and the highest code.
-/
def codeWords (group : Group) : List String :=
  group.entries.map (·.tag) ++ ["ERRMIN", "ERRMAX"]

theorem macroSymbol_eq (front word : String) : macroSymbol front word = front ++ ("_" ++ word) := by
  simp [macroSymbol, toString, String.append_assoc]

/-- The symbols of a table of codes join its prefix and its words. -/
theorem names_codeTable (front : String) (group : Group)
    : (codeTable (macroSymbol front) (front ++ "_ERRMIN") (front ++ "_ERRMAX") group).map (·.1)
      = joined front (codeWords group) := by
  have tagged : (group.entries.mapIdx fun position entry =>
        (macroSymbol front entry.tag, group.base + (position : Int))).map (·.1)
      = group.entries.map fun entry => macroSymbol front entry.tag := by
    apply List.ext_getElem <;> simp
  have lowest : front ++ "_ERRMIN" = macroSymbol front "ERRMIN" := by simp [macroSymbol_eq]
  have highest : front ++ "_ERRMAX" = macroSymbol front "ERRMAX" := by simp [macroSymbol_eq]
  simp only [codeTable, joined, codeWords, lowest, highest, List.map_append, tagged, List.map_map,
    List.map_cons, List.map_nil]
  rfl

section Reading

variable {group : Group} (writable : Group.Writable group)
include writable

/-- The rows of codes do not show the context, so that none of them holds a line feed. -/
theorem noFeed_codeRows
    : (∀ row ∈ enumerationRows group, '\n' ∉ row.toList)
      ∧ ∀ row ∈ macroRows group, '\n' ∉ row.toList := by
  have unbroken : ({ source := "", timestamp := "" } : Context).Unbroken :=
    ⟨by decide, by decide, by decide⟩
  exact ⟨noFeed_rows writable unbroken .enumeration, noFeed_rows writable unbroken .macros⟩

theorem enumeratorNames?_eq (fileName : String) (context : Context)
    : enumeratorNames? fileName context group
      = some (joined (upperName group.name) (codeWords group)) := by
  have whole : ∀ row ∈ Artifact.enumeration.rows context group, '\n' ∉ row.toList :=
    (noFeed_codeRows writable).1
  have rows := declarations?_eq whole fileName
  rw [enumeratorNames?, rows, Option.bind_some, Artifact.rows, readEnumeration?_rows writable,
    Option.map_some]
  exact congrArg some (names_codeTable (upperName group.name) group)

theorem macroNames?_eq (fileName : String) (context : Context)
    : macroNames? fileName context group = some (joined group.name (codeWords group)) := by
  have whole : ∀ row ∈ Artifact.macros.rows context group, '\n' ∉ row.toList :=
    (noFeed_codeRows writable).2
  have rows := declarations?_eq whole fileName
  rw [macroNames?, rows, Option.bind_some, Artifact.rows, readMacros?_rows writable,
    Option.map_some]
  exact congrArg some (names_codeTable group.name group)

theorem countName?_eq (context : Context)
    : countName? context group = some (macroSymbol (upperName group.name) "ERRCNT") := by
  have last : (Artifact.info.rows context group).getLast?
      = some (countRow context (column (upperName group.name ++ "_ERRCNT"))
          (group.entries.length + 1)) := by
    rw [Artifact.rows, infoRows_eq, List.getLast?_cons_of_ne_nil (by simp),
      List.getLast?_append_of_ne_nil _ (by simp)]
    rfl
  have read := readConstant?_row
    (solid_suffixed (solid_upperName writable.name) (show Solid "_ERRCNT".toList by decide))
    (by simp) (allBlank_padding _) (toList_column _) context.countType (group.entries.length + 1)
  rw [countName?, last, Option.bind_some, countRow, read, macroSymbol_eq]
  rfl

end Reading

section Clashes

variable {front word : String} {words : List String} {group : Group}

theorem macroSymbol_injective (front : String) : Function.Injective (macroSymbol front) := by
  intro first second same
  have chars := congrArg String.toList same
  exact String.toList_inj.mp (by simpa [macroSymbol, toString] using chars)

theorem mem_joined_iff : macroSymbol front word ∈ joined front words ↔ word ∈ words :=
  List.mem_map_of_injective (macroSymbol_injective front)

theorem nodup_joined_iff : (joined front words).Nodup ↔ words.Nodup :=
  List.nodup_map_iff (macroSymbol_injective front)

/-- Tags that are distinct clash with reserved words only. -/
theorem nodup_codeWords_iff (tags : (group.entries.map (·.tag)).Nodup)
    : (codeWords group).Nodup
      ↔ "ERRMIN" ∉ group.entries.map (·.tag) ∧ "ERRMAX" ∉ group.entries.map (·.tag) := by
  have reserved : ["ERRMIN", "ERRMAX"].Nodup := by decide
  have apart : (codeWords group).Nodup
      ↔ (group.entries.map (·.tag)).Disjoint ["ERRMIN", "ERRMAX"] := by
    rw [codeWords, List.nodup_append']
    exact ⟨fun held => held.2.2, fun apart => ⟨tags, reserved, apart⟩⟩
  rw [apart, List.disjoint_comm, List.disjoint_cons_left, List.singleton_disjoint]

/-- The symbols under a name and under its upper case are all distinct, unless the name is in upper
case already.
-/
theorem disjoint_joined_iff {name : String}
    : (joined (upperName name) (codeWords group)).Disjoint (joined name (codeWords group))
      ↔ upperName name ≠ name := by
  constructor
  · intro apart same
    have lowest : macroSymbol name "ERRMIN" ∈ joined name (codeWords group) :=
      mem_joined_iff.mpr (by simp [codeWords])
    rw [same] at apart
    exact apart lowest lowest
  · intro changed symbol enumerated defined
    obtain ⟨first, -, rfl⟩ := List.mem_map.mp enumerated
    obtain ⟨second, -, same⟩ := List.mem_map.mp defined
    have differs : upper name.toList ≠ name.toList := by
      intro same
      exact changed (by rw [upperName, same, String.ofList_toList])
    have chars := congrArg String.toList same
    simp only [macroSymbol_eq, String.toList_append, upperName, String.toList_ofList] at chars
    exact upper_append_ne differs _ _ chars.symm

end Clashes

-----------------------------------------------------------------------------------------
-- The headers of a group
-----------------------------------------------------------------------------------------

/-- For every group that was read from a text: the identifiers of the enumerators are distinct, and
so are those of the macros, exactly if no tag is one of the words for the lowest and the highest
code; the constant that counts the codes is no enumerator exactly if no tag is its word; and no
macro is an enumerator exactly if the name is not in upper case already.
-/
theorem identifiers_defined_once {source : Option String} {text : String} {groups : List Group}
    {group : Group} (read : parseText source text = .ok groups) (member : group ∈ groups)
    (fileName : Artifact → String) (context : Context)
    : let tags := group.entries.map (·.tag)
      let upper := upperName group.name
      ∃ enumerators macros count,
        enumeratorNames? (fileName .enumeration) context group = some enumerators
        ∧ macroNames? (fileName .macros) context group = some macros
        ∧ countName? context group = some count
        ∧ enumerators = tags.map (enumSymbol group.name) ++ [upper ++ "_ERRMIN", upper ++ "_ERRMAX"]
        ∧ macros = tags.map (macroSymbol group.name)
          ++ [group.name ++ "_ERRMIN", group.name ++ "_ERRMAX"]
        ∧ count = upper ++ "_ERRCNT"
        ∧ (enumerators.Nodup ↔ "ERRMIN" ∉ tags ∧ "ERRMAX" ∉ tags)
        ∧ (macros.Nodup ↔ "ERRMIN" ∉ tags ∧ "ERRMAX" ∉ tags)
        ∧ (count ∉ enumerators ↔ "ERRCNT" ∉ tags)
        ∧ (macros.Disjoint enumerators ↔ upper ≠ group.name) := by
  intro tags upper
  have writable := (representable_of_parseText read).each group member
  have words (front : String)
      : joined front (codeWords group)
        = tags.map (macroSymbol front) ++ [front ++ "_ERRMIN", front ++ "_ERRMAX"] := by
    simp [joined, codeWords, macroSymbol_eq, tags]
  have once := nodup_codeWords_iff writable.tags
  refine ⟨_, _, _, enumeratorNames?_eq writable _ context, macroNames?_eq writable _ context,
    countName?_eq writable context, words upper, words group.name, macroSymbol_eq _ _,
    nodup_joined_iff.trans once, nodup_joined_iff.trans once, ?_, ?_⟩
  · rw [mem_joined_iff]
    simp [codeWords, tags]
  · rw [List.disjoint_comm]
    exact disjoint_joined_iff

/-- A group whose name gets longer in upper case, with a tag that starts like a reserved word. -/
def sharpGroup : Group := {
  name := "groß", base := 1, line := 1
  entries := [⟨"A", "x", 2⟩, ⟨"ERRMINOR", "", 3⟩] }

/-- Its headers define all identifiers once. -/
theorem identifiers_defined_once_sharp
    : parseText none "groß = 1 \"\" \x7b\nA x\nERRMINOR\n\x7d" = .ok [sharpGroup]
      ∧ ∃ enumerators macros count,
        enumeratorNames? "e.h" plainContext sharpGroup = some enumerators
        ∧ macroNames? "d.h" plainContext sharpGroup = some macros
        ∧ countName? plainContext sharpGroup = some count
        ∧ enumerators = ["GROSS_A", "GROSS_ERRMINOR", "GROSS_ERRMIN", "GROSS_ERRMAX"]
        ∧ enumerators.Nodup ∧ macros.Nodup ∧ count ∉ enumerators
        ∧ macros.Disjoint enumerators := by
  have read : parseText none "groß = 1 \"\" \x7b\nA x\nERRMINOR\n\x7d" = .ok [sharpGroup] := rfl
  obtain ⟨enumerators, macros, count, enumerated, defined, counted, listed, -, -, once, once', apart,
    separate⟩ := identifiers_defined_once read (show sharpGroup ∈ _ by simp)
      (fun artifact => if artifact = .enumeration then "e.h" else "d.h") plainContext
  refine ⟨read, enumerators, macros, count, enumerated, defined, counted, ?_, once.mpr ?_,
    once'.mpr ?_, apart.mpr ?_, separate.mpr ?_⟩
  · rw [listed]
    rfl
  all_goals decide

/-- A group with two reserved words among its tags. -/
def reservedGroup : Group :=
  { name := "g", base := 1, line := 1, entries := [⟨"ERRMIN", "", 2⟩, ⟨"ERRCNT", "", 3⟩] }

/-- A group whose name is in upper case. -/
def capitalGroup : Group := { name := "H", base := 8, line := 5, entries := [⟨"A", "", 6⟩] }

/-- A text with both groups is accepted. The headers of the first group define the lowest code twice
and take the constant that counts the codes for an enumerator; those of the second group define each
symbol as an enumerator and as a macro.
-/
theorem identifiers_clash
    : parseText none "g = 1 \"\" \x7b\nERRMIN\nERRCNT\n\x7d\nH = 8 \"\" \x7b\nA\n\x7d"
        = .ok [reservedGroup, capitalGroup]
      ∧ (∃ enumerators macros count,
        enumeratorNames? "e.h" plainContext reservedGroup = some enumerators
        ∧ macroNames? "d.h" plainContext reservedGroup = some macros
        ∧ countName? plainContext reservedGroup = some count
        ∧ ¬ enumerators.Nodup ∧ ¬ macros.Nodup ∧ count ∈ enumerators)
      ∧ ∃ symbols,
        enumeratorNames? "e.h" plainContext capitalGroup = some symbols
        ∧ macroNames? "d.h" plainContext capitalGroup = some symbols
        ∧ symbols = ["H_A", "H_ERRMIN", "H_ERRMAX"] := by
  have read : parseText none "g = 1 \"\" \x7b\nERRMIN\nERRCNT\n\x7d\nH = 8 \"\" \x7b\nA\n\x7d"
      = .ok [reservedGroup, capitalGroup] := rfl
  have writable := (representable_of_parseText read).each
  have reserved := writable reservedGroup (by simp)
  have capital := writable capitalGroup (by simp)
  refine ⟨read, ⟨_, _, _, enumeratorNames?_eq reserved _ _, macroNames?_eq reserved _ _,
    countName?_eq reserved _, ?_, ?_, ?_⟩, _, enumeratorNames?_eq capital _ _,
    macroNames?_eq capital _ _, rfl⟩
  · rw [nodup_joined_iff]
    decide
  · rw [nodup_joined_iff]
    decide
  · rw [mem_joined_iff]
    decide

end ErrorTables.Header
