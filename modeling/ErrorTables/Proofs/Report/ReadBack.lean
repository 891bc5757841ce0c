import ErrorTables.Proofs.FileSystem.Changes
import ErrorTables.Proofs.FileSystem.Writes
import ErrorTables.Proofs.Json.Encoding
import ErrorTables.Proofs.Json.SpelledValues
import ErrorTables.Report

/-! Reports of runs are read back.
A report is read by the names of its fields, whatever their order; the summary that it was written
for is found again, and with it the number of its entries and the codes that are given in
hexadecimal.
-/

namespace ErrorTables

namespace Report

open Run

-----------------------------------------------------------------------------------------
-- Reading by the names of the fields
-----------------------------------------------------------------------------------------

/-- The field of a document. -/
def field? (name : String) : Value → Option Value
  | .mapping pairs => Value.field? name pairs
  | _ => none

/-- The text that a value is. -/
def text? : Value → Option String
  | .text content => some content
  | _ => none

/-- The text that a value is, if it is not nothing. -/
def optionalText? : Value → Option (Option String)
  | .null => some none
  | .text content => some (some content)
  | _ => none

/-- The integer that a value is. -/
def integer? : Value → Option Int
  | .integer number => some number
  | _ => none

/-- The items of a sequence, all of one kind. -/
def items? {α : Type} (item? : Value → Option α) : Value → Option (List α)
  | .sequence items => items.mapM item?
  | _ => none

/-- The integer that a text stands for in hexadecimal. -/
def hexadecimal? (value : Value) : Option Int := do
  (Numeral.read .hexadecimal (← text? value)).toOption

/-- The record of a group in the report. -/
def group? (document : Value) : Option GroupRecord := do
  return {
    source := ← (field? "source" document).bind text?
    name := ← (field? "name" document).bind text?
    base := ← (field? "base" document).bind integer?
    count := ← (field? "count" document).bind integer?
    firstCode := ← (field? "errmin" document).bind integer?
    lastCode := ← (field? "errmax" document).bind integer? }

/-- The first and the last code of a group as they are given in hexadecimal. -/
def hexCodes? (document : Value) : Option (Int × Int) := do
  return (← (field? "errmin_hex" document).bind hexadecimal?,
    ← (field? "errmax_hex" document).bind hexadecimal?)

/-- The summary in the report. -/
def summary? (document : Value) : Option Summary := do
  return {
    files := ← (field? "files" document).bind (items? text?)
    groups := ← (field? "groups" document).bind (items? group?)
    written := ← (field? "written" document).bind (items? text?)
    listPath := ← (field? "list_path" document).bind optionalText?
    listed := ← (field? "listed" document).bind integer? }

/-- The number of entries in the report. -/
def entries? (document : Value) : Option Int :=
  (field? "entries" document).bind integer?

/-- The hexadecimal codes of the groups in the report. -/
def codes? (document : Value) : Option (List (Int × Int)) :=
  (field? "groups" document).bind (items? hexCodes?)

-----------------------------------------------------------------------------------------
-- The fields of a report
-----------------------------------------------------------------------------------------

/-- Items are read if each of them is, by induction on the items. -/
theorem items?_map {α β : Type} {write : α → Value} {item? : Value → Option β} {meant : α → β}
    {items : List α} (read : ∀ item ∈ items, item? (write item) = some (meant item))
    : items? item? (.sequence (items.map write)) = some (items.map meant) := by
  induction items with
  | nil => rfl
  | cons item items ih =>
      obtain ⟨first, others⟩ := List.forall_mem_cons.mp read
      have behind : (items.map write).mapM item? = some (items.map meant) := ih others
      simp [items?, first, behind]

theorem items?_texts (texts : List String)
    : items? text? (.sequence (texts.map .text)) = some texts := by
  have read : ∀ text ∈ texts, text? (.text text) = some (id text) := fun text _ => rfl
  rw [items?_map read, List.map_id]

theorem group?_ofGroup (group : GroupRecord) : group? (ofGroup group) = some group := by
  rfl

theorem hexCodes?_ofGroup (group : GroupRecord)
    : hexCodes? (ofGroup group) = some (group.firstCode, group.lastCode) := by
  have first : field? "errmin_hex" (ofGroup group) = some (.text (Numeral.hex group.firstCode)) :=
    rfl
  have last : field? "errmax_hex" (ofGroup group) = some (.text (Numeral.hex group.lastCode)) := rfl
  simp [hexCodes?, first, last, hexadecimal?, text?, Numeral.read_hex, Except.toOption]

/-- The summary is found in its report. -/
theorem summary?_pairs (summary : Summary)
    : summary? (.mapping (pairs summary)) = some summary := by
  have files : field? "files" (.mapping (pairs summary))
      = some (.sequence (summary.files.map .text)) := rfl
  have groups : field? "groups" (.mapping (pairs summary))
      = some (.sequence (summary.groups.map ofGroup)) := rfl
  have written : field? "written" (.mapping (pairs summary))
      = some (.sequence (summary.written.map .text)) := rfl
  have path : field? "list_path" (.mapping (pairs summary))
      = some ((summary.listPath.map Value.text).getD .null) := rfl
  have listed : field? "listed" (.mapping (pairs summary)) = some (.integer summary.listed) := rfl
  have readGroups : items? group? (.sequence (summary.groups.map ofGroup))
      = some summary.groups := by
    have read : ∀ group ∈ summary.groups, group? (ofGroup group) = some (id group) :=
      fun group _ => group?_ofGroup group
    rw [items?_map read, List.map_id]
  have readPath : optionalText? ((summary.listPath.map Value.text).getD .null)
      = some summary.listPath := by
    cases summary.listPath <;> rfl
  simp [summary?, files, groups, written, path, listed, items?_texts, readGroups, readPath,
    integer?]

theorem codes?_pairs (summary : Summary)
    : codes? (.mapping (pairs summary))
      = some (summary.groups.map fun group => (group.firstCode, group.lastCode)) := by
  have groups : field? "groups" (.mapping (pairs summary))
      = some (.sequence (summary.groups.map ofGroup)) := rfl
  rw [codes?, groups, Option.bind_some]
  exact items?_map fun group _ => hexCodes?_ofGroup group

/-- The number of entries is the sum of the counts, by induction on the groups. -/
theorem entries_eq_sum (summary : Summary)
    : summary.entries = (summary.groups.map (·.count)).sum := by
  have sum : ∀ groups : List GroupRecord,
      groups.foldr (fun group number => group.count + number) 0 = (groups.map (·.count)).sum := by
    intro groups
    induction groups with
    | nil => rfl
    | cons group groups ih => rw [List.foldr_cons, List.map_cons, List.sum_cons, ih]
  exact sum summary.groups

-----------------------------------------------------------------------------------------
-- Reports that can be stored
-----------------------------------------------------------------------------------------

/-- All numbers of the summary are integers of 64 bits, with or without a sign. -/
structure Portable (summary : Summary) : Prop where
  bases : ∀ group ∈ summary.groups, Json.IsPortable group.base
  counts : ∀ group ∈ summary.groups, Json.IsPortable group.count
  firstCodes : ∀ group ∈ summary.groups, Json.IsPortable group.firstCode
  lastCodes : ∀ group ∈ summary.groups, Json.IsPortable group.lastCode
  entries : Json.IsPortable (summary.groups.map (·.count)).sum
  listed : Json.IsPortable summary.listed

/-- The integers of the report of a summary. -/
def numbers (summary : Summary) : List Int :=
  summary.entries :: summary.listed
    :: summary.groups.flatMap fun group =>
      [group.base, group.count, group.firstCode, group.lastCode]

/-- The texts in the report of a summary, its keys and its hexadecimal numerals aside. -/
def texts (summary : Summary) : List String :=
  summary.files ++ summary.written ++ summary.listPath.toList
    ++ summary.groups.flatMap fun group => [group.source, group.name]

section Stored

variable {summary : Summary} {fits : Int → Prop} {takes : String → Prop} {depth : Nat}

theorem portable_iff
    : Portable summary ↔ ∀ number ∈ numbers summary, Json.IsPortable number := by
  have sum := entries_eq_sum summary
  simp only [numbers, List.forall_mem_cons, List.forall_mem_flatMap, List.not_mem_nil,
    IsEmpty.forall_iff, implies_true, and_true]
  constructor
  · intro portable
    exact ⟨sum ▸ portable.entries, portable.listed, fun group member =>
      ⟨portable.bases group member, portable.counts group member,
        portable.firstCodes group member, portable.lastCodes group member⟩⟩
  · rintro ⟨entries, listed, groups⟩
    exact {
      bases := fun group member => (groups group member).1
      counts := fun group member => (groups group member).2.1
      firstCodes := fun group member => (groups group member).2.2.1
      lastCodes := fun group member => (groups group member).2.2.2
      entries := sum ▸ entries
      listed := listed }

/-- A mapping from distinct texts of ASCII is stored if its values are. -/
theorem storable_record_iff
    (ascii : ∀ text : String, (∀ c ∈ text.toList, c.toNat < 0x80) → takes text)
    {names : List String} (plain : ∀ name ∈ names, ∀ c ∈ name.toList, c.toNat < 0x80)
    (distinct : names.Nodup) {pairs : List (Value × Value)}
    (named : pairs.map (·.1) = names.map .text)
    : Json.Storable fits takes (depth + 1) (.mapping pairs)
      ↔ ∀ pair ∈ pairs, Json.Storable fits takes depth pair.2 := by
  have keys : ∀ pair ∈ pairs, ∃ name, pair.1 = .text name ∧ takes name := by
    intro pair member
    have key : pair.1 ∈ names.map .text := named ▸ List.mem_map_of_mem member
    obtain ⟨name, listed, same⟩ := List.mem_map.mp key
    exact ⟨name, same.symm, ascii name (plain name listed)⟩
  have apart : (pairs.map (·.1)).Nodup :=
    named ▸ distinct.map fun _ _ same => Value.text.inj same
  exact Json.storable_mapping_iff keys apart

theorem storable_ofGroup_iff
    (ascii : ∀ text : String, (∀ c ∈ text.toList, c.toNat < 0x80) → takes text)
    {group : GroupRecord}
    : Json.Storable fits takes (depth + 1) (ofGroup group)
      ↔ (takes group.source ∧ takes group.name) ∧ fits group.base ∧ fits group.count
        ∧ fits group.firstCode ∧ fits group.lastCode := by
  have plain : ∀ name ∈ ["source", "name", "base", "count", "errmin", "errmax", "errmin_hex",
      "errmax_hex"], ∀ c ∈ name.toList, c.toNat < 0x80 := by
    simp
  have hex (number : Int) : takes (Numeral.hex number) :=
    ascii _ fun c member => Numeral.toNat_of_mem_hex member
  rw [ofGroup, storable_record_iff ascii plain (by decide) rfl]
  simp [hex, and_assoc]

/-- The report of a summary can be stored if its integers and its texts can be. -/
theorem storable_pairs_iff
    (ascii : ∀ text : String, (∀ c ∈ text.toList, c.toNat < 0x80) → takes text)
    : Json.Storable fits takes (depth + 3) (.mapping (pairs summary))
      ↔ (∀ number ∈ numbers summary, fits number) ∧ ∀ text ∈ texts summary, takes text := by
  have plain : ∀ name ∈ ["files", "groups", "entries", "written", "list_path", "listed"],
      ∀ c ∈ name.toList, c.toNat < 0x80 := by
    simp
  have path : Json.Storable fits takes (depth + 2) ((summary.listPath.map Value.text).getD .null)
      ↔ ∀ text ∈ summary.listPath.toList, takes text := by
    cases summary.listPath with
    | none => simpa using .null
    | some path => simp
  rw [pairs, storable_record_iff ascii plain (by decide) rfl]
  simp only [List.forall_mem_cons, List.not_mem_nil, IsEmpty.forall_iff, implies_true, and_true,
    Json.storable_sequence_iff,
    List.forall_mem_map, Json.storable_text_iff, Json.storable_integer_iff,
    storable_ofGroup_iff ascii, path, numbers, texts, List.forall_mem_append,
    List.forall_mem_flatMap, forall_and]
  constructor
  · rintro ⟨files, ⟨groupTexts, codes⟩, entries, written, path, listed⟩
    exact ⟨⟨entries, listed, codes⟩, ⟨⟨files, written⟩, path⟩, groupTexts⟩
  · rintro ⟨⟨entries, listed, codes⟩, ⟨⟨files, written⟩, path⟩, groupTexts⟩
    exact ⟨files, ⟨groupTexts, codes⟩, entries, written, path, listed⟩

end Stored

-----------------------------------------------------------------------------------------
-- Files
-----------------------------------------------------------------------------------------

/-- A document that is taken is written wherever a file can be written, and the file holds it. -/
theorem saveWith_of_ok {encode : Value → Except Fault ByteArray} {files : FileSystem} {path : Path}
    {location : Location} {document : Value} {content : ByteArray}
    (encoded : encode document = .ok content) (lands : files.Lands path location)
    : ∃ written, saveWith encode files path document = (written, .ok ())
        ∧ written.read path = .ok content := by
  obtain ⟨made, ensured, target⟩ := lands
  obtain ⟨leads, free⟩ := FileSystem.target_eq_ok_iff.mp target
  have stored : made.write path content = .ok (made.put location (.file content)) :=
    FileSystem.write_eq_ok_iff.mpr ⟨location, target, rfl⟩
  exact ⟨_, by simp only [saveWith, ensured, encoded, stored], FileSystem.read_put leads free _⟩

/-- A report of 64-bit numbers is written wherever a file can be written, whatever encoder of JSON
writes it, and the summary is read from it again: all its fields, the sum of its counts as the
number of entries, and the first and the last code of each group also from their hexadecimal
numerals.
-/
theorem write_reads_back {encode : Value → Except Fault ByteArray}
    (encoder : Json.IsEncoder (fun _ => True) encode) {files : FileSystem} {path : Path}
    {location : Location} {summary : Summary} (portable : Portable summary)
    (lands : files.Lands path location)
    : ∃ written content text document,
        writeWith encode files path summary = (written, .ok ())
        ∧ written.read path = .ok content
        ∧ Text.Utf8.decode content = .ok text
        ∧ Json.read text = .ok document
        ∧ summary? document = some summary
        ∧ entries? document = some (summary.groups.map (·.count)).sum
        ∧ codes? document
          = some (summary.groups.map fun group => (group.firstCode, group.lastCode)) := by
  have storable : Json.Storable Json.IsPortable (fun _ => True) Json.maxDepth
      (.mapping (pairs summary)) :=
    (storable_pairs_iff encoder.ascii).mpr ⟨portable_iff.mp portable, fun _ _ => trivial⟩
  obtain ⟨text, encoded, spelled⟩ := encoder.spelled storable
  obtain ⟨written, saved, holds⟩ := saveWith_of_ok encoded lands
  refine ⟨written, _, text, _, saved, holds, Text.Utf8.decode_toUTF8 _,
    Json.read_spelled spelled storable, summary?_pairs summary, ?_, codes?_pairs summary⟩
  rw [← entries_eq_sum]
  rfl

/-- Names with quotes, breaks and control characters, a group without entries whose last code is
negative, and numbers at both limits are read back.
-/
theorem write_reads_back_hostile
    : let summary : Summary := {
        files := ["a\"\\\n.dat", ""]
        groups := [⟨"a\"\\\n.dat", "\x01\u007f\ud7ff", 0, 0, 0, -1⟩,
          ⟨"", "\u2028", -0x8000000000000000, 1, 0xffffffffffffffff, -0x8000000000000000⟩]
        listPath := some "/" }
      Json.IsEncoder (fun _ => True) Json.encode
      ∧ Portable summary
      ∧ (FileSystem.Lands {} ⟨"", ["r.json"]⟩ ["r.json"])
      ∧ ∃ written content text document,
        writeWith Json.encode {} ⟨"", ["r.json"]⟩ summary = (written, .ok ())
        ∧ written.read ⟨"", ["r.json"]⟩ = .ok content
        ∧ Text.Utf8.decode content = .ok text
        ∧ Json.read text = .ok document
        ∧ summary? document = some summary
        ∧ entries? document = some 1
        ∧ codes? document
          = some [(0, -1), (0xffffffffffffffff, -0x8000000000000000)] := by
  intro summary
  have portable : Portable summary := by
    constructor <;> decide
  have lands : FileSystem.Lands {} ⟨"", ["r.json"]⟩ ["r.json"] := ⟨{}, by cbv, by cbv⟩
  exact ⟨Json.isEncoder_encode, portable, lands,
    write_reads_back Json.isEncoder_encode portable lands⟩

end Report

end ErrorTables
