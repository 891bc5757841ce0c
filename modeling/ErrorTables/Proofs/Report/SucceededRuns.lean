import ErrorTables.Proofs.Listing.Refusals
import ErrorTables.Proofs.Report.ReadBack
import ErrorTables.Proofs.Run.FoundGroups

/-! Reports of runs that succeed.
Bases are read without a bound, and codes count up from them; a report holds integers of 64 bits
only. A run that has succeeded can therefore have a summary that no report is written for.
-/

namespace ErrorTables

theorem Json.IsPortable.of_natural {number : Int} (natural : 0 ≤ number)
    (bound : number < 0x10000000000000000)
    : Json.IsPortable number :=
  ⟨by omega, bound⟩

namespace Run

open Definition

-----------------------------------------------------------------------------------------
-- What a summary counts
-----------------------------------------------------------------------------------------

/-- The codes of the record count up from a natural number. -/
structure GroupRecord.Counted (record : GroupRecord) : Prop where
  base : 0 ≤ record.base
  count : 0 ≤ record.count
  firstCode : record.firstCode = record.base
  lastCode : record.lastCode = record.base + record.count - 1

theorem GroupRecord.counted_ofGroup {group : Group} (base : 0 ≤ group.base) (source : String)
    : (GroupRecord.ofGroup source group).Counted :=
  ⟨base, Int.natCast_nonneg _, rfl, rfl⟩

namespace Session

variable {session next last opened : Session} {source : String} {group : Group} {path : Path}
variable {inputs : List Path} {options : Options} {settings : Settings} {now : Moment}
variable {files : FileSystem} {summary : Summary}

/-- The session has recorded groups of inputs and, if it lists, has numbered their entries, which
are counted only when it is left.
-/
structure Counts (session : Session) : Prop where
  groups : ∀ record ∈ session.summary.groups, record.Counted
  listed : session.summary.listed = 0
  numbered : ∀ writer, session.writer = some writer → writer.written = session.summary.entries

/-- The entries of a group are added to those of the groups before it. -/
theorem entries_record (session : Session) (source : String) (group : Group)
    : (session.record source group).summary.entries = session.summary.entries + group.count := by
  rw [Report.entries_eq_sum, Report.entries_eq_sum]
  simp [record, GroupRecord.ofGroup]

theorem counts_of_opens (opens : Opens options settings now files opened) : opened.Counts := by
  obtain ⟨fresh, started, entered⟩ := opens
  obtain rfl := Session.eq_of_start started
  unfold enter at entered
  split at entered
  · unfold openListing at entered
    split at entered
    · simp at entered
    · split at entered
      · simp at entered
      · obtain ⟨rfl, -⟩ := Prod.mk.inj entered
        refine ⟨by simp, rfl, ?_⟩
        rintro writer ⟨⟩
        rfl
  · obtain ⟨rfl, -⟩ := Prod.mk.inj entered
    exact ⟨by simp, rfl, nofun⟩

theorem Counts.writeHeader (h : session.Counts) {artifact : Header.Artifact}
    (wrote : session.writeHeader source group artifact = (next, .ok ()))
    : next.Counts := by
  simp only [Session.writeHeader] at wrote
  split at wrote
  · obtain ⟨rfl, -⟩ := Prod.mk.inj wrote
    exact ⟨h.groups, h.listed, h.numbered⟩
  · simp at wrote

/-- A listing that takes all lines of a group numbers its entries. -/
theorem written_of_writeGroup {σ ε : Type} {stream : Listing.Stream σ ε}
    {writer after : Listing.Writer σ} {number : Nat}
    (wrote : writer.writeGroup stream group = (after, .ok number))
    : after.written = writer.written + group.count := by
  obtain ⟨added, lists, answers⟩ := writer.writeGroup_lists stream group
  rw [wrote] at lists answers
  cases answers
  have moved := lists.next
  simp only [Listing.symbols_cons, Listing.symbols_nil, List.append_nil, List.length_map] at moved
  simp only [Listing.Writer.written, Group.count, moved]
  omega

/-- A group that is recorded is written in headers, which changes no counts, or is numbered at once.
-/
theorem Counts.processGroup (h : session.Counts) (base : 0 ≤ group.base)
    (done : Session.processGroup source session group = (next, .ok ()))
    : next.Counts := by
  have groups : ∀ record ∈ (session.record source group).summary.groups, record.Counted := by
    intro record member
    rcases List.mem_append.mp member with earlier | last
    · exact h.groups record earlier
    · exact List.mem_singleton.mp last ▸ GroupRecord.counted_ofGroup base source
  cases writes : session.writer with
  | none =>
      have recorded : (session.record source group).Counts := by
        refine ⟨groups, h.listed, ?_⟩
        rintro writer taken
        exact absurd (writes.symm.trans taken) nofun
      rw [processGroup_of_no_writer writes] at done
      exact forEach_ok_preserves (fun _ _ _ _ counts wrote => counts.writeHeader wrote) done
        recorded
  | some writer =>
      rw [processGroup_of_writer writes, list] at done
      rcases wrote : writer.writeGroup Sink.stream group with ⟨after, error | number⟩
      · simp [wrote, Except.map, Except.mapError] at done
      · simp only [wrote] at done
        obtain ⟨rfl, -⟩ := Prod.mk.inj done
        refine ⟨groups, h.listed, ?_⟩
        rintro _ ⟨⟩
        have entries := entries_record session source group
        rw [written_of_writeGroup wrote, h.numbered writer writes]
        exact entries.symm

theorem Counts.processFile (h : session.Counts)
    (done : session.processFile path = (next, .ok ()))
    : next.Counts := by
  cases loaded : load session.files path with
  | error problem => simp [processFile_of_load_error loaded] at done
  | ok groups =>
      rcases processed : forEach (Session.processGroup path.toString) session groups with
        ⟨reached, failure | _⟩
      · simp [processFile_of_failure loaded processed] at done
      · rw [processFile_of_ok loaded processed] at done
        obtain ⟨rfl, -⟩ := Prod.mk.inj done
        obtain ⟨text, -, parsed⟩ := load_eq_ok_iff.mp loaded
        have writable := (representable_of_parseText parsed).each
        have counts : reached.Counts :=
          forEach_ok_preserves (fun group member _ _ counts done =>
            counts.processGroup (writable group member).base done) processed h
        exact ⟨counts.groups, counts.listed, counts.numbered⟩

end Session

section Whole

variable {inputs : List Path} {options : Options} {settings : Settings} {now : Moment}
variable {files : FileSystem} {summary : Summary}

/-- A run that succeeds records groups of its inputs, and lists all of their entries or none. -/
theorem counts_of_succeeded
    (succeeded : (run inputs options settings now files).result = .ok summary)
    : (∀ record ∈ summary.groups, record.Counted)
      ∧ (summary.listed = 0 ∨ summary.listed = summary.entries) := by
  obtain ⟨opened, last, opens, processed, -, rfl⟩ := opens_of_succeeded succeeded
  have counts : last.Counts :=
    Session.forEach_ok_preserves (fun _ _ _ _ counts done => counts.processFile done) processed
      (Session.counts_of_opens opens)
  refine ⟨counts.groups, ?_⟩
  cases writes : last.writer with
  | none =>
      left
      simpa [Session.exit, writes] using counts.listed
  | some writer =>
      right
      simp only [Session.exit, writes, Option.map_some, Option.getD_some]
      exact counts.numbered writer writes

end Whole

end Run

namespace Report

open Run FileSystem

section Numbers

variable {summary : Summary}

/-- All codes of the groups and the number of all their entries are below 2 to the power of 64. -/
def InRange (summary : Summary) : Prop :=
  (∀ group ∈ summary.groups, group.base < 0x10000000000000000
      ∧ group.base + group.count ≤ 0x10000000000000000)
    ∧ summary.entries < 0x10000000000000000

/-- Numbers that a report can hold are in range: the last codes give the bounds of the counts. -/
theorem Portable.inRange (portable : Portable summary)
    (counted : ∀ record ∈ summary.groups, record.Counted)
    : InRange summary := by
  refine ⟨?_, (entries_eq_sum summary ▸ portable.entries).2⟩
  intro record member
  have first := (portable.bases record member).2
  have last := (portable.lastCodes record member).2
  rw [(counted record member).lastCode] at last
  omega

/-- Numbers in range can be held: no count is greater than the number of all entries. -/
theorem InRange.portable (inRange : InRange summary)
    (counted : ∀ record ∈ summary.groups, record.Counted)
    (listed : summary.listed = 0 ∨ summary.listed = summary.entries)
    : Portable summary := by
  obtain ⟨groups, bound⟩ := inRange
  have whole := entries_eq_sum summary
  have counts : ∀ number ∈ summary.groups.map (·.count), 0 ≤ number := by
    rw [List.forall_mem_map]
    exact fun record member => (counted record member).count
  have bases : ∀ record ∈ summary.groups, Json.IsPortable record.base := fun record member =>
    .of_natural (counted record member).base (groups record member).1
  have entries : Json.IsPortable summary.entries :=
    .of_natural (whole ▸ List.sum_nonneg counts) bound
  refine ⟨bases, ?_, ?_, ?_, whole ▸ entries, ?_⟩
  · intro record member
    have part : record.count ≤ summary.entries :=
      whole ▸ List.single_le_sum counts _ (List.mem_map_of_mem member)
    exact .of_natural (counted record member).count (lt_of_le_of_lt part bound)
  · intro record member
    rw [(counted record member).firstCode]
    exact bases record member
  · intro record member
    obtain ⟨base, count, -, last⟩ := counted record member
    have top := (groups record member).2
    rw [last]
    exact ⟨by omega, by omega⟩
  · rcases listed with none | all
    · rw [none]
      decide
    · rwa [all]

/-- A run that has succeeded can be stored exactly if its numbers are in range and its texts are
taken.
-/
theorem storable_iff {takes : String → Prop}
    (ascii : ∀ text : String, (∀ c ∈ text.toList, c.toNat < 0x80) → takes text)
    (counted : ∀ record ∈ summary.groups, record.Counted)
    (listed : summary.listed = 0 ∨ summary.listed = summary.entries)
    : Json.Storable Json.IsPortable takes Json.maxDepth (.mapping (pairs summary))
      ↔ InRange summary ∧ ∀ text ∈ texts summary, takes text := by
  have inRange : Portable summary ↔ InRange summary :=
    ⟨fun portable => portable.inRange counted, fun inRange => inRange.portable counted listed⟩
  rw [← inRange, portable_iff]
  exact storable_pairs_iff ascii

/-- The width of its integers aside, a report can be stored exactly if its texts are taken. -/
theorem storable_texts_iff {takes : String → Prop}
    (ascii : ∀ text : String, (∀ c ∈ text.toList, c.toNat < 0x80) → takes text)
    : Json.Storable (fun _ => True) takes Json.maxDepth (.mapping (pairs summary))
      ↔ ∀ text ∈ texts summary, takes text := by
  have both : Json.Storable (fun _ => True) takes Json.maxDepth (.mapping (pairs summary))
      ↔ (∀ number ∈ numbers summary, True) ∧ ∀ text ∈ texts summary, takes text :=
    storable_pairs_iff ascii
  simpa using both

end Numbers

/-- A document that is refused is not written, and only directories are made. -/
theorem saveWith_of_error {encode : Value → Except Fault ByteArray} {files : FileSystem}
    {path : Path} {location : Location} {document : Value} {fault : Fault}
    (refused : encode document = .error fault) (lands : files.Lands path location)
    : ∃ made, saveWith encode files path document = (made, .error fault)
        ∧ AddsDirectories files made := by
  obtain ⟨made, ensured, -⟩ := lands
  have added : AddsDirectories files (files.ensureDirectory path.parent).1 :=
    ensureDirectory_adds files path.parent
  rw [ensured] at added
  exact ⟨made, by simp only [saveWith, ensured, refused], added⟩

section Whole

variable {inputs : List Path} {options : Options} {settings : Settings} {now : Moment}
variable {files : FileSystem} {summary : Summary} {report : Path} {location : Location}

/-- A run that succeeds can be reported, wherever a file can be written, exactly if the codes of its
groups and the number of its entries are in range and the encoder takes its texts. Otherwise the
writing ends in a fault, once the directories that lead to the report are made, and no file is
written; if the texts are taken, the fault is that of an integer that is too wide.
-/
theorem write_succeeded_run {takes : String → Prop} {encode : Value → Except Fault ByteArray}
    (encoder : Json.IsEncoder takes encode)
    (succeeded : (run inputs options settings now files).result = .ok summary)
    (lands : (run inputs options settings now files).files.Lands report location)
    : let left := (run inputs options settings now files).files
      (InRange summary → (∀ text ∈ texts summary, takes text) →
        ∃ (written : FileSystem) (content : String),
          writeWith encode left report summary = (written, .ok ())
          ∧ written.read report = .ok content.toUTF8
          ∧ Json.Spells (.mapping (pairs summary)) content.toList)
      ∧ (¬ (InRange summary ∧ ∀ text ∈ texts summary, takes text) → ∃ made fault,
        writeWith encode left report summary = (made, .error fault)
        ∧ AddsDirectories left made
        ∧ ((∀ text ∈ texts summary, takes text) → fault = .integerTooWide)) := by
  intro left
  obtain ⟨counted, listed⟩ := counts_of_succeeded succeeded
  have storable := storable_iff encoder.ascii counted listed
  constructor
  · intro inRange textsTaken
    obtain ⟨content, encoded, spelled⟩ := encoder.spelled (storable.mpr ⟨inRange, textsTaken⟩)
    obtain ⟨written, saved, holds⟩ := saveWith_of_ok encoded lands
    exact ⟨written, content, saved, holds, spelled⟩
  · intro outside
    have refused : ∃ fault, encode (.mapping (pairs summary)) = .error fault
        ∧ ((∀ text ∈ texts summary, takes text) → fault = .integerTooWide) := by
      by_cases textsTaken : ∀ text ∈ texts summary, takes text
      · have wide := encoder.tooWide ((storable_texts_iff encoder.ascii).mpr textsTaken)
          (mt storable.mp outside)
        exact ⟨_, wide, fun _ => rfl⟩
      · have anyTexts : Json.Storable (fun _ => True) (fun _ => True) Json.maxDepth
            (.mapping (pairs summary)) :=
          (storable_texts_iff fun _ _ => trivial).mpr fun _ _ => trivial
        obtain ⟨fault, refused⟩ :=
          encoder.refused anyTexts (mt (storable_texts_iff encoder.ascii).mp textsTaken)
        exact ⟨fault, refused, fun all => absurd all textsTaken⟩
    obtain ⟨fault, refused, kind⟩ := refused
    obtain ⟨made, saved, added⟩ := saveWith_of_error refused lands
    exact ⟨made, fault, saved, added, kind⟩

/-- A group of one entry with the code. -/
def codeGroup (code : Int) : Group where
  name := "g"
  base := code
  entries := [⟨"A", "", 2⟩]
  source := some "a"
  line := 1

/-- Files of which one has the text. -/
def filesOf (text : String) : FileSystem :=
  ⟨[(["a"], .file text.toUTF8)]⟩

/-- The session that is to list the entries in the text. -/
def openSession (text : String) : Session where
  options := { listPath := some ⟨"", ["l"]⟩ }
  settings := { timestamp := some "now" }
  timestamp := "now"
  files := (filesOf text).put ["l"] (.file .empty)
  summary := { listPath := some "l" }
  writer := some ⟨.file ["l"] "", 1⟩

/-- The summary of a run over a group with the code. -/
def codeSummary (code : Int) : Summary where
  files := ["a"]
  groups := [.ofGroup "a" (codeGroup code)]
  listPath := some "l"
  listed := 1

/-- What is left by a run that lists the entries in the text. -/
def codeRun (text : String) : Outcome :=
  run [⟨"", ["a"]⟩] (openSession text).options (openSession text).settings
    { date := ⟨2024, 1, 31⟩ } (filesOf text)

/-- A run over a group of one entry succeeds, whatever the code, and leaves room for a report. -/
theorem codeRun_spec {text : String} {code : Int}
    (parsed : Definition.parseText (some "a") (Definition.fileText text) = .ok [codeGroup code])
    : (codeRun text).result = .ok (codeSummary code)
      ∧ (codeRun text).files.Lands ⟨"", ["r"]⟩ ["r"] := by
  have opens : Opens (openSession text).options (openSession text).settings
      { date := ⟨2024, 1, 31⟩ } (filesOf text) (openSession text) := by
    refine ⟨{ openSession text with files := filesOf text, summary := {}, writer := none }, rfl, ?_⟩
    cbv
  have loaded : Definition.load (openSession text).files ⟨"", ["a"]⟩ = .ok [codeGroup code] :=
    Definition.load_eq_ok_iff.mpr ⟨text, by cbv, parsed⟩
  have processed : Session.forEach Session.processFile (openSession text) [⟨"", ["a"]⟩] = ({
      openSession text with
      summary := { codeSummary code with listed := 0 }
      writer := some ⟨.file ["l"] "g_A = 1\n", 2⟩ }, .ok ()) := by
    rw [Session.forEach, Session.processFile_of_ok loaded rfl]
    rfl
  rw [codeRun, run_of_opens opens (List.cons_ne_nil _ []), processed]
  exact ⟨rfl, _, by cbv, by cbv⟩

/-- The largest code of 64 bits is reported. -/
theorem write_succeeded_run_largest
    : let outcome := codeRun "g=0xffffffffffffffff\"\"\x7b\nA\n\x7d"
      ∃ summary, Json.IsEncoder (fun _ => True) Json.encode
        ∧ outcome.result = .ok summary ∧ outcome.files.Lands ⟨"", ["r"]⟩ ["r"]
        ∧ InRange summary
        ∧ ∃ (written : FileSystem) (content : String),
          writeWith Json.encode outcome.files ⟨"", ["r"]⟩ summary = (written, .ok ())
          ∧ written.read ⟨"", ["r"]⟩ = .ok content.toUTF8
          ∧ Json.Spells (.mapping (pairs summary)) content.toList := by
  have parsed : Definition.parseText (some "a")
      (Definition.fileText "g=0xffffffffffffffff\"\"\x7b\nA\n\x7d")
      = .ok [codeGroup 0xffffffffffffffff] := by
    rfl
  obtain ⟨succeeded, lands⟩ := codeRun_spec parsed
  have inRange : InRange (codeSummary 0xffffffffffffffff) := ⟨by decide, by decide⟩
  exact ⟨_, Json.isEncoder_encode, succeeded, lands, inRange,
    (write_succeeded_run Json.isEncoder_encode succeeded lands).1 inRange fun _ _ => trivial⟩

/-- A run with a code of 65 bits succeeds, and its report is not written. -/
theorem write_misses_wide_code
    : let outcome := codeRun "g=0x10000000000000000\"\"\x7b\nA\n\x7d"
      ∃ summary, outcome.result = .ok summary ∧ outcome.files.Lands ⟨"", ["r"]⟩ ["r"]
        ∧ (writeWith Json.encode outcome.files ⟨"", ["r"]⟩ summary).2
          = .error .integerTooWide := by
  have parsed : Definition.parseText (some "a")
      (Definition.fileText "g=0x10000000000000000\"\"\x7b\nA\n\x7d")
      = .ok [codeGroup 0x10000000000000000] := by
    rfl
  obtain ⟨succeeded, lands⟩ := codeRun_spec parsed
  have refused : Json.encode (.mapping (pairs (codeSummary 0x10000000000000000)))
      = .error .integerTooWide := by
    rfl
  obtain ⟨made, saved, -⟩ := saveWith_of_error refused lands
  exact ⟨_, succeeded, lands, congrArg Prod.snd saved⟩

end Whole

end Report

end ErrorTables
