import ErrorTables.Proofs.FileSystem.Names
import ErrorTables.Proofs.Run.HeaderFiles
import ErrorTables.Proofs.Run.HeaderProgress

/-! Which files survive a run. A run writes to the path of its listing and to the paths of the
headers that it announces, and it does not ask what stands there: a file survives, be it an input
or not, unless one of these paths leads to it.
-/

namespace ErrorTables.Run

open Definition FileSystem Header

namespace Session

section Listings

variable {session : Session} {files : FileSystem} {path : Path} {location : Location}
variable {symbols : List String}

/-- The session lists and has changed no file since it was opened. -/
def ListsOver (path : Path) (location : Location) (files : FileSystem) (session : Session)
    : Prop :=
  (∃ symbols, Lists path location symbols session) ∧ session.files = files

/-- With an open listing inputs change no file. -/
theorem Lists.processFiles (h : Lists path location symbols session) (inputs : List Path)
    : ListsOver path location session.files (forEach Session.processFile session inputs).1 := by
  have each : ∀ reached input, ListsOver path location session.files reached →
      ListsOver path location session.files (reached.processFile input).1 := by
    rintro reached input ⟨⟨listed, lists⟩, same⟩
    obtain ⟨lists', same', -⟩ := lists.processFile input
    exact ⟨⟨_, lists'⟩, same'.trans same⟩
  exact forEach_preserves each ⟨⟨symbols, h⟩, rfl⟩

end Listings

end Session

section Whole

variable {options : Options} {settings : Settings} {now : Moment} {files : FileSystem}
variable {opened : Session}

/-- A run with an open listing changes its file at most. -/
theorem changesWithin_listing {path : Path} (listing : options.listPath = some path)
    (opens : Opens options settings now files opened) (inputs : List Path)
    : ChangesWithin [path] files
      (Session.forEach Session.processFile opened inputs).1.exit.files := by
  obtain ⟨-, location, lists⟩ := lists_of_opens listing opens
  obtain ⟨fresh, started, entered⟩ := opens
  obtain ⟨⟨listed, lists'⟩, same⟩ := lists.processFiles inputs
  have emptied := Session.changesWithin_enter fresh
  have filled := lists'.changesWithin_exit
  rw [same] at filled
  rw [entered, Session.eq_of_start started, listing] at emptied
  exact (emptied.trans filled).mono (by simp)

/-- A run without a listing changes the files of the headers that it announces at most. -/
theorem changesWithin_headers (headers : options.listPath = none)
    (opens : Opens options settings now files opened) (inputs : List Path)
    : let reached := (Session.forEach Session.processFile opened inputs).1
      ChangesWithin reached.exit.announced files reached.exit.files := by
  intro reached
  obtain rfl := eq_headerSession_of_opens headers opens
  have writes : (headerSession options settings now files).writer = none := rfl
  obtain ⟨recorded, done, -, -, advances, -⟩ := Session.fills_processFiles writes inputs
  have announced : reached.exit.announced = done.map (·.1) := advances.announced
  rw [announced, Session.files_exit_of_no_writer advances.writer advances.replaced]
  exact advances.files.changes

/-- A run changes nothing but the files that the path of its listing and the paths of its headers
lead to.
-/
theorem changesWithin_run (inputs : List Path) (options : Options) (settings : Settings)
    (now : Moment) (files : FileSystem)
    : let outcome := run inputs options settings now files
      ChangesWithin (options.listPath.toList ++ outcome.announced) files outcome.files := by
  rcases run_cases inputs options settings now files with
    ⟨failure, ended⟩ | ⟨fresh, stopped, failure, started, refused, ended⟩ | ⟨opened, opens, ended⟩
  · rw [ended]
    exact (ChangesWithin.refl files).mono (List.nil_subset _)
  · rw [ended]
    have changes := Session.changesWithin_enter fresh
    rw [refused, Session.eq_of_start started] at changes
    exact changes.mono (by simp)
  · rw [ended]
    cases listing : options.listPath with
    | none => exact changesWithin_headers listing opens inputs
    | some path => exact (changesWithin_listing listing opens inputs).mono (by simp)

end Whole

/-- Every file, be it an input or not, holds after a run what it held before, unless the path of the
listing or of a header that was written leads to it. This is so in both modes, and also if the run
fails.
-/
theorem run_keeps_files {inputs : List Path} {options : Options} {settings : Settings}
    {now : Moment} {files : FileSystem} {path : Path} {content : ByteArray}
    (held : files.read path = .ok content)
    : let outcome := run inputs options settings now files
      (∀ output ∈ options.listPath.toList ++ outcome.announced,
        outcome.files.locate output ≠ outcome.files.locate path) →
          outcome.files.read path = .ok content :=
  (changesWithin_run inputs options settings now files).read held

/-- The second input survives, although the listing is written over the first one. -/
theorem run_keeps_files_beside_listing
    : let first : Path := ⟨"", ["a.dat"]⟩
      let second : Path := ⟨"", ["b.dat"]⟩
      let outcome :=
        run [first, second] { listPath := some first } {} { date := ⟨2024, 1, 31⟩ } sameNames
      outcome.result
        = .ok {
          files := ["a.dat", "b.dat"], groups := [.ofGroup "b.dat" secondNamed]
          listPath := some "a.dat", listed := 2 }
      ∧ outcome.files.read first = .ok "g_B = 1\ng_C = 2\n".toUTF8
      ∧ sameNames.read second = .ok "g = 2 \"\" \x7b\nB y\nC z\n\x7d\n".toUTF8
      ∧ outcome.files.read second = .ok "g = 2 \"\" \x7b\nB y\nC z\n\x7d\n".toUTF8 := by
  intro first second outcome
  have held : sameNames.read second = .ok "g = 2 \"\" \x7b\nB y\nC z\n\x7d\n".toUTF8 := by cbv
  have ended : outcome = {
      files := ⟨(["a.dat"], .file "g_B = 1\ng_C = 2\n".toUTF8) :: (["a.dat"], .file .empty)
        :: sameNames.nodes⟩
      result := .ok {
        files := ["a.dat", "b.dat"], groups := [.ofGroup "b.dat" secondNamed]
        listPath := some "a.dat", listed := 2 } } := by
    simp only [outcome]
    cbv
  have apart : ∀ output ∈ (some first).toList ++ outcome.announced,
      outcome.files.locate output ≠ outcome.files.locate second := by
    have kept : KeepsDirectories sameNames outcome.files := (changesWithin_run ..).directories
    have leads : sameNames.locate first = .ok ["a.dat"] := by cbv
    have leads' : sameNames.locate second = .ok ["b.dat"] := by cbv
    simp [show outcome.announced = [] by rw [ended], kept.locate leads, kept.locate leads']
  exact ⟨by rw [ended], by rw [ended]; cbv, held, run_keeps_files held apart⟩

/-- An input that has the name of the header of its group. -/
def namedAsHeader : FileSystem :=
  ⟨[(["g-error-def-gen.h"], .file "g=1\"\"\x7b\nA\n\x7d".toUTF8)]⟩

/-- The group of that input. -/
def headedGroup : Group := {
  name := "g", base := 1, source := some "g-error-def-gen.h", line := 1
  entries := [⟨"A", "", 2⟩] }

/-- The session that is to write the header over its input. -/
def headedSession : Session where
  options := { macros := true }
  settings := { timestamp := some "now" }
  timestamp := "now"
  files := namedAsHeader

theorem locate_namedAsHeader
    : namedAsHeader.locate ⟨"", ["g-error-def-gen.h"]⟩ = .ok ["g-error-def-gen.h"] :=
  locate_name (by simp) (by decide) (by simp)

theorem read_namedAsHeader
    : namedAsHeader.read ⟨"", ["g-error-def-gen.h"]⟩
      = .ok "g=1\"\"\x7b\nA\n\x7d".toUTF8 :=
  read_eq_ok_iff.mpr ⟨_, locate_namedAsHeader, rfl⟩

/-- The header is written over the input that its group was read from. -/
theorem processFile_headedSession
    : ∃ next, headedSession.processFile ⟨"", ["g-error-def-gen.h"]⟩ = (next, .ok ())
      ∧ next.writer = none ∧ next.replaced = []
      ∧ next.files.read ⟨"", ["g-error-def-gen.h"]⟩
        = .ok (Product.text headedSession.settings "now"
          ⟨"g-error-def-gen.h", headedGroup, .macros⟩).toUTF8 := by
  have starts : headedSession.StartsHeaders := ⟨rfl, rfl, rfl, ⟨"now", rfl⟩, by decide⟩
  have parsed : parseText (some "g-error-def-gen.h") (fileText "g=1\"\"\x7b\nA\n\x7d")
      = .ok [headedGroup] := by
    cbv
  have loaded : load headedSession.files ⟨"", ["g-error-def-gen.h"]⟩ = .ok [headedGroup] :=
    load_eq_ok_iff.mpr ⟨_, read_namedAsHeader, parsed⟩
  have made : headedSession.files.ensureDirectory {} = (headedSession.files, .ok ()) := by cbv
  have target : headedSession.files.target ⟨"", ["g-error-def-gen.h"]⟩
      = .ok ["g-error-def-gen.h"] := by
    have stands : namedAsHeader.node? ["g-error-def-gen.h"]
        = some (.file "g=1\"\"\x7b\nA\n\x7d".toUTF8) :=
      rfl
    exact target_eq_ok_iff.mpr ⟨locate_namedAsHeader, by simp [stands, headedSession]⟩
  have fits : ∀ product ∈ [headedGroup].flatMap
      (groupProducts headedSession.options.artifacts "g-error-def-gen.h"),
      headedSession.CanWrite [] product := by
    intro product member
    obtain rfl : product = ⟨"g-error-def-gen.h", headedGroup, .macros⟩ :=
      List.mem_singleton.mp member
    exact ⟨by decide, ["g-error-def-gen.h"], ⟨_, made, target⟩, by simp⟩
  obtain ⟨reached, processed, -⟩ :=
    (Session.Ready.refl headedSession []).processGroups starts fits
  have passed := Session.processFile_of_ok loaded processed
  obtain ⟨_, _, -, -, advances, whole⟩ :=
    Session.fills_processFile starts.writer ⟨"", ["g-error-def-gen.h"]⟩
  rw [passed] at advances whole
  obtain ⟨rfl, rfl⟩ := whole rfl
  have found : headedSession.yield ⟨"", ["g-error-def-gen.h"]⟩
      = [("g-error-def-gen.h", headedGroup)] := by
    rw [Session.yield, loaded]
    rfl
  have headers : headedSession.allHeaders [("g-error-def-gen.h", headedGroup)]
      = [] ++ headedSession.writeOf ⟨"g-error-def-gen.h", headedGroup, .macros⟩ :: [] := by
    rw [Session.allHeaders, List.flatMap_singleton]
    exact starts.headers_eq (by simpa using fits)
  rw [found] at advances
  exact ⟨_, passed, advances.writer, advances.replaced, advances.files.read headers (by simp)⟩

/-- A header is not the text of that input, which has no directive. -/
theorem text_ne_headed (settings : Settings) (timestamp : String) (product : Product)
    : product.text settings timestamp ≠ "g=1\"\"\x7b\nA\n\x7d" := by
  intro same
  have directive : '#' ∈ (product.text settings timestamp).toList := by
    simp [Product.text, Artifact.render, footer]
  rw [same] at directive
  revert directive
  decide

/-- Runs that succeed and do not leave their input as it was: one whose listing goes to its input,
and one whose input is where a header goes to.
-/
theorem run_overwrites_inputs
    : let now : Moment := { date := ⟨2024, 1, 31⟩ }
      let codes : Path := ⟨"", ["a"]⟩
      let header : Path := ⟨"", ["g-error-def-gen.h"]⟩
      let listed := run [codes] { listPath := some codes } {} now oneCode.files
      let generated := run [header] { macros := true } { timestamp := some "now" } now namedAsHeader
      (listed.result = .ok { files := ["a"], listPath := some "a" }
        ∧ oneCode.files.read codes = .ok "g=1\"\"\x7b\nA\n\x7d".toUTF8
        ∧ listed.files.read codes = .ok .empty)
      ∧ (∃ summary, generated.result = .ok summary)
      ∧ namedAsHeader.read header = .ok "g=1\"\"\x7b\nA\n\x7d".toUTF8
      ∧ generated.files.read header ≠ .ok "g=1\"\"\x7b\nA\n\x7d".toUTF8 := by
  intro now codes header listed generated
  obtain ⟨next, processed, writes, replaced, held⟩ := processFile_headedSession
  have ended : generated = .of next (.ok ()) := by
    have opens : Opens headedSession.options headedSession.settings now namedAsHeader
        headedSession :=
      opens_headers rfl ⟨.macros, rfl⟩ headedSession.settings now namedAsHeader
    have whole := run_of_opens opens (List.cons_ne_nil header [])
    rw [Session.forEach, processed] at whole
    exact whole
  have left : generated.files.read header = .ok (Product.text headedSession.settings "now"
      ⟨"g-error-def-gen.h", headedGroup, .macros⟩).toUTF8 := by
    rw [ended]
    exact (congrArg (FileSystem.read · header) (Session.files_exit_of_no_writer writes
      replaced)).trans held
  refine ⟨?_, ⟨next.exit.summary, by rw [ended]; rfl⟩, read_namedAsHeader, ?_⟩
  · simp only [listed, codes]
    exact ⟨by cbv, by cbv, by cbv⟩
  · rw [left]
    intro same
    exact text_ne_headed _ _ _ (String.toByteArray_inj.mp (Except.ok.inj same))

end ErrorTables.Run
