import ErrorTables.Proofs.FileSystem.Changes
import ErrorTables.Proofs.Listing.Writing
import ErrorTables.Proofs.Run.Steps
import Mathlib.Data.List.Induction

/-! Sessions of listings, which may be entered and left again and again. A session rests or lists;
while it lists, its sink holds the lines of the groups that were found since it was entered, and
leaving it puts them into the file of the listing.
-/

namespace ErrorTables.Run

open Definition FileSystem Header
open Listing (listingText symbols Writer)

-----------------------------------------------------------------------------------------
-- Steps
-----------------------------------------------------------------------------------------

/-- What is done with a session, or to the files in the meantime. -/
inductive Step where
  | enter
  | process (path : Path)
  | exit
  | change (files : FileSystem)

namespace Session

/-- The session after a step, whether or not the step fails. -/
def perform (session : Session) : Step → Session
  | .enter => session.enter.1
  | .process path => (session.processFile path).1
  | .exit => session.exit
  | .change files => { session with files }

/-- The session after steps. A step that fails does not keep the others from being done. -/
def performAll (session : Session) (steps : List Step) : Session :=
  steps.foldl perform session

@[simp]
theorem performAll_nil (session : Session) : session.performAll [] = session := rfl

@[simp]
theorem performAll_cons (session : Session) (step : Step) (rest : List Step)
    : session.performAll (step :: rest) = (session.perform step).performAll rest := rfl

@[simp]
theorem performAll_append (session : Session) (first second : List Step)
    : session.performAll (first ++ second) = (session.performAll first).performAll second :=
  List.foldl_append

/-- The groups that an input yields, each with its source; none if the input cannot be loaded. -/
def yield (session : Session) (path : Path) : List (String × Group) :=
  match load session.files path with
  | .ok groups => groups.map (path.toString, ·)
  | .error _ => []

/-- The groups that the inputs of steps yield, in their order. -/
def found (session : Session) : List Step → List (String × Group)
  | [] => []
  | .process path :: rest => session.yield path ++ found (session.perform (.process path)) rest
  | step :: rest => found (session.perform step) rest

end Session

/-- A session is left before it is entered anew. -/
def Alternating (steps : List Step) : Prop :=
  ∀ before during after, steps = before ++ .enter :: (during ++ .enter :: after) → .exit ∈ during

/-- The path leads to where it led before, with the same at that place. -/
def Untouched (path : Path) (files changed : FileSystem) : Prop :=
  ∀ location, files.locate path = .ok location →
    changed.locate path = .ok location ∧ changed.node? location = files.node? location

/-- All changes of the files between the steps leave the path untouched. -/
def Session.LeftAlone (path : Path) (session : Session) (steps : List Step) : Prop :=
  ∀ before changed after, steps = before ++ .change changed :: after →
    Untouched path (session.performAll before).files changed

-----------------------------------------------------------------------------------------
-- What holds between the steps
-----------------------------------------------------------------------------------------

namespace Session

/-- A session that is to write a listing and has not written a header. -/
structure WritesNoHeader (path : Path) (session : Session) : Prop where
  listPath : session.options.listPath = some path
  announced : session.announced = []
  written : session.summary.written = []

/-- All sinks that the lines of the session go to or have gone to. -/
def sinks (session : Session) : List Sink :=
  (session.writer.map (·.stream)).toList ++ session.replaced

/-- No sink of the session is open. -/
structure Rests (path : Path) (session : Session) : Prop extends WritesNoHeader path session where
  closed : ∀ sink ∈ session.sinks, sink = .closed

/-- The session has an empty file open and lists symbols for it. -/
structure Lists (path : Path) (location : Location) (symbols : List String) (session : Session)
    : Prop extends WritesNoHeader path session where
  leads : session.files.locate path = .ok location
  stands : session.files.node? location = some (.file .empty)
  writer : session.writer = some ⟨.file location (listingText 1 symbols), 1 + symbols.length⟩
  replaced : ∀ sink ∈ session.replaced, sink = .closed

/-- The session rests, and its last listing is of the symbols. -/
structure HasListed (path : Path) (symbols : List String) (session : Session)
    : Prop extends Rests path session where
  holds : session.files.read path = .ok (listingText 1 symbols).toUTF8
  numbered : session.writer = some ⟨.closed, 1 + symbols.length⟩
  listed : session.summary.listed = symbols.length

/-- Two sessions differ in what they record of inputs at most. -/
structure SameButRecords (before after : Session) : Prop where
  options : after.options = before.options
  files : after.files = before.files
  writer : after.writer = before.writer
  replaced : after.replaced = before.replaced
  announced : after.announced = before.announced
  written : after.summary.written = before.summary.written
  listed : after.summary.listed = before.summary.listed

section Recording

variable {before between after session : Session} {path : Path} {symbols : List String}

theorem SameButRecords.refl (session : Session) : SameButRecords session session :=
  ⟨rfl, rfl, rfl, rfl, rfl, rfl, rfl⟩

theorem SameButRecords.trans (first : SameButRecords before between)
    (second : SameButRecords between after)
    : SameButRecords before after where
  options := second.options.trans first.options
  files := second.files.trans first.files
  writer := second.writer.trans first.writer
  replaced := second.replaced.trans first.replaced
  announced := second.announced.trans first.announced
  written := second.written.trans first.written
  listed := second.listed.trans first.listed

theorem Rests.of_same (h : Rests path before) (same : SameButRecords before after)
    : Rests path after where
  listPath := by rw [same.options]; exact h.listPath
  announced := by rw [same.announced]; exact h.announced
  written := by rw [same.written]; exact h.written
  closed := by rw [sinks, same.writer, same.replaced]; exact h.closed

theorem HasListed.of_same (h : HasListed path symbols before) (same : SameButRecords before after)
    : HasListed path symbols after where
  toRests := h.toRests.of_same same
  holds := by rw [same.files]; exact h.holds
  numbered := by rw [same.writer]; exact h.numbered
  listed := by rw [same.listed]; exact h.listed

end Recording

section Inputs

variable {session : Session} {path : Path} {location : Location} {symbols : List String}

/-- A run that writes a listing selects no header, whatever flags are set. -/
theorem WritesNoHeader.artifacts_eq_nil (h : WritesNoHeader path session)
    : session.options.artifacts = [] := by
  simp [Options.artifacts, Options.isListing, h.listPath]

/-- A writer whose stream is closed stays as it was. -/
theorem writeGroup_closed (writer : Writer Sink) (closed : writer.stream = .closed)
    (group : Group)
    : (writer.writeGroup Sink.stream group).1 = writer := by
  obtain ⟨stream, next⟩ := writer
  subst closed
  cases entries : group.entries with
  | nil => simp [Writer.writeGroup, Writer.writeEntries, entries]
  | cons entry rest =>
      simp [Writer.writeGroup, Writer.writeEntries, entries, Sink.stream, Sink.write]

/-- Without an open listing a group is recorded and nothing is written. -/
theorem Rests.processGroup (h : Rests path session) (source : String) (group : Group)
    : SameButRecords session (processGroup source session group).1 := by
  cases writes : session.writer with
  | none =>
      rw [processGroup_of_no_writer writes, h.artifacts_eq_nil]
      exact ⟨rfl, rfl, rfl, rfl, rfl, rfl, rfl⟩
  | some writer =>
      have same := writeGroup_closed writer (h.closed _ (by simp [sinks, writes])) group
      rw [processGroup_of_writer writes]
      exact ⟨rfl, rfl, (congrArg some same).trans writes.symm, rfl, rfl, rfl, rfl⟩

/-- Without an open listing an input is recorded at most. -/
theorem Rests.processFile (h : Rests path session) (input : Path)
    : SameButRecords session (session.processFile input).1 := by
  cases loaded : load session.files input with
  | error problem =>
      rw [processFile_of_load_error loaded]
      exact .refl session
  | ok groups =>
      have kept : SameButRecords session
          (forEach (Session.processGroup input.toString) session groups).1 := by
        refine forEach_preserves ?_ (.refl session)
        intro reached group same
        exact same.trans ((h.of_same same).processGroup input.toString group)
      rcases done : forEach (Session.processGroup input.toString) session groups with
        ⟨reached, failure | _⟩
      · rw [done] at kept
        rw [processFile_of_failure loaded done]
        exact kept
      · rw [done] at kept
        rw [processFile_of_ok loaded done]
        exact kept.trans ⟨rfl, rfl, rfl, rfl, rfl, rfl, rfl⟩

/-- Sinks that are files accept every text. -/
theorem stream_accepts (location : Location)
    : Sink.stream.Accepts fun sink => ∃ text, sink = .file location text := by
  rintro _ more ⟨text, rfl⟩
  exact ⟨rfl, text ++ more, rfl⟩

/-- With an open listing a group is recorded and its lines are listed. -/
theorem Lists.processGroup (h : Lists path location symbols session) (source : String)
    (group : Group)
    : ∃ after, processGroup source session group = (after, .ok ())
      ∧ Lists path location (symbols ++ Listing.symbols [group]) after
      ∧ after.files = session.files
      ∧ after.summary.groups = session.summary.groups ++ [.ofGroup source group] := by
  have start : Writer.Extends Sink.stream (fun sink => ∃ text, sink = .file location text)
      ⟨.file location "", 1⟩ symbols ⟨.file location (listingText 1 symbols), 1 + symbols.length⟩ :=
    ⟨⟨_, rfl⟩, (String.empty_append).symm, rfl⟩
  obtain ⟨⟨sink, next⟩, written, more⟩ :=
    Writer.writeGroup_extends (stream_accepts location) group start.opened
  have whole := start.trans more
  obtain ⟨text, rfl⟩ := whole.opened
  obtain rfl : text = listingText 1 (symbols ++ Listing.symbols [group]) :=
    whole.content.trans String.empty_append
  obtain rfl : next = 1 + (symbols ++ Listing.symbols [group]).length := whole.next
  refine ⟨{ session.record source group with writer := some ⟨.file location _, _⟩ }, ?_,
    ⟨⟨h.listPath, h.announced, h.written⟩, h.leads, h.stands, rfl, h.replaced⟩, rfl, rfl⟩
  rw [processGroup_of_writer h.writer, list, written]
  rfl

/-- With an open listing the groups of an input are recorded and their lines are listed. -/
theorem Lists.processGroups (h : Lists path location symbols session) (source : String)
    (groups : List Group)
    : ∃ after, forEach (Session.processGroup source) session groups = (after, .ok ())
      ∧ Lists path location (symbols ++ Listing.symbols groups) after
      ∧ after.files = session.files
      ∧ after.summary.groups
        = session.summary.groups ++ groups.map (GroupRecord.ofGroup source) := by
  induction groups generalizing session symbols with
  | nil => exact ⟨session, rfl, by simpa using h, rfl, by simp⟩
  | cons group rest ih =>
      obtain ⟨between, first, lists, files, records⟩ := h.processGroup source group
      obtain ⟨after, others, lists', files', records'⟩ := ih lists
      refine ⟨after, ?_, ?_, files'.trans files, ?_⟩
      · rw [forEach, first]
        exact others
      · simpa using lists'
      · rw [records', records]
        simp

/-- With an open listing the groups that an input yields are recorded and listed. -/
theorem Lists.processFile (h : Lists path location symbols session) (input : Path)
    : let after := (session.processFile input).1
      let found := session.yield input
      Lists path location (symbols ++ Listing.symbols (found.map (·.2))) after
      ∧ after.files = session.files
      ∧ after.summary.groups = session.summary.groups
        ++ found.map fun (source, group) => GroupRecord.ofGroup source group := by
  cases loaded : load session.files input with
  | error problem =>
      have nothing : session.yield input = [] := by rw [yield, loaded]
      rw [processFile_of_load_error loaded, nothing]
      exact ⟨by simpa using h, rfl, by simp⟩
  | ok groups =>
      have found : session.yield input = groups.map (input.toString, ·) := by rw [yield, loaded]
      obtain ⟨after, done, lists, files, records⟩ := h.processGroups input.toString groups
      rw [processFile_of_ok loaded done, found]
      simp only [List.map_map, Function.comp_def, List.map_id']
      exact ⟨⟨⟨lists.listPath, lists.announced, lists.written⟩, lists.leads, lists.stands,
        lists.writer, lists.replaced⟩, files, records⟩

end Inputs

section Entering

variable {session : Session} {path : Path} {location : Location} {symbols : List String}

/-- Opening the listing empties the file at its path at most. -/
theorem changesWithin_openListing (session : Session) (path : Path)
    : ChangesWithin [path] session.files (session.openListing path).1.files := by
  have added := ensureDirectory_adds session.files path.parent
  rcases ensured : session.files.ensureDirectory path.parent with ⟨made, access | _⟩
  · rw [ensured] at added
    simp only [openListing, ensured]
    exact added.changesWithin.mono (List.nil_subset _)
  · rw [ensured] at added
    cases found : made.target path with
    | error error =>
        simp only [openListing, ensured, found]
        exact added.changesWithin.mono (List.nil_subset _)
    | ok location =>
        obtain ⟨leads, apart⟩ := target_eq_ok_iff.mp found
        simp only [openListing, ensured, found]
        exact added.changesWithin.trans (.put leads apart .empty)

theorem changesWithin_enter (session : Session)
    : ChangesWithin session.options.listPath.toList session.files session.enter.1.files := by
  cases listing : session.options.listPath with
  | none =>
      simp only [Session.enter, listing]
      exact .refl session.files
  | some path =>
      simp only [Session.enter, listing]
      exact changesWithin_openListing session path

/-- Filling a file that is open changes nothing else, whatever it holds by then. -/
theorem changesWithin_flush {files : FileSystem} (leads : files.locate path = .ok location)
    (apart : files.node? location ≠ some .directory) (text : String)
    : ChangesWithin [path] files (Sink.flush files (.file location text)) := by
  by_cases nothing : text.isEmpty
  · simp only [Sink.flush, nothing, if_true]
    exact (ChangesWithin.refl files).mono (List.nil_subset _)
  · simp only [Sink.flush, nothing]
    exact .put leads apart _

/-- Entering a session that rests opens the listing, or fails and leaves it resting. -/
theorem Rests.enter (h : Rests path session)
    : ∃ reached result, session.enter = (reached, result)
      ∧ ((∃ failure, result = .error failure ∧ Rests path reached)
        ∨ (result = .ok () ∧ ∃ location, Lists path location [] reached)) := by
  rcases ensured : session.files.ensureDirectory path.parent with ⟨made, access | _⟩
  · refine ⟨{ session with files := made }, _, ?_,
      .inl ⟨outputFailure .unopenable path access.error, rfl, ?_⟩⟩
    · simp only [Session.enter, h.listPath, openListing, ensured]
    · exact ⟨⟨h.listPath, h.announced, h.written⟩, h.closed⟩
  · cases found : made.target path with
    | error error =>
        refine ⟨{ session with files := made }, _, ?_,
          .inl ⟨outputFailure .unopenable path error, rfl, ?_⟩⟩
        · simp only [Session.enter, h.listPath, openListing, ensured, found]
        · exact ⟨⟨h.listPath, h.announced, h.written⟩, h.closed⟩
    | ok location =>
        obtain ⟨leads, apart⟩ := target_eq_ok_iff.mp found
        refine ⟨{ session.redirect (.file location "") with
          files := made.put location (.file .empty)
          summary := { session.summary with listPath := some path.toString } }, .ok (), ?_,
          .inr ⟨rfl, location, ?_⟩⟩
        · simp only [Session.enter, h.listPath, openListing, ensured, found]
        · exact ⟨⟨h.listPath, h.announced, h.written⟩, (KeepsDirectories.put apart).locate leads,
            node?_put_self apart _, rfl, h.closed⟩

/-- Sinks that are closed have nothing to put into a file. -/
theorem foldl_flush_closed {sinks : List Sink} (closed : ∀ sink ∈ sinks, sink = .closed)
    (files : FileSystem)
    : sinks.foldl Sink.flush files = files := by
  induction sinks with
  | nil => rfl
  | cons sink rest ih =>
      obtain ⟨rfl, others⟩ := List.forall_mem_cons.mp closed
      exact ih others

theorem Rests.exit (h : Rests path session)
    : Rests path session.exit ∧ session.exit.files = session.files := by
  refine ⟨⟨⟨h.listPath, h.announced, h.written⟩, ?_⟩, foldl_flush_closed h.closed _⟩
  intro sink member
  cases writes : session.writer with
  | none => simp [sinks, Session.exit, writes] at member
  | some writer =>
      have closed : writer.stream = .closed := h.closed _ (by simp [sinks, writes])
      obtain rfl : sink = writer.stream.close := by simpa [sinks, Session.exit, writes] using member
      rw [closed]
      rfl

/-- What a sink has received is all that its file holds, if the file was empty. -/
theorem flush_empty {files : FileSystem} (leads : files.locate path = .ok location)
    (stands : files.node? location = some (.file .empty)) (text : String)
    : (Sink.flush files (.file location text)).read path = .ok text.toUTF8 := by
  have apart : files.node? location ≠ some .directory := by simp [stands]
  by_cases nothing : text = ""
  · subst nothing
    exact read_eq_ok_iff.mpr ⟨location, leads, stands⟩
  · have flushed : Sink.flush files (.file location text)
        = files.put location (.file text.toUTF8) := by
      have filled : text.isEmpty = false := by simpa using nothing
      have rest : ByteArray.empty.extract text.toUTF8.size 0 = .empty := by
        simp [ByteArray.extract_eq_empty_iff]
      simp only [Sink.flush, filled, overwrite, stands, ByteArray.size_empty, rest,
        ByteArray.append_empty]
      rfl
    rw [flushed]
    exact read_put leads apart _

/-- Leaving a session fills the file of its listing, all other sinks being closed. -/
theorem Lists.files_exit (h : Lists path location symbols session)
    : session.exit.files
      = Sink.flush session.files (.file location (listingText 1 symbols)) := by
  simp only [Session.exit, h.writer, Option.map_some, Option.toList_some, List.cons_append,
    List.nil_append, List.foldl_cons]
  exact foldl_flush_closed h.replaced _

/-- Leaving a session puts the lines of its listing into the file. -/
theorem Lists.exit (h : Lists path location symbols session)
    : HasListed path symbols session.exit
      ∧ session.exit.summary.groups = session.summary.groups := by
  refine ⟨⟨⟨⟨h.listPath, h.announced, h.written⟩, ?_⟩, ?_, ?_, ?_⟩, rfl⟩
  · simp [sinks, Session.exit, h.writer, Sink.close]
  · rw [h.files_exit]
    exact flush_empty h.leads h.stands (listingText 1 symbols)
  · simp [Session.exit, h.writer, Sink.close]
  · simp [Session.exit, h.writer, Writer.written]

theorem Lists.changesWithin_exit (h : Lists path location symbols session)
    : ChangesWithin [path] session.files session.exit.files := by
  rw [h.files_exit]
  exact changesWithin_flush h.leads (by simp [h.stands]) _

/-- Leaving a session once more changes nothing about its listing. -/
theorem HasListed.exit (h : HasListed path symbols session)
    : HasListed path symbols session.exit where
  toRests := h.toRests.exit.1
  holds := by rw [h.toRests.exit.2]; exact h.holds
  numbered := by simp [Session.exit, h.numbered, Sink.close]
  listed := by simp [Session.exit, h.numbered, Writer.written]

end Entering

section Sequences

variable {session : Session} {path : Path} {location : Location} {symbols : List String}
variable {steps : List Step}

theorem LeftAlone.left {first second : List Step}
    (alone : session.LeftAlone path (first ++ second))
    : session.LeftAlone path first := by
  rintro before changed after rfl
  exact alone before changed (after ++ second) (by simp)

theorem LeftAlone.right {first second : List Step}
    (alone : session.LeftAlone path (first ++ second))
    : (session.performAll first).LeftAlone path second := by
  rintro before changed after rfl
  have untouched := alone (first ++ before) changed after (by simp)
  rwa [performAll_append] at untouched

theorem LeftAlone.tail {step : Step} {rest : List Step}
    (alone : session.LeftAlone path (step :: rest))
    : (session.perform step).LeftAlone path rest :=
  @LeftAlone.right session path [step] rest alone

theorem Lists.change {changed : FileSystem} (h : Lists path location symbols session)
    (untouched : Untouched path session.files changed)
    : Lists path location symbols (session.perform (.change changed)) := by
  obtain ⟨leads, same⟩ := untouched location h.leads
  exact ⟨⟨h.listPath, h.announced, h.written⟩, leads, same.trans h.stands, h.writer, h.replaced⟩

theorem HasListed.change {changed : FileSystem} (h : HasListed path symbols session)
    (untouched : Untouched path session.files changed)
    : HasListed path symbols (session.perform (.change changed)) := by
  obtain ⟨location, leads, stands⟩ := read_eq_ok_iff.mp h.holds
  obtain ⟨leads', same⟩ := untouched location leads
  exact ⟨⟨⟨h.listPath, h.announced, h.written⟩, h.closed⟩,
    read_eq_ok_iff.mpr ⟨location, leads', same.trans stands⟩, h.numbered, h.listed⟩

/-- Between being entered and left, a session records and lists what its inputs yield. -/
theorem Lists.performAll (h : Lists path location symbols session) (noEnter : .enter ∉ steps)
    (noExit : .exit ∉ steps) (alone : session.LeftAlone path steps)
    : let found := session.found steps
      let after := session.performAll steps
      Lists path location (symbols ++ Listing.symbols (found.map (·.2))) after
      ∧ after.summary.groups = session.summary.groups
        ++ found.map fun (source, group) => GroupRecord.ofGroup source group := by
  induction steps generalizing session symbols with
  | nil => exact ⟨by simpa [found] using h, by simp [found]⟩
  | cons step rest ih =>
      simp only [List.mem_cons, not_or] at noEnter noExit
      cases step with
      | enter => exact absurd rfl noEnter.1
      | exit => exact absurd rfl noExit.1
      | change changed =>
          exact ih (h.change (alone [] changed rest rfl)) noEnter.2 noExit.2 alone.tail
      | process input =>
          obtain ⟨lists, -, records⟩ := h.processFile input
          obtain ⟨lists', records'⟩ := ih lists noEnter.2 noExit.2 alone.tail
          refine ⟨?_, ?_⟩
          · simpa [found, perform] using lists'
          · rw [performAll_cons, perform, records', records]
            simp [found, perform]

/-- A session that is not entered anew keeps its last listing. -/
theorem HasListed.performAll (h : HasListed path symbols session) (noEnter : .enter ∉ steps)
    (alone : session.LeftAlone path steps)
    : HasListed path symbols (session.performAll steps) := by
  induction steps generalizing session with
  | nil => exact h
  | cons step rest ih =>
      simp only [List.mem_cons, not_or] at noEnter
      refine ih ?_ noEnter.2 alone.tail
      cases step with
      | enter => exact absurd rfl noEnter.1
      | exit => exact h.exit
      | change changed => exact h.change (alone [] changed rest rfl)
      | process input => exact h.of_same (h.toRests.processFile input)

/-- The last of the steps that enter or leave a session enters it. -/
def InSession (steps : List Step) : Prop :=
  ∃ before during, steps = before ++ .enter :: during ∧ .exit ∉ during

theorem InSession.append {step : Step} (h : InSession steps) (stays : step ≠ .exit)
    : InSession (steps ++ [step]) := by
  obtain ⟨before, during, rfl, noExit⟩ := h
  exact ⟨before, during ++ [step], by simp, by simpa using ⟨noExit, stays.symm⟩⟩

theorem not_inSession_of_enter (alternating : Alternating steps) {before after : List Step}
    (split : steps = before ++ .enter :: after)
    : ¬ InSession before := by
  rintro ⟨earlier, during, rfl, noExit⟩
  exact noExit (alternating earlier during after (by simpa using split))

/-- Before any step, a session rests, or it lists and has been entered and not been left. The
induction is on the steps done so far, the last one apart.
-/
theorem rests_or_lists (fresh : Rests path session) (alternating : Alternating steps)
    (alone : session.LeftAlone path steps) {before after : List Step}
    (split : steps = before ++ after)
    : Rests path (session.performAll before)
      ∨ (InSession before
        ∧ ∃ location symbols, Lists path location symbols (session.performAll before)) := by
  induction before using List.reverseRecOn generalizing after with
  | nil => exact .inl fresh
  | append_singleton before step ih =>
      rw [List.append_assoc] at split
      rw [performAll_append, performAll_cons, performAll_nil]
      rcases ih split with rests | ⟨entered, location, symbols, lists⟩
      · cases step with
        | enter =>
            obtain ⟨reached, result, entered, outcome⟩ := rests.enter
            rw [perform, entered]
            rcases outcome with ⟨-, -, still⟩ | ⟨-, location, opened⟩
            · exact .inl still
            · exact .inr ⟨⟨before, [], rfl, by simp⟩, location, [], opened⟩
        | process input => exact .inl (rests.of_same (rests.processFile input))
        | exit => exact .inl rests.exit.1
        | change changed =>
            exact .inl ⟨⟨rests.listPath, rests.announced, rests.written⟩, rests.closed⟩
      · cases step with
        | enter => exact absurd entered (not_inSession_of_enter alternating split)
        | process input =>
            exact .inr ⟨entered.append nofun, location, _, (lists.processFile input).1⟩
        | exit => exact .inl lists.exit.1.toRests
        | change changed =>
            have untouched := alone before changed after split
            exact .inr ⟨entered.append nofun, location, symbols, lists.change untouched⟩

/-- A step writes at most the file of the listing and makes directories. -/
theorem changesWithin_perform {step : Step}
    (h : Rests path session ∨ ∃ location symbols, Lists path location symbols session)
    (resting : step = .enter → Rests path session) (done : ∀ changed, step ≠ .change changed)
    : ChangesWithin [path] session.files (session.perform step).files := by
  have nothing : ChangesWithin [path] session.files session.files :=
    (ChangesWithin.refl session.files).mono (List.nil_subset _)
  cases step with
  | change changed => exact absurd rfl (done changed)
  | enter =>
      have changes := changesWithin_enter session
      rwa [(resting rfl).listPath] at changes
  | process input =>
      rcases h with rests | ⟨location, symbols, lists⟩
      · exact (rests.processFile input).files.symm ▸ nothing
      · exact (lists.processFile input).2.1.symm ▸ nothing
  | exit =>
      rcases h with rests | ⟨location, symbols, lists⟩
      · exact rests.exit.2.symm ▸ nothing
      · exact lists.changesWithin_exit

/-- Where a session is entered it rests. -/
theorem rests_of_enter (fresh : Rests path session) (alternating : Alternating steps)
    (alone : session.LeftAlone path steps) {before after : List Step}
    (split : steps = before ++ .enter :: after)
    : Rests path (session.performAll before) := by
  rcases rests_or_lists fresh alternating alone split with rests | ⟨entered, -⟩
  · exact rests
  · exact absurd entered (not_inSession_of_enter alternating split)

/-- A session that starts rests. -/
theorem rests_of_start {options : Options} {settings : Settings} {now : Moment}
    {files : FileSystem} (listing : options.listPath = some path)
    (started : Session.start options settings now files = .ok session)
    : Rests path session := by
  unfold Session.start at started
  cases valid : options.validate with
  | error error => simp [valid, Except.map] at started
  | ok _ =>
      simp only [valid, Except.map, Except.ok.injEq] at started
      subst started
      exact ⟨⟨listing, rfl, rfl⟩, by simp [sinks]⟩

/-- Entering a session records no group. -/
theorem groups_enter (session : Session)
    : session.enter.1.summary.groups = session.summary.groups := by
  unfold Session.enter
  split
  · unfold openListing
    split
    · rfl
    · split <;> rfl
  · rfl

end Sequences

end Session

/-- A run that is opened and lists begins with an empty listing. -/
theorem lists_of_opens {options : Options} {settings : Settings} {now : Moment}
    {files : FileSystem} {opened : Session} {path : Path} (listing : options.listPath = some path)
    (opens : Opens options settings now files opened)
    : opened.summary.groups = [] ∧ ∃ location, Session.Lists path location [] opened := by
  obtain ⟨fresh, started, entered⟩ := opens
  obtain ⟨reached, result, entered', outcome⟩ :=
    (Session.rests_of_start listing started).enter
  obtain ⟨rfl, rfl⟩ := Prod.mk.inj (entered.symm.trans entered')
  have groups := fresh.groups_enter
  rw [entered, Session.eq_of_start started] at groups
  exact ⟨groups, by simpa using outcome⟩

/-- Each time a session is left for which the listing was opened, the file holds one line for each
entry of the groups that were recorded since, numbered from one, and it does so until the session
is entered anew. No step writes anything else, whatever headers are selected.
-/
theorem listing_holds_session {options : Options} {settings : Settings} {now : Moment}
    {files : FileSystem} {session : Session} {path : Path} {steps : List Step}
    (listing : options.listPath = some path)
    (started : Session.start options settings now files = .ok session)
    (alternating : Alternating steps) (alone : session.LeftAlone path steps)
    : (∀ before during outside after opened,
        steps = before ++ .enter :: (during ++ .exit :: (outside ++ after)) →
        .exit ∉ during → .enter ∉ outside →
        (session.performAll before).enter = (opened, .ok ()) →
          let found := opened.found during
          let closed := opened.performAll (during ++ [.exit])
          let later := closed.performAll outside
          closed.summary.groups = opened.summary.groups
            ++ found.map (fun (source, group) => GroupRecord.ofGroup source group)
          ∧ later.files.read path = .ok (listingText 1 (symbols (found.map (·.2)))).toUTF8
          ∧ later.summary.listed = (symbols (found.map (·.2))).length)
      ∧ (∀ before step after, steps = before ++ step :: after →
        (∀ changed, step ≠ .change changed) →
          ChangesWithin [path] (session.performAll before).files
            ((session.performAll before).perform step).files)
      ∧ (session.performAll steps).announced = []
      ∧ (session.performAll steps).summary.written = [] := by
  have fresh := Session.rests_of_start listing started
  refine ⟨?_, ?_, ?_⟩
  · intro before during outside after opened split noExit noEnter entered found closed later
    have rests := Session.rests_of_enter fresh alternating alone split
    obtain ⟨reached, result, entered', outcome⟩ := rests.enter
    obtain ⟨rfl, rfl⟩ := Prod.mk.inj (entered.symm.trans entered')
    obtain ⟨location, lists⟩ : ∃ location, Session.Lists path location [] opened := by
      simpa using outcome
    have notAgain : .enter ∉ during := by
      intro member
      obtain ⟨first, second, rfl⟩ := List.append_of_mem member
      exact noExit (List.mem_append_left _ (alternating before first _ (by simpa using split)))
    have reach : session.performAll (before ++ [.enter]) = opened := by
      rw [Session.performAll_append, Session.performAll_cons, Session.perform, entered]
      rfl
    have alone' : opened.LeftAlone path (during ++ [.exit] ++ (outside ++ after)) := by
      rw [← reach]
      apply Session.LeftAlone.right
      rw [split] at alone
      simpa using alone
    obtain ⟨lists', records⟩ := lists.performAll notAgain noExit alone'.left.left
    obtain ⟨listed, kept⟩ := lists'.exit
    have left : closed = (opened.performAll during).exit := Session.performAll_append ..
    rw [← left] at listed kept
    have still := listed.performAll noEnter alone'.right.left
    exact ⟨kept.trans records, still.holds, still.listed⟩
  · intro before step after split done
    refine Session.changesWithin_perform ?_ ?_ done
    · exact (Session.rests_or_lists fresh alternating alone split).imp id And.right
    · rintro rfl
      exact Session.rests_of_enter fresh alternating alone split
  · rcases Session.rests_or_lists fresh alternating alone (List.append_nil steps).symm with
      rests | ⟨_, _, _, lists⟩
    · exact ⟨rests.announced, rests.written⟩
    · exact ⟨lists.announced, lists.written⟩

/-- A session that can find one code, in one of its inputs. -/
def oneCode : Session where
  options := { macros := true, listPath := some ⟨"", ["codes"]⟩ }
  settings := { timestamp := some "now" }
  timestamp := "now"
  files := ⟨[(["a"], .file "g=1\"\"\x7b\nA\n\x7d".toUTF8)]⟩

/-- The group of that code. -/
def oneGroup : Group :=
  { name := "g", base := 1, source := some "a", line := 1, entries := [⟨"A", "", 2⟩] }

/-- The code is listed as the first one of the second listing, although it was recorded before that
listing was opened, too.
-/
theorem listing_holds_second_session
    : let before : List Step := [.enter, .process ⟨"", ["a"]⟩, .exit, .process ⟨"", ["a"]⟩]
      let during : List Step := [.process ⟨"", ["b"]⟩, .process ⟨"", ["a"]⟩]
      let steps := before ++ .enter :: (during ++ .exit :: ([] ++ []))
      let opened := (oneCode.performAll before).enter.1
      let closed := opened.performAll (during ++ [.exit])
      Alternating steps ∧ oneCode.LeftAlone ⟨"", ["codes"]⟩ steps
      ∧ (oneCode.performAll before).enter.2 = .ok ()
      ∧ opened.summary.groups.length = 2 ∧ closed.summary.groups.length = 3
      ∧ closed.files.read ⟨"", ["codes"]⟩ = .ok "g_A = 1\n".toUTF8
      ∧ closed.summary.listed = 1
      ∧ (oneCode.performAll steps).summary.written = [] := by
  intro before during steps opened closed
  have alternating : Alternating steps := by
    intro first middle last split
    obtain ⟨-, rfl, -⟩ : first = [] ∧ middle = [.process ⟨"", ["a"]⟩, .exit, .process ⟨"", ["a"]⟩]
        ∧ last = during ++ [.exit] := by
      simpa [steps, before, during, List.cons_eq_append_iff, List.append_eq_cons_iff] using split
    simp
  have alone : oneCode.LeftAlone ⟨"", ["codes"]⟩ steps := by
    intro first changed last split
    have member : .change changed ∈ steps := by simp [split]
    simp [steps, before, during] at member
  have entered : (oneCode.performAll before).enter.2 = .ok () := by cbv
  have recorded : (oneCode.performAll before).enter.1.summary.groups.length = 2 := by cbv
  have found : (oneCode.performAll before).enter.1.found during = [("a", oneGroup)] := by cbv
  have started : Session.start oneCode.options oneCode.settings { date := ⟨2024, 1, 31⟩ }
      oneCode.files = .ok oneCode := rfl
  obtain ⟨sessions, -, -, written⟩ := listing_holds_session rfl started alternating alone
  obtain ⟨groups, holds, listed⟩ := sessions before during [] [] opened rfl (by simp [during])
    (by simp) (Prod.ext rfl entered)
  rw [found] at groups holds listed
  refine ⟨alternating, alone, entered, recorded, ?_, holds, listed, written⟩
  rw [groups, List.length_append, recorded]
  rfl

end ErrorTables.Run
