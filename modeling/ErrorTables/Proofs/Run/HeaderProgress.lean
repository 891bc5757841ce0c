import ErrorTables.Proofs.FileSystem.Changes
import ErrorTables.Proofs.Run.ListingSession

/-! How far a session that writes headers comes. It records groups and writes their headers one
after the other, whatever their paths lead to; a failure cuts this short and leaves what was done.
-/

namespace ErrorTables.Run

open Definition FileSystem Header

namespace Session

-----------------------------------------------------------------------------------------
-- What is done
-----------------------------------------------------------------------------------------

/-- The headers of a group from a source, each a text and the path that it is written to. -/
def headers (session : Session) (source : String) (group : Group) : List (Path × String) :=
  session.options.artifacts.map fun artifact =>
    (session.headerPath artifact group, session.headerText source artifact group)

/-- The headers of groups from sources, in the order in which they are written. -/
def allHeaders (session : Session) (found : List (String × Group)) : List (Path × String) :=
  found.flatMap fun (source, group) => session.headers source group

/-- The records of groups from sources. -/
def recordsOf (found : List (String × Group)) : List GroupRecord :=
  found.map fun (source, group) => .ofGroup source group

/-- The second session is the first one after it has recorded groups and has written and announced
headers.
-/
structure Advances (before : Session) (groups : List GroupRecord) (writes : List (Path × String))
    (after : Session)
    : Prop where
  options : after.options = before.options
  settings : after.settings = before.settings
  timestamp : after.timestamp = before.timestamp
  writer : after.writer = before.writer
  replaced : after.replaced = before.replaced
  groups : after.summary.groups = before.summary.groups ++ groups
  written : after.summary.written = before.summary.written ++ writes.map (·.1.toString)
  announced : after.announced = before.announced ++ writes.map (·.1)
  files : Receives before.files writes after.files

/-- What a step leaves behind that is to record groups and to write headers: it has done so if it
succeeds, and else has come to a point in between.
-/
def Fills (groups : List GroupRecord) (writes : List (Path × String)) (before : Session)
    (outcome : Session × Except Failure Unit)
    : Prop :=
  ∃ recorded done, recorded <+: groups ∧ done <+: writes ∧ Advances before recorded done outcome.1
    ∧ (outcome.2 = .ok () → recorded = groups ∧ done = writes)

section Composition

variable {before between after : Session} {outcome : Session × Except Failure Unit}
variable {groups groups' : List GroupRecord} {writes writes' : List (Path × String)}

theorem recordsOf_append (found others : List (String × Group))
    : recordsOf (found ++ others) = recordsOf found ++ recordsOf others :=
  List.map_append

theorem allHeaders_append (session : Session) (found others : List (String × Group))
    : session.allHeaders (found ++ others)
      = session.allHeaders found ++ session.allHeaders others :=
  List.flatMap_append

theorem Advances.refl (session : Session) : Advances session [] [] session :=
  ⟨rfl, rfl, rfl, rfl, rfl, by simp, by simp, by simp, .refl session.files⟩

theorem Advances.trans (first : Advances before groups writes between)
    (second : Advances between groups' writes' after)
    : Advances before (groups ++ groups') (writes ++ writes') after where
  options := second.options.trans first.options
  settings := second.settings.trans first.settings
  timestamp := second.timestamp.trans first.timestamp
  writer := second.writer.trans first.writer
  replaced := second.replaced.trans first.replaced
  groups := by rw [second.groups, first.groups, List.append_assoc]
  written := by rw [second.written, first.written, List.map_append, List.append_assoc]
  announced := by rw [second.announced, first.announced, List.map_append, List.append_assoc]
  files := first.files.trans second.files

/-- Headers do not depend on what was done before. -/
theorem Advances.headers_eq (h : Advances before groups writes after) (source : String)
    (group : Group)
    : after.headers source group = before.headers source group := by
  simp only [headers, headerPath, headerText, h.options, h.settings, h.timestamp]

theorem Advances.allHeaders_eq (h : Advances before groups writes after)
    (found : List (String × Group))
    : after.allHeaders found = before.allHeaders found := by
  simp only [allHeaders, h.headers_eq]

theorem Advances.fills (h : Advances before groups writes after) (result : Except Failure Unit)
    : Fills groups writes before (after, result) :=
  ⟨groups, writes, List.prefix_rfl, List.prefix_rfl, h, fun _ => ⟨rfl, rfl⟩⟩

/-- A step fills up what was done before it. -/
theorem Advances.then_fills (first : Advances before groups writes between)
    (second : Fills groups' writes' between outcome)
    : Fills (groups ++ groups') (writes ++ writes') before outcome := by
  obtain ⟨recorded, done, reached, reached', advances, whole⟩ := second
  refine ⟨groups ++ recorded, writes ++ done, (List.prefix_append_right_inj _).mpr reached,
    (List.prefix_append_right_inj _).mpr reached', first.trans advances, fun ok => ?_⟩
  obtain ⟨rfl, rfl⟩ := whole ok
  exact ⟨rfl, rfl⟩

/-- What is counted afterwards makes no difference. -/
theorem Fills.then_advances {result : Except Failure Unit}
    (first : Fills groups writes before (between, result)) (second : Advances between [] [] after)
    : Fills groups writes before (after, result) := by
  obtain ⟨recorded, done, reached, reached', advances, whole⟩ := first
  exact ⟨recorded, done, reached, reached', by simpa using advances.trans second, whole⟩

end Composition

section Steps

variable {α : Type} {step : Session → α → Session × Except Failure Unit} {start : Session}
variable {groups groups' : List GroupRecord} {writes writes' : List (Path × String)}

/-- A step and the steps behind it, which are done only if it succeeds. -/
theorem Fills.cons {item : α} {rest : List α} (first : Fills groups writes start (step start item))
    (others : ∀ next, step start item = (next, .ok ()) → Advances start groups writes next →
      Fills groups' writes' next (forEach step next rest))
    : Fills (groups ++ groups') (writes ++ writes') start (forEach step start (item :: rest)) := by
  obtain ⟨recorded, done, reached, reached', advances, whole⟩ := first
  rw [forEach]
  rcases stepped : step start item with ⟨next, failure | _⟩
  · rw [stepped] at advances
    exact ⟨recorded, done, reached.trans (List.prefix_append ..),
      reached'.trans (List.prefix_append ..), advances, by simp⟩
  · obtain ⟨rfl, rfl⟩ := whole (by rw [stepped])
    rw [stepped] at advances
    exact advances.then_fills (others next stepped advances)

/-- Steps that each record groups and write headers do so together, by induction on the items. -/
theorem Fills.forEach {groups : α → List GroupRecord} {writes : α → List (Path × String)}
    (items : List α)
    (each : ∀ recorded done session item, Advances start recorded done session →
      Fills (groups item) (writes item) session (step session item))
    : Fills (items.flatMap groups) (items.flatMap writes) start (forEach step start items) := by
  induction items generalizing start with
  | nil => exact (Advances.refl start).fills _
  | cons item rest ih =>
      rw [List.flatMap_cons, List.flatMap_cons]
      refine (each [] [] start item (.refl start)).cons fun next _ advances => ih ?_
      intro recorded done session item advances'
      exact each _ _ session item (advances.trans advances')

end Steps

section Inputs

variable {session : Session}

/-- A header is written and announced, or it is refused and directories are made at most. -/
theorem writeHeader_cases (session : Session) (source : String) (group : Group)
    (artifact : Artifact)
    : let path := session.headerPath artifact group
      let text := session.headerText source artifact group
      (∃ next, session.writeHeader source group artifact = (next, .ok ())
        ∧ Advances session [] [(path, text)] next)
      ∨ ∃ next access, (session.files.writeDeep path text.toUTF8).2 = .error access
        ∧ session.writeHeader source group artifact
          = (next, .error (outputFailure .unwritable path access.error))
        ∧ Advances session [] [] next := by
  intro path text
  rcases writeDeep_spec session.files path text with ⟨after, wrote, receives⟩
    | ⟨after, access, refused, receives⟩
  · left
    simp only [writeHeader, path, text, wrote]
    refine ⟨_, rfl, ?_⟩
    exact ⟨rfl, rfl, rfl, rfl, rfl, (List.append_nil _).symm, rfl, rfl, receives⟩
  · right
    simp only [writeHeader, path, text, refused]
    refine ⟨_, access, rfl, rfl, ?_⟩
    exact ⟨rfl, rfl, rfl, rfl, rfl, (List.append_nil _).symm, (List.append_nil _).symm,
      (List.append_nil _).symm, receives⟩

theorem fills_writeHeader (session : Session) (source : String) (group : Group)
    (artifact : Artifact)
    : Fills [] [(session.headerPath artifact group, session.headerText source artifact group)]
      session (session.writeHeader source group artifact) := by
  rcases session.writeHeader_cases source group artifact with ⟨next, wrote, advances⟩
    | ⟨next, access, -, refused, advances⟩
  · rw [wrote]
    exact advances.fills _
  · rw [refused]
    exact ⟨[], [], List.prefix_rfl, List.nil_prefix, advances, nofun⟩

/-- Headers are those of the session at the start, whatever was recorded and written since. -/
theorem Advances.fills_writeHeader {reached : Session} {groups : List GroupRecord}
    {writes : List (Path × String)} (h : Advances session groups writes reached) (source : String)
    (group : Group) (artifact : Artifact)
    : Fills [] [(session.headerPath artifact group, session.headerText source artifact group)]
      reached (reached.writeHeader source group artifact) := by
  have wrote := Session.fills_writeHeader reached source group artifact
  simp only [headerPath, headerText, h.options, h.settings, h.timestamp] at wrote
  exact wrote

theorem advances_record (session : Session) (source : String) (group : Group)
    : Advances session [.ofGroup source group] [] (session.record source group) :=
  ⟨rfl, rfl, rfl, rfl, rfl, rfl, by simp [record], by simp [record], .refl session.files⟩

/-- A group is recorded before the first of its headers is written. -/
theorem fills_processGroup (writes : session.writer = none) (source : String) (group : Group)
    : Fills [.ofGroup source group] (session.headers source group) session
      (processGroup source session group) := by
  have recorded := advances_record session source group
  have each : ∀ groups writes reached artifact,
      Advances (session.record source group) groups writes reached →
      Fills [] [(session.headerPath artifact group, session.headerText source artifact group)]
        reached (reached.writeHeader source group artifact) :=
    fun groups writes reached artifact advances => advances.fills_writeHeader source group artifact
  have whole := recorded.then_fills (Fills.forEach (session.options.artifacts) each)
  have nothing : session.options.artifacts.flatMap (fun _ => ([] : List GroupRecord)) = [] := by
    simp
  rw [processGroup_of_no_writer writes, headers, List.map_eq_flatMap]
  rwa [nothing] at whole

theorem Advances.fills_processGroup {reached : Session} {groups : List GroupRecord}
    {written : List (Path × String)} (h : Advances session groups written reached)
    (writes : session.writer = none) (source : String) (group : Group)
    : Fills [.ofGroup source group] (session.headers source group) reached
      (Session.processGroup source reached group) := by
  rw [← h.headers_eq]
  exact Session.fills_processGroup (h.writer.trans writes) source group

/-- The groups of an input are recorded and their headers are written, if the input can be loaded.
-/
theorem fills_processFile (writes : session.writer = none) (path : Path)
    : Fills (recordsOf (session.yield path)) (session.allHeaders (session.yield path)) session
      (session.processFile path) := by
  cases loaded : load session.files path with
  | error problem =>
      rw [processFile_of_load_error loaded, yield, loaded]
      exact (Advances.refl session).fills _
  | ok groups =>
      have each : ∀ recorded done reached group, Advances session recorded done reached →
          Fills [.ofGroup path.toString group] (session.headers path.toString group) reached
            (processGroup path.toString reached group) :=
        fun recorded done reached group advances => advances.fills_processGroup writes _ group
      have whole := Fills.forEach groups each
      have found : session.yield path = groups.map (path.toString, ·) := by rw [yield, loaded]
      rw [found, recordsOf, List.map_map, allHeaders, List.flatMap_map, List.map_eq_flatMap]
      rcases done : forEach (processGroup path.toString) session groups with ⟨next, failure | _⟩
      · rw [processFile_of_failure loaded done]
        rwa [done] at whole
      · rw [processFile_of_ok loaded done]
        rw [done] at whole
        refine whole.then_advances ?_
        exact ⟨rfl, rfl, rfl, rfl, rfl, (List.append_nil _).symm, (List.append_nil _).symm,
          (List.append_nil _).symm, .refl next.files⟩

/-- The groups that inputs yield are recorded and their headers are written, up to an input that
cannot be loaded. The induction is on the inputs; those to come are read from what the first one
leaves behind.
-/
theorem fills_processFiles (writes : session.writer = none) (inputs : List Path)
    : let found := session.found (inputs.map .process)
      Fills (recordsOf found) (session.allHeaders found) session
        (forEach processFile session inputs) := by
  induction inputs generalizing session with
  | nil => exact (Advances.refl session).fills _
  | cons path rest ih =>
      intro found
      have split : found
          = session.yield path ++ (session.processFile path).1.found (rest.map .process) := rfl
      rw [split, recordsOf_append, allHeaders_append]
      refine (fills_processFile writes path).cons fun next processed advances => ?_
      rw [processed, ← advances.allHeaders_eq]
      exact ih (advances.writer.trans writes)

/-- The summary of the second session differs from that of the first one in its groups and its
headers at most.
-/
def CountsAs (before after : Session) : Prop :=
  ∃ groups written, after.summary = { before.summary with groups, written }

theorem CountsAs.trans {before between after : Session} (first : CountsAs before between)
    (second : CountsAs between after)
    : CountsAs before after := by
  obtain ⟨_, _, same⟩ := first
  obtain ⟨_, _, same'⟩ := second
  exact ⟨_, _, by rw [same', same]⟩

/-- Groups do not count as inputs. -/
theorem countsAs_processGroup (session : Session) (source : String) (group : Group)
    : CountsAs session (processGroup source session group).1 := by
  cases writes : session.writer with
  | some writer =>
      rw [processGroup_of_writer writes]
      exact ⟨_, _, rfl⟩
  | none =>
      have each : ∀ reached artifact, CountsAs session reached →
          CountsAs session (reached.writeHeader source group artifact).1 := by
        intro reached artifact counts
        rw [writeHeader]
        split
        · exact counts.trans ⟨_, _, rfl⟩
        · exact counts
      rw [processGroup_of_no_writer writes]
      exact forEach_preserves each ⟨_, _, rfl⟩

theorem countsAs_processGroups (session : Session) (source : String) (groups : List Group)
    : CountsAs session (forEach (processGroup source) session groups).1 :=
  forEach_preserves (fun reached group counts =>
    counts.trans (countsAs_processGroup reached source group)) ⟨_, _, rfl⟩

/-- Inputs that are all processed are counted, by induction on the inputs. -/
theorem countsAs_processFiles {last : Session} {inputs : List Path}
    (done : forEach processFile session inputs = (last, .ok ()))
    : ∃ groups written, last.summary = { session.summary with
        files := session.summary.files ++ inputs.map Path.toString, groups, written } := by
  induction inputs generalizing session with
  | nil =>
      obtain ⟨rfl, -⟩ := Prod.mk.inj done
      exact ⟨_, _, by rw [List.map_nil, List.append_nil]⟩
  | cons path rest ih =>
      rw [forEach] at done
      cases loaded : load session.files path with
      | error problem => simp [processFile_of_load_error loaded] at done
      | ok groups =>
          obtain ⟨_, _, counts⟩ := countsAs_processGroups session path.toString groups
          rcases found : forEach (processGroup path.toString) session groups with
            ⟨reached, failure | _⟩
          · simp [processFile_of_failure loaded found] at done
          · rw [processFile_of_ok loaded found] at done
            obtain ⟨records, written, same⟩ := ih done
            simp only [found] at counts
            exact ⟨records, written, by simp [same, finishFile, counts]⟩

/-- Without a listing there is nothing to fill when a session is left. -/
theorem files_exit_of_no_writer (writes : session.writer = none) (replaced : session.replaced = [])
    : session.exit.files = session.files := by
  simp only [exit, writes, replaced]
  rfl

end Inputs

end Session

-----------------------------------------------------------------------------------------
-- The session of a run
-----------------------------------------------------------------------------------------

/-- The session with which a run over headers begins. -/
def headerSession (options : Options) (settings : Settings) (now : Moment) (files : FileSystem)
    : Session :=
  { options, settings, timestamp := settings.timestampOr (Calendar.stamp now), files }

/-- A run without a listing has nothing to open. -/
theorem eq_headerSession_of_opens {options : Options} {settings : Settings} {now : Moment}
    {files : FileSystem} {opened : Session} (headers : options.listPath = none)
    (opens : Opens options settings now files opened)
    : opened = headerSession options settings now files := by
  obtain ⟨fresh, started, entered⟩ := opens
  obtain rfl := Session.eq_of_start started
  simp only [Session.enter, headers, Prod.mk.injEq, and_true] at entered
  exact entered.symm

end ErrorTables.Run
