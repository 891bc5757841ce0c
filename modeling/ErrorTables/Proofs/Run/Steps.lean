import ErrorTables.Run.Session

/-! Steps that are done one after the other: what they do up to the first failure, where that
failure arises, and what all of them preserve. The steps of a run are its inputs, those of an input
its groups.
-/

namespace ErrorTables.Run

open Definition

namespace Session

section ForEach

variable {α : Type} {step : Session → α → Session × Except Failure Unit}
variable {start reached stopped : Session} {before after : List α} {bad : α} {failure : Failure}

/-- Steps that all succeed are followed by the steps for the other items. -/
theorem forEach_append (h : forEach step start before = (reached, .ok ()))
    : forEach step start (before ++ after) = forEach step reached after := by
  induction before generalizing start with
  | nil =>
      obtain ⟨rfl, -⟩ := Prod.mk.inj h
      rfl
  | cons item rest ih =>
      rw [List.cons_append, forEach]
      rw [forEach] at h
      rcases done : step start item with ⟨next, _ | _⟩
      · simp [done] at h
      · simp only [done] at h ⊢
        exact ih h

/-- The first failure ends the steps, whatever items follow. -/
theorem forEach_append_of_failure (h : forEach step start before = (reached, .ok ()))
    (failed : step reached bad = (stopped, .error failure)) (after : List α)
    : forEach step start (before ++ bad :: after) = (stopped, .error failure) := by
  rw [forEach_append h, forEach, failed]

/-- Steps that fail do so at one item, behind steps that succeed. -/
theorem exists_failure_of_forEach {items : List α}
    (h : forEach step start items = (stopped, .error failure))
    : ∃ before bad after reached, items = before ++ bad :: after
      ∧ forEach step start before = (reached, .ok ())
      ∧ step reached bad = (stopped, .error failure) := by
  induction items generalizing start with
  | nil => simp [forEach] at h
  | cons item rest ih =>
      rw [forEach] at h
      rcases done : step start item with ⟨next, _ | _⟩
      · simp only [done] at h
        obtain ⟨rfl, same⟩ := Prod.mk.inj h
        exact ⟨[], item, rest, start, rfl, rfl, by rw [done, same]⟩
      · simp only [done] at h
        obtain ⟨before, bad, after, reached, rfl, passed, failed⟩ := ih h
        refine ⟨item :: before, bad, after, reached, rfl, ?_, failed⟩
        rw [forEach, done]
        exact passed

/-- Steps that succeed one by one succeed together, as long as each preserves what they succeed for.
-/
theorem forEach_succeeds {Kept : Session → Prop} {items : List α}
    (each : ∀ item ∈ items, ∀ session, Kept session →
      ∃ next, step session item = (next, .ok ()) ∧ Kept next)
    (h : Kept start)
    : ∃ last, forEach step start items = (last, .ok ()) ∧ Kept last := by
  induction items generalizing start with
  | nil => exact ⟨start, rfl, h⟩
  | cons item rest ih =>
      obtain ⟨first, others⟩ := List.forall_mem_cons.mp each
      obtain ⟨next, done, kept⟩ := first start h
      obtain ⟨last, done', kept'⟩ := ih others kept
      exact ⟨last, by rw [forEach, done]; exact done', kept'⟩

/-- What each step preserves all of them preserve, also those before a failure. -/
theorem forEach_preserves {Kept : Session → Prop}
    (preserved : ∀ session item, Kept session → Kept (step session item).1) {items : List α}
    (h : Kept start)
    : Kept (forEach step start items).1 := by
  induction items generalizing start with
  | nil => exact h
  | cons item rest ih =>
      rw [forEach]
      have next := preserved start item h
      rcases done : step start item with ⟨session, _ | _⟩
      · rw [done] at next
        exact next
      · rw [done] at next
        exact ih next

/-- What each step that succeeds preserves all of them preserve if they all succeed. -/
theorem forEach_ok_preserves {Kept : Session → Prop} {items : List α}
    (preserved : ∀ item ∈ items, ∀ session next, Kept session →
      step session item = (next, .ok ()) → Kept next)
    (done : forEach step start items = (reached, .ok ())) (h : Kept start)
    : Kept reached := by
  induction items generalizing start with
  | nil => exact (Prod.mk.inj done).1 ▸ h
  | cons item rest ih =>
      obtain ⟨first, others⟩ := List.forall_mem_cons.mp preserved
      rw [forEach] at done
      rcases stepped : step start item with ⟨session, _ | _⟩
      · simp [stepped] at done
      · rw [stepped] at done
        exact ih others done (first start session h stepped)

end ForEach

section Inputs

variable {session reached : Session} {source : String} {group : Group} {path : Path}

theorem processGroup_of_writer {writer : Listing.Writer Sink}
    (writes : session.writer = some writer)
    : processGroup source session group = (session.record source group).list writer group := by
  have kept : (session.record source group).writer = some writer := writes
  simp only [processGroup, kept]

theorem processGroup_of_no_writer (writes : session.writer = none)
    : processGroup source session group =
      forEach (fun session => session.writeHeader source group) (session.record source group)
        session.options.artifacts := by
  have kept : (session.record source group).writer = none := writes
  simp only [processGroup, kept]
  rfl

/-- An input whose groups cannot be loaded leaves the session as it was. -/
theorem processFile_of_load_error {problem : FileProblem}
    (refused : load session.files path = .error problem)
    : session.processFile path = (session, .error (.ofFileProblem problem)) := by
  rw [processFile, refused]

/-- An input is counted once all its groups are processed. -/
theorem processFile_of_ok {groups : List Group} (loaded : load session.files path = .ok groups)
    (done : forEach (processGroup path.toString) session groups = (reached, .ok ()))
    : session.processFile path = (reached.finishFile path.toString, .ok ()) := by
  simp only [processFile, loaded, done]

/-- The failure of a group is that of its input. -/
theorem processFile_of_failure {groups : List Group} {failure : Failure}
    (loaded : load session.files path = .ok groups)
    (failed : forEach (processGroup path.toString) session groups = (reached, .error failure))
    : session.processFile path = (reached, .error failure) := by
  simp only [processFile, loaded, failed]

end Inputs

end Session

section Whole

variable {options : Options} {settings : Settings} {now : Moment} {files : FileSystem}

/-- With these choices a run starts to process its inputs in the session `opened`. -/
def Opens (options : Options) (settings : Settings) (now : Moment) (files : FileSystem)
    (opened : Session) : Prop :=
  ∃ fresh, Session.start options settings now files = .ok fresh ∧ fresh.enter = (opened, .ok ())

/-- What a session that is left behind makes of a run. -/
def Outcome.of (session : Session) (result : Except Failure Unit) : Outcome where
  files := session.exit.files
  announced := session.exit.announced
  result := result.map fun () => session.exit.summary

/-- A run that is opened processes its inputs one after the other. -/
theorem run_of_opens {opened : Session} (opens : Opens options settings now files opened)
    {inputs : List Path} (given : inputs ≠ [])
    : run inputs options settings now files =
      .of (Session.forEach Session.processFile opened inputs).1
        (Session.forEach Session.processFile opened inputs).2 := by
  obtain ⟨fresh, started, entered⟩ := opens
  have filled : inputs.isEmpty = false := by simpa using given
  unfold run
  rw [filled, started]
  simp only [entered]
  rfl

/-- A session starts with nothing done. -/
theorem Session.eq_of_start {fresh : Session}
    (started : Session.start options settings now files = .ok fresh)
    : fresh
      = { options, settings, timestamp := settings.timestampOr (Calendar.stamp now), files } := by
  unfold Session.start at started
  cases valid : options.validate with
  | error error => simp [valid, Except.map] at started
  | ok _ =>
      simp only [valid, Except.map, Except.ok.injEq] at started
      exact started.symm

/-- A run is refused, or its session cannot be entered, or it processes its inputs. -/
theorem run_cases (inputs : List Path) (options : Options) (settings : Settings) (now : Moment)
    (files : FileSystem)
    : (∃ failure, run inputs options settings now files = { files, result := .error failure })
      ∨ (∃ fresh stopped failure, Session.start options settings now files = .ok fresh
        ∧ fresh.enter = (stopped, .error failure)
        ∧ run inputs options settings now files
          = { files := stopped.files, result := .error failure })
      ∨ ∃ opened, Opens options settings now files opened
        ∧ run inputs options settings now files
          = .of (Session.forEach Session.processFile opened inputs).1
            (Session.forEach Session.processFile opened inputs).2 := by
  by_cases given : inputs = []
  · subst given
    exact .inl ⟨_, rfl⟩
  · have filled : inputs.isEmpty = false := by simpa using given
    cases started : Session.start options settings now files with
    | error error =>
        refine .inl ⟨.usage error, ?_⟩
        rw [run, filled, started]
        rfl
    | ok fresh =>
        rcases entered : fresh.enter with ⟨session, failure | _⟩
        · refine .inr (.inl ⟨fresh, session, failure, rfl, entered, ?_⟩)
          rw [run, filled, started]
          simp only [entered]
          rfl
        · have opens : Opens options settings now files session := ⟨fresh, started, entered⟩
          exact .inr (.inr ⟨session, opens, run_of_opens opens given⟩)

/-- A run that succeeds has been opened, and has processed all inputs. -/
theorem opens_of_succeeded {inputs : List Path} {summary : Summary}
    (succeeded : (run inputs options settings now files).result = .ok summary)
    : ∃ opened last, Opens options settings now files opened
      ∧ Session.forEach Session.processFile opened inputs = (last, .ok ())
      ∧ run inputs options settings now files = .of last (.ok ())
      ∧ summary = last.exit.summary := by
  rcases run_cases inputs options settings now files with
    ⟨failure, ended⟩ | ⟨fresh, stopped, failure, -, -, ended⟩ | ⟨opened, opens, ended⟩
  · simp [ended] at succeeded
  · simp [ended] at succeeded
  · rcases processed : Session.forEach Session.processFile opened inputs with ⟨last, failure | _⟩
    · simp [ended, processed, Outcome.of, Except.map] at succeeded
    · rw [processed] at ended
      refine ⟨opened, last, opens, processed, ended, ?_⟩
      rw [ended] at succeeded
      exact (Except.ok.inj succeeded).symm

end Whole

end ErrorTables.Run
