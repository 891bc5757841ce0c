import ErrorTables.Proofs.Definition.Loading
import ErrorTables.Proofs.Run.Steps

/-! An input that cannot be read or parsed has no effect. All groups of an input are read before
the first one is recorded, so that the session is left as it was, however many groups stand before
the error; and a run that ends at such an input leaves behind what the inputs before it left.
-/

namespace ErrorTables.Run

open Definition Header

/-- The failure is one of reading or parsing an input. -/
def Failure.OfInput : Failure → Prop
  | .input _ | .parse _ => True
  | .usage _ | .settings _ | .output _ | .fault _ => False

/-- The failure is the one that an unusable input at the path ends in: it is reported, unless there
is a null character in the path.
-/
def Failure.OfUnusable (path : Path) (failure : Failure) : Prop :=
  (path.HasNull ∧ failure = .fault .nullInName) ∨ (¬ path.HasNull ∧ failure.OfInput)

/-- The failure is one of writing a result, or a fault. -/
def Failure.OfWriting : Failure → Prop
  | .output _ | .fault _ => True
  | .usage _ | .settings _ | .parse _ | .input _ => False

theorem Failure.OfWriting.not_ofInput {failure : Failure} (h : failure.OfWriting)
    : ¬ failure.OfInput := by
  cases failure <;> simp_all [Failure.OfWriting, Failure.OfInput]

namespace Session

variable {session stopped : Session} {path : Path} {failure : Failure}

/-- What cannot be written is a failure of writing. -/
theorem ofWriting_outputFailure (report : String → FileError → OutputError) (path : Path)
    (error : FileError)
    : (outputFailure report path error).OfWriting := by
  unfold outputFailure
  split <;> exact trivial

/-- Writing a header fails only as writing does. -/
theorem ofWriting_of_writeHeader {source : String} {group : Group} {artifact : Artifact}
    (failed : session.writeHeader source group artifact = (stopped, .error failure))
    : failure.OfWriting := by
  rcases written : session.files.writeDeep (session.headerPath artifact group)
    (session.headerText source artifact group).toUTF8 with ⟨files, access | _⟩
  · simp only [writeHeader, written, Prod.mk.injEq, Except.error.injEq] at failed
    obtain ⟨-, rfl⟩ := failed
    exact ofWriting_outputFailure _ _ _
  · simp only [writeHeader, written, Prod.mk.injEq, reduceCtorEq, and_false] at failed

/-- Listing a group fails only as writing does. -/
theorem ofWriting_of_list {writer : Listing.Writer Sink} {group : Group}
    (failed : session.list writer group = (stopped, .error failure))
    : failure.OfWriting := by
  rw [list] at failed
  rcases listed : writer.writeGroup Sink.stream group with ⟨reached, error | count⟩
  · simp only [listed, Except.map, Except.mapError, Prod.mk.injEq, Except.error.injEq] at failed
    obtain ⟨-, rfl⟩ := failed
    cases error <;> exact trivial
  · simp only [listed, Except.map, Except.mapError, Prod.mk.injEq, reduceCtorEq,
      and_false] at failed

/-- The headers or lines of a group fail only as writing does. -/
theorem ofWriting_of_processGroup {source : String} {group : Group}
    (failed : processGroup source session group = (stopped, .error failure))
    : failure.OfWriting := by
  cases writes : session.writer with
  | none =>
      rw [processGroup_of_no_writer writes] at failed
      obtain ⟨_, artifact, _, reached, -, -, refused⟩ := exists_failure_of_forEach failed
      exact ofWriting_of_writeHeader refused
  | some writer =>
      rw [processGroup_of_writer writes] at failed
      exact ofWriting_of_list failed

/-- An unusable input leaves the session as it was. -/
theorem processFile_of_unusable (unusable : Unusable session.files path)
    : ∃ failure, failure.OfUnusable path
      ∧ session.processFile path = (session, .error failure) := by
  obtain ⟨problem, refused⟩ := unusable_iff.mp unusable
  refine ⟨_, ?_, processFile_of_load_error refused⟩
  cases problem with
  | fault cause =>
      obtain ⟨null, rfl⟩ := load_eq_fault_iff.mp refused
      exact .inl ⟨null, rfl⟩
  | input _ | parse _ =>
      refine .inr ⟨fun null => ?_, trivial⟩
      simp [load_eq_fault_iff.mpr ⟨null, rfl⟩] at refused

/-- A failure of an input arises before any of its groups is recorded. -/
theorem unusable_of_processFile
    (failed : session.processFile path = (stopped, .error failure)) (ofInput : failure.OfInput)
    : stopped = session ∧ Unusable session.files path := by
  cases loaded : load session.files path with
  | error problem =>
      rw [processFile_of_load_error loaded] at failed
      obtain ⟨rfl, same⟩ := Prod.mk.inj failed
      obtain rfl := Except.error.inj same
      exact ⟨rfl, unusable_iff.mpr ⟨problem, loaded⟩⟩
  | ok groups =>
      rcases written : forEach (processGroup path.toString) session groups with
        ⟨reached, failure' | _⟩
      · rw [processFile_of_failure loaded written] at failed
        obtain rfl : failure' = failure := Except.error.inj (Prod.mk.inj failed).2
        obtain ⟨_, group, _, between, -, -, refused⟩ := exists_failure_of_forEach written
        exact absurd ofInput (ofWriting_of_processGroup refused).not_ofInput
      · rw [processFile_of_ok loaded written] at failed
        simp at failed

/-- Opening the listing fails only as writing does. -/
theorem ofWriting_of_enter (failed : session.enter = (stopped, .error failure))
    : failure.OfWriting := by
  unfold enter openListing at failed
  split at failed
  · split at failed
    · obtain rfl := Except.error.inj (Prod.mk.inj failed).2
      exact ofWriting_outputFailure _ _ _
    · split at failed
      · obtain rfl := Except.error.inj (Prod.mk.inj failed).2
        exact ofWriting_outputFailure _ _ _
      · simp at failed
  · simp at failed

end Session

/-- A run that fails as an input does has been opened. -/
theorem opens_of_ofInput {inputs : List Path} {options : Options} {settings : Settings}
    {now : Moment} {files : FileSystem} {failure : Failure}
    (ended : (run inputs options settings now files).result = .error failure)
    (ofInput : failure.OfInput)
    : ∃ opened, Opens options settings now files opened ∧ inputs ≠ [] := by
  unfold run at ended
  split at ended
  · obtain rfl := Except.error.inj ended
    exact ofInput.elim
  · rename_i given
    split at ended
    · obtain rfl := Except.error.inj ended
      exact ofInput.elim
    · rename_i fresh started
      split at ended
      · rename_i stopped failure' refused
        obtain rfl : failure' = failure := Except.error.inj ended
        exact absurd ofInput (Session.ofWriting_of_enter refused).not_ofInput
      · rename_i opened entered
        exact ⟨opened, ⟨fresh, started, entered⟩, by simpa using given⟩

/-- An unusable input leaves any session as it was, with a failure that is reported unless there is
a null character in its path. A run that reaches such an input ends there and leaves behind what
the inputs before it left, whatever inputs come after it; and only there a run ends as it does for
an input that cannot be read or parsed.
-/
theorem unusable_input_has_no_effect (options : Options) (settings : Settings) (now : Moment)
    (files : FileSystem)
    : (∀ (session : Session) (path : Path), Unusable session.files path →
        ∃ failure, failure.OfUnusable path
          ∧ session.processFile path = (session, .error failure))
      ∧ (∀ (opened reached : Session) (before : List Path) (bad : Path),
        Opens options settings now files opened →
        Session.forEach Session.processFile opened before = (reached, .ok ()) →
        Unusable reached.files bad →
          ∃ failure, failure.OfUnusable bad
            ∧ (∀ others, run (before ++ bad :: others) options settings now files
              = .of reached (.error failure))
            ∧ (before ≠ [] → run before options settings now files = .of reached (.ok ())))
      ∧ ∀ (inputs : List Path) (failure : Failure),
        (run inputs options settings now files).result = .error failure → failure.OfInput →
          ∃ opened before bad after reached,
            Opens options settings now files opened
            ∧ inputs = before ++ bad :: after
            ∧ Session.forEach Session.processFile opened before = (reached, .ok ())
            ∧ Unusable reached.files bad
            ∧ run inputs options settings now files = .of reached (.error failure) := by
  refine ⟨fun _ _ => Session.processFile_of_unusable, ?_, ?_⟩
  · intro opened reached before bad opens passed unusable
    obtain ⟨failure, kind, failed⟩ := Session.processFile_of_unusable unusable
    refine ⟨failure, kind, ?_, ?_⟩
    · intro others
      rw [run_of_opens opens (by simp), Session.forEach_append_of_failure passed failed]
    · intro given
      rw [run_of_opens opens given, passed]
  · intro inputs failure ended ofInput
    obtain ⟨opened, opens, given⟩ := opens_of_ofInput ended ofInput
    have whole := run_of_opens opens given
    rcases done : Session.forEach Session.processFile opened inputs with ⟨stopped, _ | _⟩
    · obtain rfl : _ = failure := by simpa [whole, done, Outcome.of, Except.map] using ended
      obtain ⟨before, bad, after, reached, rfl, passed, failed⟩ :=
        Session.exists_failure_of_forEach done
      obtain ⟨rfl, unusable⟩ := Session.unusable_of_processFile failed ofInput
      rw [done] at whole
      exact ⟨opened, before, bad, after, stopped, opens, rfl, passed, unusable, whole⟩
    · simp [whole, done, Outcome.of, Except.map] at ended

/-- Two inputs, of which the second one has an error behind its first group. -/
def halfParsedFiles : FileSystem := ⟨[
  (["a"], .file "g=1\"\"\x7b\nA\n\x7d".toUTF8),
  (["b"], .file "h=1\"\"\x7b\n\x7d\nC".toUTF8)]⟩

/-- The group before the error is neither recorded nor listed. -/
theorem unusable_input_has_no_effect_behind_group
    : let inputs : List Path := [⟨"", ["a"]⟩, ⟨"", ["b"]⟩]
      let options : Options := { listPath := some ⟨"", ["codes"]⟩ }
      let now : Moment := { date := ⟨2024, 1, 31⟩ }
      let problem : ParseError := ⟨.strayEntry "C", some "b", 3⟩
      let session : Session :=
        { options, settings := {}, timestamp := "", files := halfParsedFiles }
      Unusable halfParsedFiles ⟨"", ["b"]⟩
      ∧ (∃ failure, failure.OfUnusable ⟨"", ["b"]⟩
        ∧ session.processFile ⟨"", ["b"]⟩ = (session, .error failure))
      ∧ (run inputs options {} now halfParsedFiles).result = .error (.parse problem)
      ∧ ∃ before bad after reached failure, inputs = before ++ bad :: after
        ∧ Unusable reached.files bad
        ∧ run inputs options {} now halfParsedFiles = .of reached (.error (.parse problem))
        ∧ failure.OfUnusable bad
        ∧ ∀ others, run (before ++ bad :: others) options {} now halfParsedFiles
          = .of reached (.error failure) := by
  intro inputs options now problem session
  have unusable : Unusable halfParsedFiles ⟨"", ["b"]⟩ := by
    have leads : halfParsedFiles.locate ⟨"", ["b"]⟩ = .ok ["b"] := by cbv
    have parsed : parseText (some "b") (fileText "h=1\"\"\x7b\n\x7d\nC") = .error problem := by cbv
    exact .rejected leads rfl parsed
  have ended : (run inputs options {} now halfParsedFiles).result = .error (.parse problem) := by
    cbv
  obtain ⟨atomic, reaching, ending⟩ :=
    unusable_input_has_no_effect options {} now halfParsedFiles
  obtain ⟨opened, before, bad, after, reached, opens, given, passed, refused, whole⟩ :=
    ending inputs _ ended trivial
  obtain ⟨failure, kind, same, -⟩ := reaching opened reached before bad opens passed refused
  exact ⟨unusable, atomic session _ unusable, ended,
    before, bad, after, reached, failure, given, refused, whole, kind, same⟩

/-- An input with a null character in its path cannot be read, and it is not reported. -/
theorem processFile_misses_null_in_path
    : let session : Session :=
        { options := { enumeration := true }, settings := {}, timestamp := "", files := {} }
      Unusable session.files ⟨"", ["a\x00b"]⟩
      ∧ session.processFile ⟨"", ["a\x00b"]⟩ = (session, .error (.fault .nullInName))
      ∧ ¬ (Failure.fault .nullInName).OfInput := by
  intro session
  have null : Path.HasNull ⟨"", ["a\x00b"]⟩ := ⟨_, List.mem_cons_self, by simp⟩
  have refused : session.files.locate ⟨"", ["a\x00b"]⟩ = .error .nullInName :=
    FileSystem.locate_of_hasNull null
  have loaded : load session.files ⟨"", ["a\x00b"]⟩ = .error (.fault .nullInName) :=
    load_eq_fault_iff.mpr ⟨null, rfl⟩
  exact ⟨.unreachable refused, Session.processFile_of_load_error loaded, id⟩

end ErrorTables.Run
