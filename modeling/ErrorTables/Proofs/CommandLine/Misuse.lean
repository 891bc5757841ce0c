import ErrorTables.Proofs.CommandLine.Arguments
import ErrorTables.Proofs.Run.FailedInput

/-! The command when it is not used as it should be.
Misuse is found before anything is written, and it is all that the exit status of misuse stands for.
A report is begun only when the run has succeeded, so that a failure behind it is not one of the
run.
-/

namespace ErrorTables

namespace Run

-----------------------------------------------------------------------------------------
-- Runs that are not refused
-----------------------------------------------------------------------------------------

/-- Neither headers nor a listing are asked for. -/
structure Options.Idle (options : Options) : Prop where
  messages : options.messages = false
  info : options.info = false
  enumeration : options.enumeration = false
  macros : options.macros = false
  listing : options.listPath = none

/-- Choices are refused exactly if they are idle. -/
theorem Options.validate_eq_error_iff {options : Options} {error : UsageError}
    : options.validate = .error error ↔ options.Idle ∧ error = .nothingSelected := by
  have active : (options.isListing || Header.Artifact.all.any options.selects) = false
      ↔ options.Idle := by
    simp only [isListing, Header.Artifact.all, List.any_cons, List.any_nil, selects,
      Bool.or_eq_false_iff, Option.isSome_eq_false_iff, Option.isNone_iff_eq_none]
    constructor
    · rintro ⟨listing, messages, info, -, enumeration, macros, -⟩
      exact ⟨messages, info, enumeration, macros, listing⟩
    · rintro ⟨messages, info, enumeration, macros, listing⟩
      exact ⟨listing, messages, info, info, enumeration, macros, trivial⟩
  unfold validate
  cases selected : options.isListing || Header.Artifact.all.any options.selects with
  | true =>
      have busy : ¬ options.Idle := fun idle => by simp [active.mpr idle] at selected
      simp [busy]
  | false => simp [active.mp selected, eq_comm]

/-- The failure is a complaint about how the run was asked for. -/
def Failure.OfUse : Failure → Prop
  | .usage _ | .settings _ => True
  | .parse _ | .input _ | .output _ | .fault _ => False

theorem Failure.OfWriting.not_ofUse {failure : Failure} (h : failure.OfWriting)
    : ¬ failure.OfUse := by
  cases failure <;> simp_all [Failure.OfWriting, Failure.OfUse]

/-- What is wrong with an input is no complaint about the use. -/
theorem Failure.not_ofUse_ofFileProblem (problem : Definition.FileProblem)
    : ¬ (Failure.ofFileProblem problem).OfUse := by
  cases problem <;> exact id

/-- Processing an input brings up no complaint about the use. -/
theorem Session.not_ofUse_of_processFile {session stopped : Session} {path : Path}
    {failure : Failure} (failed : session.processFile path = (stopped, .error failure))
    : ¬ failure.OfUse := by
  cases loaded : Definition.load session.files path with
  | error problem =>
      rw [processFile_of_load_error loaded] at failed
      obtain rfl := Except.error.inj (Prod.mk.inj failed).2
      exact Failure.not_ofUse_ofFileProblem problem
  | ok groups =>
      rcases written : forEach (processGroup path.toString) session groups with
        ⟨reached, failure' | _⟩
      · rw [processFile_of_failure loaded written] at failed
        obtain rfl : failure' = failure := Except.error.inj (Prod.mk.inj failed).2
        obtain ⟨_, group, _, between, -, -, refused⟩ := exists_failure_of_forEach written
        exact (ofWriting_of_processGroup refused).not_ofUse
      · rw [processFile_of_ok loaded written] at failed
        simp at failed

/-- Once its inputs and choices are accepted, a run brings up no complaint about the use. -/
theorem not_ofUse_of_run {inputs : List Path} {options : Options} {settings : Settings}
    {now : Moment} {files : FileSystem} {failure : Failure} (given : inputs ≠ [])
    (valid : options.validate = .ok ())
    (ended : (run inputs options settings now files).result = .error failure)
    : ¬ failure.OfUse := by
  have filled : inputs.isEmpty = false := by simpa using given
  have started : ∃ fresh, Session.start options settings now files = .ok fresh := by
    simp [Session.start, valid, Except.map]
  obtain ⟨fresh, started⟩ := started
  rcases entered : fresh.enter with ⟨opened, failure' | _⟩
  · rw [run, filled, started] at ended
    simp only [entered] at ended
    obtain rfl : failure' = failure := Except.error.inj ended
    exact (Session.ofWriting_of_enter entered).not_ofUse
  · rw [run_of_opens ⟨fresh, started, entered⟩ given] at ended
    rcases processed : Session.forEach Session.processFile opened inputs with
      ⟨last, failure' | _⟩
    · rw [processed] at ended
      obtain rfl : failure' = failure := Except.error.inj ended
      obtain ⟨_, path, _, reached, -, -, refused⟩ := Session.exists_failure_of_forEach processed
      exact Session.not_ofUse_of_processFile refused
    · simp [processed, Outcome.of, Except.map] at ended

end Run

namespace CommandLine

open Console Run

-----------------------------------------------------------------------------------------
-- From a run to its ending
-----------------------------------------------------------------------------------------

/-- The command goes on, with these files and with reports begun at these paths. -/
structure Ending.UnderWay (ending : Ending) (files : FileSystem) (saved : List Path) : Prop where
  status : ending.status = successStatus
  faultless : ending.fault = none
  files : ending.files = files
  saved : ending.saved = saved

namespace Request

variable {tools : Tools} {request : Request} {outcome : Outcome} {ending : Ending}
variable {files : FileSystem} {saved : List Path}

/-- Printing a line lets the command go on. -/
theorem underWay_say (request : Request) (h : ending.UnderWay files saved) (line : String)
    : (request.say line ending).UnderWay files saved := by
  unfold say
  split
  · exact h
  · exact ⟨h.status, h.faultless, h.files, h.saved⟩

/-- Naming the listing is printing a line. -/
theorem underWay_sayListing (request : Request) (tools : Tools)
    (h : ending.UnderWay files saved) (summary : Summary)
    : (request.sayListing tools summary ending).UnderWay files saved := by
  unfold sayListing
  split
  · exact underWay_say request h _
  · exact h

/-- The run has succeeded and its report was begun. The report could not be written, or the console
has refused the table behind it.
-/
def FailsAtReport (tools : Tools) (request : Request) (outcome : Outcome) (ending : Ending)
    : Prop :=
  ∃ summary path fault, outcome.result = .ok summary ∧ request.report = some path
    ∧ ending.saved = [path]
    ∧ ending.fault = some fault
    ∧ ((Report.writeWith tools.encode outcome.files path summary).2 = .error fault
      ∨ ((Report.writeWith tools.encode outcome.files path summary).2 = .ok ()
        ∧ tools.draw (Report.table summary) = .error fault))

/-- The command has done its work, or it has failed. If it has failed although a report was begun,
it is for the report or for the table behind it.
-/
def Ends (tools : Tools) (request : Request) (outcome : Outcome) (ending : Ending) : Prop :=
  ending.status = successStatus
  ∨ (ending.status = failureStatus
    ∧ (ending.saved = [] ∨ request.FailsAtReport tools outcome ending))

/-- A failure of the run is no misuse. -/
theorem ends_refuse {failure : Failure} (h : ending.UnderWay files [])
    (proper : ¬ failure.OfUse)
    : request.Ends tools outcome (tools.refuse ending failure) := by
  cases failure with
  | usage error | settings error => exact absurd trivial proper
  | fault cause | parse error | input error | output error => exact .inr ⟨rfl, .inl h.saved⟩

/-- A table is drawn or refused, and what was done before stays as it is. -/
theorem drawTable_cases (h : ending.UnderWay files saved) (tools : Tools) (summary : Summary)
    : (request.drawTable tools summary ending).status = successStatus
      ∨ ∃ fault, tools.draw (Report.table summary) = .error fault
        ∧ (request.drawTable tools summary ending).status = failureStatus
        ∧ (request.drawTable tools summary ending).fault = some fault
        ∧ (request.drawTable tools summary ending).saved = saved := by
  unfold drawTable
  split
  · exact .inl h.status
  · cases drawn : tools.draw (Report.table summary) with
    | ok text => exact .inl h.status
    | error fault => exact .inr ⟨fault, rfl, rfl, rfl, h.saved⟩

/-- Behind a run that has succeeded come its report, if it is asked for, and the table. -/
theorem ends_tell {summary : Summary} (succeeded : outcome.result = .ok summary)
    (h : ending.UnderWay outcome.files [])
    : request.Ends tools outcome (request.tell tools summary ending) := by
  have listed := underWay_sayListing request tools h summary
  unfold tell
  generalize request.sayListing tools summary ending = ending at listed
  cases asked : request.report with
  | none =>
      simp only [saveReport, asked, Ending.andThen, listed.faultless, Option.isSome_none,
        Bool.false_eq_true, if_false]
      rcases drawTable_cases listed tools summary with drawn | ⟨_, -, failed, -, saved⟩
      · exact .inl drawn
      · exact .inr ⟨failed, .inl saved⟩
  | some path =>
      have begun : ending.saved ++ [path] = [path] := by rw [listed.saved, List.nil_append]
      rcases written : Report.writeWith tools.encode outcome.files path summary with
        ⟨left, fault | _⟩
      · simp only [saveReport, asked, listed.files, written, begun, Ending.andThen, Ending.fail,
          Option.isSome_some, if_true]
        exact .inr ⟨rfl, .inr ⟨summary, path, fault, succeeded, asked, rfl, rfl,
          .inl (by rw [written])⟩⟩
      · have going : Ending.UnderWay { ending with files := left, saved := [path] } left [path] :=
          ⟨listed.status, listed.faultless, rfl, rfl⟩
        have said := underWay_say request going (tools.reportedLine path)
        simp only [saveReport, asked, listed.files, written, begun, Ending.andThen,
          said.faultless, Option.isSome_none, Bool.false_eq_true, if_false]
        rcases drawTable_cases said tools summary with drawn | ⟨fault, refused, failed, held, saved⟩
        · exact .inl drawn
        · exact .inr ⟨failed, .inr ⟨summary, path, fault, succeeded, asked, saved, held,
            .inr ⟨by rw [written], refused⟩⟩⟩

/-- Once its inputs and choices are accepted, the command does its work or fails. -/
theorem ends_run {inputs : List Path} {settings : Settings} {now : Moment}
    (given : inputs ≠ []) (valid : request.options.validate = .ok ())
    : request.Ends tools (Run.run inputs request.options settings now files)
        (request.run tools inputs settings now files) := by
  have start : Ending.UnderWay
      { files := (Run.run inputs request.options settings now files).files }
      (Run.run inputs request.options settings now files).files [] :=
    ⟨rfl, rfl, rfl, rfl⟩
  have said := underWay_say request start
    (tools.writtenLines (Run.run inputs request.options settings now files).announced)
  unfold Request.run
  cases ended : (Run.run inputs request.options settings now files).result with
  | error failure =>
      simp only [ended]
      exact ends_refuse said (not_ofUse_of_run given valid ended)
  | ok summary =>
      simp only [ended]
      exact ends_tell ended said

end Request

-----------------------------------------------------------------------------------------
-- The whole command
-----------------------------------------------------------------------------------------

/-- The command is misused: its arguments are refused, nothing is selected, the settings that it
names are refused, or it is called without inputs.
-/
inductive Misused (tools : Tools) (arguments : List String) (files : FileSystem) : Prop
  | unread {message : String} (refused : tools.invocation arguments = .refused message)
  | idle {request : Request} {inputs : List Path}
    (called : tools.invocation arguments = .called request inputs) (idle : request.options.Idle)
  | settings {request : Request} {inputs : List Path} {error : SettingsError}
    (called : tools.invocation arguments = .called request inputs)
    (refused : request.loadSettings tools.readers files = .error (.refused error))
  | inputless {request : Request} {settings : Settings}
    (called : tools.invocation arguments = .called request [])
    (loaded : request.loadSettings tools.readers files = .ok settings)

section Called

variable {tools : Tools} {arguments : List String} {request : Request} {inputs : List Path}
variable {files : FileSystem}

/-- A call is misused for its choices, for its settings, or for its inputs. -/
theorem misused_iff_of_called (called : tools.invocation arguments = .called request inputs)
    (files : FileSystem)
    : Misused tools arguments files
      ↔ request.options.Idle
        ∨ (∃ error, request.loadSettings tools.readers files = .error (.refused error))
        ∨ (inputs = [] ∧ ∃ settings, request.loadSettings tools.readers files = .ok settings) := by
  constructor
  · intro misused
    cases misused with
    | unread refused => simp [called] at refused
    | idle called' idle =>
        obtain ⟨rfl, rfl⟩ := Invocation.called.inj (called.symm.trans called')
        exact .inl idle
    | settings called' refused =>
        obtain ⟨rfl, rfl⟩ := Invocation.called.inj (called.symm.trans called')
        exact .inr (.inl ⟨_, refused⟩)
    | inputless called' loaded =>
        obtain ⟨rfl, rfl⟩ := Invocation.called.inj (called.symm.trans called')
        exact .inr (.inr ⟨rfl, _, loaded⟩)
  · rintro (idle | ⟨error, refused⟩ | ⟨rfl, settings, loaded⟩)
    · exact .idle called idle
    · exact .settings called refused
    · exact .inputless called loaded

/-- The command has failed. If a report was begun, it is for the report or for the table behind it
that the command of a run that has succeeded failed.
-/
def FailsProperly (tools : Tools) (arguments : List String) (now : Moment) (files : FileSystem)
    (ending : Ending) : Prop :=
  ending.status = failureStatus
  ∧ (ending.saved = []
    ∨ ∃ request inputs settings, tools.invocation arguments = .called request inputs
      ∧ request.loadSettings tools.readers files = .ok settings
      ∧ request.FailsAtReport tools (Run.run inputs request.options settings now files) ending)

/-- How the command ends: it is misused, with its status and with the files as they were, or it
does its work, or it fails.
-/
def EndsProperly (tools : Tools) (arguments : List String) (now : Moment) (files : FileSystem)
    (ending : Ending) : Prop :=
  (Misused tools arguments files ∧ ending.status = usageStatus ∧ ending.files = files)
  ∨ (¬ Misused tools arguments files
    ∧ (ending.status = successStatus ∨ FailsProperly tools arguments now files ending))

/-- A call looks at the choices first, then at the settings, and then at the inputs. -/
theorem endsProperly_of_called (called : tools.invocation arguments = .called request inputs)
    (now : Moment) (files : FileSystem)
    : EndsProperly tools arguments now files (generateWith tools arguments now files) := by
  have misused := misused_iff_of_called called files
  simp only [EndsProperly, misused, generateWith, called]
  cases valid : request.options.validate with
  | error error =>
      have idle := (Options.validate_eq_error_iff.mp valid).1
      exact .inl ⟨.inl idle, rfl, rfl⟩
  | ok _ =>
      have busy : ¬ request.options.Idle := by
        intro idle
        rw [Options.validate_eq_error_iff.mpr ⟨idle, rfl⟩] at valid
        contradiction
      cases loaded : request.loadSettings tools.readers files with
      | error problem =>
          cases problem with
          | refused error => exact .inl ⟨.inr (.inl ⟨error, rfl⟩), rfl, rfl⟩
          | fault cause => exact .inr ⟨by simp [busy], .inr ⟨rfl, .inl rfl⟩⟩
      | ok settings =>
          by_cases given : inputs = []
          · subst given
            have silent : request.say (tools.writtenLines []) { files } = { files } := by
              simp [Request.say, Tools.writtenLines, String.join]
            refine .inl ⟨.inr (.inr ⟨rfl, settings, rfl⟩), ?_, ?_⟩ <;>
              simp [Request.run, Run.run, silent, Tools.refuse, Ending.misuse]
          · refine .inr ⟨by simp [busy, given], ?_⟩
            rcases Request.ends_run given valid with done | ⟨failed, reports⟩
            · exact .inl done
            · exact .inr ⟨failed, reports.imp_right fun atReport =>
                ⟨request, inputs, settings, called, loaded, atReport⟩⟩

theorem endsProperly (tools : Tools) (arguments : List String) (now : Moment) (files : FileSystem)
    : EndsProperly tools arguments now files (generateWith tools arguments now files) := by
  cases invoked : tools.invocation arguments with
  | refused message =>
      simp only [generateWith, invoked]
      exact .inl ⟨.unread invoked, rfl, rfl⟩
  | helped text =>
      have proper : ¬ Misused tools arguments files := by
        intro misused
        cases misused <;> simp_all
      simp only [generateWith, invoked]
      exact .inr ⟨proper, .inl rfl⟩
  | called request inputs => exact endsProperly_of_called invoked now files

end Called

-----------------------------------------------------------------------------------------
-- A request for nothing, and a report that cannot be written
-----------------------------------------------------------------------------------------

/-- A request for nothing, with settings. -/
def unselected : Request where
  settings := some ⟨"", ["c.yml"]⟩

theorem read_unselected
    : Request.table.read {} ["-e", "--no-enum", "-cc.yml", "g.dat"]
      = .ok (unselected, ["g.dat"]) := by
  have chosen : Request.table.readOption {} "-e" ["--no-enum", "-cc.yml", "g.dat"]
      = .ok ({ options := { enumeration := true } }, ["--no-enum", "-cc.yml", "g.dat"]) := by
    rfl
  have takenBack : Request.table.readOption { options := { enumeration := true } } "--no-enum"
      ["-cc.yml", "g.dat"] = .ok ({}, ["-cc.yml", "g.dat"]) := by
    rfl
  have settings : Request.table.readOption {} "-cc.yml" ["g.dat"]
      = .ok (unselected, ["g.dat"]) := by
    rfl
  have input : Request.table.read unselected ["g.dat"] = .ok (unselected, ["g.dat"]) := by
    rw [Request.read_value (by decide) (by decide), OptionTable.read]
    rfl
  simp [Request.read_option, chosen, takenBack, settings, input, Except.bind, isOption]

theorem invocation_unselected
    : Request.invocation ["-e", "--no-enum", "-cc.yml", "g.dat"]
      = .called unselected [⟨"", ["g.dat"]⟩] := by
  have unhelped : unselected.help = false := rfl
  have input : Path.ofString "g.dat" = ⟨"", ["g.dat"]⟩ := by cbv
  simp [Request.invocation, read_unselected, unhelped, input]

/-- An input without groups, and a directory. -/
def besideDirectory : FileSystem :=
  ⟨[(["g.dat"], .file .empty), (["d"], .directory)]⟩

/-- A request for a report at the place of a directory, by way of a directory that is not there. -/
def blockedReport : Request where
  options := { enumeration := true }
  report := some ⟨"", ["new", "..", "d"]⟩

theorem invocation_blockedReport
    : Request.invocation ["-e", "--report", "new/../d", "g.dat"]
      = .called blockedReport [⟨"", ["g.dat"]⟩] := by
  have letter : Request.table.readOption {} "-e" ["--report", "new/../d", "g.dat"]
      = .ok ({ options := { enumeration := true } }, ["--report", "new/../d", "g.dat"]) := by
    rfl
  have name : Request.table.readOption { options := { enumeration := true } } "--report"
      ["new/../d", "g.dat"] = .ok (blockedReport, ["g.dat"]) := by
    rfl
  have value : Request.table.read blockedReport ["g.dat"] = .ok (blockedReport, ["g.dat"]) := by
    rw [Request.read_value (by decide) (by decide), OptionTable.read]
    rfl
  have read : Request.table.read {} ["-e", "--report", "new/../d", "g.dat"]
      = .ok (blockedReport, ["g.dat"]) := by
    simp [Request.read_option, letter, name, value, Except.bind, isOption]
  have unhelped : blockedReport.help = false := rfl
  have input : Path.ofString "g.dat" = ⟨"", ["g.dat"]⟩ := by cbv
  simp [Request.invocation, read, unhelped, input]

/-- The run finds no groups and leaves everything as it was. -/
theorem run_blockedReport
    : Run.run [⟨"", ["g.dat"]⟩] blockedReport.options {} { date := ⟨2024, 1, 31⟩ } besideDirectory
      = { files := besideDirectory, result := .ok { files := ["g.dat"] } } := by
  have loaded : Definition.load besideDirectory ⟨"", ["g.dat"]⟩ = .ok [] := by cbv
  simp [Run.run, Session.start, blockedReport, Options.validate, Options.isListing,
    Header.Artifact.all, Options.selects, Session.enter, Session.forEach, Session.processFile,
    loaded, Except.map, Session.finishFile, Session.exit]
  rfl

/-- The missing directory is made, and then another one is found in the place of the report. -/
theorem write_blockedReport
    : Report.writeWith Json.encode besideDirectory ⟨"", ["new", "..", "d"]⟩ { files := ["g.dat"] }
      = (besideDirectory.put ["new"] .directory,
        .error (.access ⟨.isADirectory, ⟨"", ["new", "..", "d"]⟩⟩)) := by
  have made : besideDirectory.ensureDirectory ⟨"", ["new", ".."]⟩
      = (besideDirectory.put ["new"] .directory, .ok ()) := by
    cbv
  have stands : (besideDirectory.put ["new"] .directory).target ⟨"", ["new", "..", "d"]⟩
      = .error .isADirectory := by
    cbv
  have parent : Path.parent ⟨"", ["new", "..", "d"]⟩ = ⟨"", ["new", ".."]⟩ := rfl
  have portable : Json.isPortable (.mapping (Report.pairs { files := ["g.dat"] })) = true := rfl
  simp [Report.writeWith, Report.saveWith, Json.encode, parent, made, portable, FileSystem.write,
    stands, Except.map, Fault.ofAccessError]

/-- The run succeeds and the report fails. -/
theorem generate_blockedReport
    : generate ["-e", "--report", "new/../d", "g.dat"] { date := ⟨2024, 1, 31⟩ } besideDirectory
      = { files := besideDirectory.put ["new"] .directory
          status := failureStatus
          fault := some (.access ⟨.isADirectory, ⟨"", ["new", "..", "d"]⟩⟩)
          saved := [⟨"", ["new", "..", "d"]⟩] } := by
  have called : Tools.standard.invocation ["-e", "--report", "new/../d", "g.dat"]
      = .called blockedReport [⟨"", ["g.dat"]⟩] :=
    invocation_blockedReport
  have valid : blockedReport.options.validate = .ok () := rfl
  have unset : blockedReport.loadSettings Tools.standard.readers besideDirectory = .ok {} := rfl
  have asked : blockedReport.report = some ⟨"", ["new", "..", "d"]⟩ := rfl
  have encode : Tools.standard.encode = Json.encode := rfl
  have silent : blockedReport.say (Tools.standard.writtenLines []) { files := besideDirectory }
      = { files := besideDirectory } := by
    rfl
  simp [generate, generateWith, called, valid, unset, Request.run, run_blockedReport, silent,
    Request.tell, Request.sayListing, Request.saveReport, asked, encode, write_blockedReport,
    Ending.fail, Ending.andThen]

-----------------------------------------------------------------------------------------
-- What misuse leaves behind
-----------------------------------------------------------------------------------------

/-- Help is given only if one of the arguments asks for it. -/
def HelpsOnRequest (invocation : List String → Invocation) : Prop :=
  ∀ arguments text, invocation arguments = .helped text → "--help" ∈ arguments

/-- The parser of this library gives help only if it is asked for. -/
theorem helpsOnRequest_invocation : HelpsOnRequest Request.invocation := by
  intro arguments text invoked
  by_contra without
  unfold Request.invocation at invoked
  cases read : Request.table.read {} arguments with
  | error error => simp [read] at invoked
  | ok reached =>
      obtain ⟨request, others⟩ := reached
      have unhelped : request.help = false := Request.help_eq_of_read read without
      simp only [read, unhelped, Bool.false_eq_true, if_false] at invoked
      split at invoked <;> simp at invoked

/-- Whatever the command is built on, it ends with the status of misuse exactly if it is misused,
and then it has not touched any file. Without help it is misused when nothing is selected, whatever
the file system holds. When the command fails, it has not begun a report, unless it is the report
that failed or the table behind it.
-/
theorem generate_touches_nothing_on_misuse {tools : Tools}
    (helps : HelpsOnRequest tools.invocation) (arguments : List String) (now : Moment)
    (files : FileSystem)
    : let ending := generateWith tools arguments now files
      (ending.status = usageStatus ↔ Misused tools arguments files)
      ∧ (ending.status = usageStatus → ending.files = files)
      ∧ ("--help" ∉ arguments →
        (∀ request inputs, tools.invocation arguments = .called request inputs →
          request.options.Idle) →
        ending.status = usageStatus)
      ∧ (ending.status = failureStatus →
        ending.saved = []
        ∨ ∃ request inputs settings, tools.invocation arguments = .called request inputs
          ∧ request.loadSettings tools.readers files = .ok settings
          ∧ request.FailsAtReport tools (Run.run inputs request.options settings now files)
              ending) := by
  intro ending
  have ends : EndsProperly tools arguments now files ending :=
    endsProperly tools arguments now files
  have status : ending.status = usageStatus ↔ Misused tools arguments files := by
    rcases ends with ⟨misused, same, -⟩ | ⟨proper, done | ⟨failed, -⟩⟩
    · exact iff_of_true same misused
    · exact iff_of_false (by simp [done, successStatus, usageStatus]) proper
    · exact iff_of_false (by simp [failed, failureStatus, usageStatus]) proper
  refine ⟨status, ?_, ?_, ?_⟩
  · intro refused
    rcases ends with ⟨-, -, untouched⟩ | ⟨proper, -⟩
    · exact untouched
    · exact absurd (status.mp refused) proper
  · intro without idle
    refine status.mpr ?_
    cases invoked : tools.invocation arguments with
    | refused message => exact .unread invoked
    | helped text => exact absurd (helps arguments text invoked) without
    | called request inputs => exact .idle invoked (idle request inputs invoked)
  · intro failed
    rcases ends with ⟨-, misused, -⟩ | ⟨-, done | ⟨-, reports⟩⟩
    · simp [misused, usageStatus, failureStatus] at failed
    · simp [done, successStatus, failureStatus] at failed
    · exact reports

/-- An emitter that is chosen and taken back leaves nothing selected, though the settings and the
input are missing; and a report that fails is one of a run that has succeeded.
-/
theorem generate_touches_nothing_on_misuse_unselected
    : HelpsOnRequest Tools.standard.invocation
      ∧ (generate ["-e", "--no-enum", "-cc.yml", "g.dat"] { date := ⟨2024, 1, 31⟩ } {}).status
        = usageStatus
      ∧ (generate ["-e", "--no-enum", "-cc.yml", "g.dat"] { date := ⟨2024, 1, 31⟩ } {}).files = {}
      ∧ ∃ request inputs settings,
        Tools.standard.invocation ["-e", "--report", "new/../d", "g.dat"] = .called request inputs
        ∧ request.loadSettings Tools.standard.readers besideDirectory = .ok settings
        ∧ request.FailsAtReport .standard
            (Run.run inputs request.options settings { date := ⟨2024, 1, 31⟩ } besideDirectory)
            (generate ["-e", "--report", "new/../d", "g.dat"] { date := ⟨2024, 1, 31⟩ }
              besideDirectory) := by
  have helps : HelpsOnRequest Tools.standard.invocation := helpsOnRequest_invocation
  obtain ⟨-, untouched, refused, -⟩ := generate_touches_nothing_on_misuse helps
    ["-e", "--no-enum", "-cc.yml", "g.dat"] { date := ⟨2024, 1, 31⟩ } {}
  obtain ⟨-, -, -, reports⟩ := generate_touches_nothing_on_misuse helps
    ["-e", "--report", "new/../d", "g.dat"] { date := ⟨2024, 1, 31⟩ } besideDirectory
  have selected := refused (by simp) (by
    intro request inputs called
    obtain ⟨rfl, -⟩ := Invocation.called.inj (invocation_unselected.symm.trans called)
    exact ⟨rfl, rfl, rfl, rfl, rfl⟩)
  have failed := generate_blockedReport
  unfold generate at failed
  refine ⟨helps, selected, untouched selected, (reports ?_).resolve_left ?_⟩
  · rw [failed]
  · rw [failed]
    simp

/-- A report that cannot be written has been begun, and it leaves a directory behind. -/
theorem generate_fails_with_report_begun
    : (generate ["-e", "--report", "new/../d", "g.dat"] { date := ⟨2024, 1, 31⟩ }
        besideDirectory).status = failureStatus
      ∧ (generate ["-e", "--report", "new/../d", "g.dat"] { date := ⟨2024, 1, 31⟩ }
        besideDirectory).saved = [⟨"", ["new", "..", "d"]⟩]
      ∧ besideDirectory.node? ["new"] = none
      ∧ (generate ["-e", "--report", "new/../d", "g.dat"] { date := ⟨2024, 1, 31⟩ }
        besideDirectory).files.node? ["new"] = some .directory := by
  rw [generate_blockedReport]
  exact ⟨rfl, rfl, rfl, rfl⟩

end CommandLine

end ErrorTables
