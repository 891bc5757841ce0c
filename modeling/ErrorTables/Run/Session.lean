import ErrorTables.Listing
import ErrorTables.Run.Failure
import ErrorTables.Run.Summary

/-!
Sessions: the state of a run from one input to the next. In listing mode a session opens the file
of the listing when it is entered and fills it when it is left; otherwise it writes the headers of
each input as it comes. An input that cannot be read or parsed leaves a session as it was.

A stream on a disk is filled whenever 8192 characters are waiting, and not only when it is closed.
This is left out: until a session is left, the file of its listing is empty here.
-/

namespace ErrorTables.Run

open Header

/-- Where the lines of a listing go: to a file that is filled when it is closed, to nowhere once it
is closed, or to a device without room. That a file is filled in parts before is left out. -/
inductive Sink where
  | file (location : Location) (text : String)
  | closed
  | full
  deriving DecidableEq, Repr

/-- Why a sink refuses a line. -/
inductive SinkError where
  | closed
  | full
  deriving DecidableEq, Repr

namespace Sink

/-- The text that a sink holds. -/
def content : Sink → String
  | .file _ text => text
  | .closed | .full => ""

/-- Appends a text to a sink. -/
def write (sink : Sink) (text : String) : Sink × Except SinkError Unit :=
  match sink with
  | .file location held => (.file location (held ++ text), .ok ())
  | .closed => (.closed, .error .closed)
  | .full => (.full, .error .full)

/-- Sinks as streams of listings. -/
def stream : Listing.Stream Sink SinkError where
  content := content
  write := write
  content_write := by
    intro sink text
    cases sink <;> rfl

/-- The sink once it is closed. -/
def close : Sink → Sink
  | .file _ _ => .closed
  | .closed => .closed
  | .full => .full

/-- Fills the file of a sink: what the sink has received is written over the start of the file. -/
def flush (files : FileSystem) : Sink → FileSystem
  | .file location text => if text.isEmpty then files else files.overwrite location text.toUTF8
  | .closed | .full => files

end Sink

/-- A run under way. `replaced` are sinks that were open when the lines of the listing began to go
elsewhere, and `announced` are the headers whose writing was announced. -/
structure Session where
  options : Options
  settings : Settings
  timestamp : String
  files : FileSystem
  summary : Summary := {}
  writer : Option (Listing.Writer Sink) := none
  replaced : List Sink := []
  announced : List Path := []

namespace Session

/-- A session that has not processed anything. All its headers bear one timestamp. -/
def start (options : Options) (settings : Settings) (now : Moment) (files : FileSystem)
    : Except UsageError Session :=
  options.validate.map fun () =>
    { options, settings, timestamp := settings.timestampOr (Calendar.stamp now), files }

/-- Lets the lines of the listing go to another sink, numbered from one. -/
def redirect (session : Session) (sink : Sink) : Session :=
  { session with
    writer := some ⟨sink, 1⟩
    replaced := (session.writer.map (·.stream)).toList ++ session.replaced }

/-- The failure of writing to a path. -/
def outputFailure (report : String → FileError → OutputError) (path : Path) (error : FileError)
    : Failure :=
  if error = .nullInName then .fault .nullInName else .output (report path.toString error)

/-- Opens the file of the listing, which becomes empty. -/
def openListing (session : Session) (path : Path) : Session × Except Failure Unit :=
  match session.files.ensureDirectory path.parent with
  | (files, .error access) =>
      ({ session with files }, .error (outputFailure .unopenable path access.error))
  | (files, .ok ()) =>
      match files.target path with
      | .error error => ({ session with files }, .error (outputFailure .unopenable path error))
      | .ok location =>
          let opened := { session.redirect (.file location "") with
            files := files.put location (.file .empty)
            summary := { session.summary with listPath := some path.toString } }
          (opened, .ok ())

/-- Enters a session. -/
def enter (session : Session) : Session × Except Failure Unit :=
  match session.options.listPath with
  | some path => session.openListing path
  | none => (session, .ok ())

/-- Leaves a session: the file of the listing is filled and closed, and its lines are counted. What
would have been in the file before is left out, as in a sink. -/
def exit (session : Session) : Session :=
  let sinks := (session.writer.map (·.stream)).toList ++ session.replaced
  let listed := (session.writer.map (·.written)).getD session.summary.listed
  { session with
    files := sinks.foldl Sink.flush session.files
    writer := session.writer.map fun writer => { writer with stream := writer.stream.close }
    replaced := []
    summary := { session.summary with listed } }

/-- Records a group that was found in an input. -/
def record (session : Session) (source : String) (group : Group) : Session :=
  let groups := session.summary.groups ++ [GroupRecord.ofGroup source group]
  { session with summary := { session.summary with groups } }

/-- The failure of a listing that refuses a line. -/
def listingFailure (options : Options) : SinkError → Failure
  | .closed => .fault .closedStream
  | .full =>
      let path := (options.listPath.map Path.toString).getD "None"
      .output (.unwritable path .noSpaceLeft)

/-- Lists the entries of a group. -/
def list (session : Session) (writer : Listing.Writer Sink) (group : Group)
    : Session × Except Failure Unit :=
  let (writer, result) := writer.writeGroup Sink.stream group
  ({ session with writer := some writer },
    (result.map fun _ => ()).mapError (listingFailure session.options))

/-- The path of a header of a group. -/
def headerPath (session : Session) (artifact : Artifact) (group : Group) : Path :=
  session.options.outputDirectory.join
    (Path.ofString (artifact.fileName group.name session.settings.extension))

/-- The text of a header of a group that was read from a source. -/
def headerText (session : Session) (source : String) (artifact : Artifact) (group : Group)
    : String :=
  artifact.render (artifact.fileName group.name session.settings.extension)
    (session.settings.context source session.timestamp) group

/-- Writes a header and announces it. -/
def writeHeader (session : Session) (source : String) (group : Group) (artifact : Artifact)
    : Session × Except Failure Unit :=
  let path := session.headerPath artifact group
  let text := session.headerText source artifact group
  match session.files.writeDeep path text.toUTF8 with
  | (files, .ok ()) =>
      ({ session with
          files
          summary := { session.summary with
            written := session.summary.written ++ [path.toString] }
          announced := session.announced ++ [path] },
        .ok ())
  | (files, .error access) =>
      ({ session with files }, .error (outputFailure .unwritable path access.error))

/-- Does a step for each item, up to the first failure. -/
def forEach {α : Type} (step : Session → α → Session × Except Failure Unit)
    : Session → List α → Session × Except Failure Unit
  | session, [] => (session, .ok ())
  | session, item :: rest =>
      match step session item with
      | (session, .ok ()) => forEach step session rest
      | (session, .error failure) => (session, .error failure)

/-- Records a group and writes its lines or its headers. -/
def processGroup (source : String) (session : Session) (group : Group)
    : Session × Except Failure Unit :=
  let session := session.record source group
  match session.writer with
  | some writer => session.list writer group
  | none =>
      forEach (fun session => session.writeHeader source group) session
        session.options.artifacts

/-- Counts an input as processed. -/
def finishFile (session : Session) (source : String) : Session :=
  { session with
    summary := { session.summary with files := session.summary.files ++ [source] } }

/-- Processes an input: all its groups are read before the first one is written. -/
def processFile (session : Session) (path : Path) : Session × Except Failure Unit :=
  match Definition.load session.files path with
  | .error problem => (session, .error (Failure.ofFileProblem problem))
  | .ok groups =>
      match forEach (processGroup path.toString) session groups with
      | (session, .ok ()) => (session.finishFile path.toString, .ok ())
      | (session, .error failure) => (session, .error failure)

end Session

/-- What a run leaves behind: the session at its end, or why it did not start, and the failure that
ended it. -/
structure Outcome where
  files : FileSystem
  announced : List Path := []
  result : Except Failure Summary

/-- Runs over inputs in their order, up to the first failure. What was written before it stays. -/
def run (inputs : List Path) (options : Options) (settings : Settings) (now : Moment)
    (files : FileSystem) : Outcome :=
  if inputs.isEmpty then { files, result := .error (.usage .noInputs) }
  else
    match Session.start options settings now files with
    | .error error => { files, result := .error (.usage error) }
    | .ok session =>
        match session.enter with
        | (session, .error failure) => { files := session.files, result := .error failure }
        | (session, .ok ()) =>
            let (session, result) := Session.forEach Session.processFile session inputs
            let session := session.exit
            { files := session.files
              announced := session.announced
              result := result.map fun () => session.summary }

end ErrorTables.Run
