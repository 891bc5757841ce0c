import ErrorTables.Proofs.Definition.Loading
import ErrorTables.Proofs.Definition.RoundTrip
import ErrorTables.Proofs.FileSystem.Writes
import ErrorTables.Proofs.Run.HeaderProgress

/-! What a run over headers leaves behind. It writes a header for each input, each of its groups
and each selected kind of header, in this order; a later header takes the place of an earlier one
of the same path, and nothing else is changed.
-/

namespace ErrorTables.Run

open Definition FileSystem Header

-----------------------------------------------------------------------------------------
-- The headers of a run
-----------------------------------------------------------------------------------------

/-- A header that a run is to write: its kind, the group that it is made from, and the input that
the group was read from.
-/
structure Product where
  source : String
  group : Group
  artifact : Artifact

namespace Product

/-- The name of the file of a header. -/
def fileName (settings : Settings) (product : Product) : String :=
  product.artifact.fileName product.group.name settings.extension

/-- The path of a header, which is in the output directory. -/
def path (options : Options) (settings : Settings) (product : Product) : Path :=
  { options.outputDirectory with
    names := options.outputDirectory.names ++ [product.fileName settings] }

/-- The text of a header that bears a timestamp. -/
def text (settings : Settings) (timestamp : String) (product : Product) : String :=
  product.artifact.render (product.fileName settings)
    { source := product.source
      program := settings.program
      timestamp
      infoType := settings.infoType
      countType := settings.countType
      sentinel := settings.sentinel
      bannerLines := settings.bannerLines
      showsLabel := settings.showsLabel }
    product.group

end Product

/-- The headers of a group from a source. -/
def groupProducts (artifacts : List Artifact) (source : String) (group : Group) : List Product :=
  artifacts.map (⟨source, group, ·⟩)

/-- The headers of an input with its groups. -/
def inputProducts (artifacts : List Artifact) (definition : Path × List Group) : List Product :=
  definition.2.flatMap (groupProducts artifacts definition.1.toString)

/-- The headers of a run over inputs with their groups, in the order in which they are written. -/
def products (artifacts : List Artifact) (definitions : List (Path × List Group))
    : List Product :=
  definitions.flatMap (inputProducts artifacts)

/-- The groups of inputs, each with its source. -/
def sourced (definitions : List (Path × List Group)) : List (String × Group) :=
  definitions.flatMap fun definition => definition.2.map (definition.1.toString, ·)

/-- The records of the groups of inputs. -/
def records (definitions : List (Path × List Group)) : List GroupRecord :=
  definitions.flatMap fun (path, groups) =>
    groups.map fun group =>
      { source := path.toString
        name := group.name
        base := group.base
        count := group.entries.length
        firstCode := group.base
        lastCode := group.base + group.entries.length - 1 }

section Names

variable {options : Options} {settings : Settings} {product : Product} {name : String}

/-- The name of a header holds a dash, which no empty name and no row of dots does. -/
theorem fileName_ne_of_dashless (dashless : '-' ∉ name.toList)
    : product.fileName settings ≠ name := by
  rintro rfl
  simp [Product.fileName, Artifact.fileName, toString] at dashless

/-- Names of groups hold no slash, so that the names of headers hold none either. -/
theorem slash_not_mem_fileName (named : Text.isName product.group.name.toList = true)
    (plain : '/' ∉ settings.extension.toList)
    : '/' ∉ (product.fileName settings).toList := by
  have inGroup : '/' ∉ product.group.name.toList := by
    intro member
    have word := Text.isWord_of_isName named member
    revert word
    decide +kernel
  have inSuffix : '/' ∉ product.artifact.suffix.toList := by
    cases product.artifact <;> decide
  simp [Product.fileName, Artifact.fileName, toString, inGroup, inSuffix, plain]

theorem timestampOr_timestampOr (settings : Settings) (fallback : String)
    : settings.timestampOr (settings.timestampOr fallback) = settings.timestampOr fallback := by
  unfold Settings.timestampOr
  cases settings.timestamp with
  | none => rfl
  | some fixed => by_cases empty : fixed.isEmpty <;> simp [empty]

/-- A session writes a header to the path of the product. -/
theorem headerPath_eq {session : Session} (named : Text.isName product.group.name.toList = true)
    (plain : '/' ∉ session.settings.extension.toList)
    : session.headerPath product.artifact product.group
      = product.path session.options session.settings := by
  have alone := Path.ofString_name (slash_not_mem_fileName named plain)
    (fileName_ne_of_dashless (by decide)) (fileName_ne_of_dashless (by decide))
  rw [Session.headerPath]
  unfold Product.fileName at alone
  rw [alone]
  rfl

/-- A session writes the text of the product with the timestamp of the run. -/
theorem headerText_eq {session : Session} {fallback : String}
    (stamped : session.timestamp = session.settings.timestampOr fallback)
    : session.headerText product.source product.artifact product.group
      = product.text session.settings session.timestamp := by
  rw [Session.headerText, Settings.context, stamped, timestampOr_timestampOr]
  rfl

end Names

-----------------------------------------------------------------------------------------
-- A run under way
-----------------------------------------------------------------------------------------

/-- The file system of a session with its output directory made. -/
def Session.made (start : Session) : FileSystem :=
  (start.files.ensureDirectory start.options.outputDirectory).1

/-- What a session writes for a product, and where. -/
def Session.writeOf (start : Session) (product : Product) : Path × String :=
  (product.path start.options start.settings, product.text start.settings start.timestamp)

/-- The session can write a product, to a place that no input leads to. -/
structure Session.CanWrite (start : Session) (inputs : List Path) (product : Product) : Prop where
  named : Text.isName product.group.name.toList = true
  lands
    : ∃ location, start.files.Lands (product.path start.options start.settings) location
      ∧ ∀ input ∈ inputs, start.files.locate input ≠ .ok location

/-- A session that is to write headers and has done nothing yet. -/
structure Session.StartsHeaders (start : Session) : Prop where
  writer : start.writer = none
  summary : start.summary = {}
  announced : start.announced = []
  stamped : ∃ fallback, start.timestamp = start.settings.timestampOr fallback
  plain : '/' ∉ start.settings.extension.toList

/-- The session has come from the start by writing products that it could write, and what it could
write at the start it can write still.
-/
structure Session.Ready (start : Session) (inputs : List Path) (session : Session) : Prop where
  prepared : Prepared start.files start.made session.files
  progress
    : ∃ (groups : List GroupRecord) (done : List Product),
      Session.Advances start groups (done.map start.writeOf) session
      ∧ ∀ product ∈ done, start.CanWrite inputs product

namespace Session

section Progress

variable {start session : Session} {inputs : List Path} {product : Product}

/-- Two products whose paths lead to one place have one path. -/
theorem path_eq_of_locate {files : FileSystem} {first second : Product} {location : Location}
    (leads : files.locate (start.writeOf first).1 = .ok location)
    (leads' : files.locate (start.writeOf second).1 = .ok location)
    : (start.writeOf first).1 = (start.writeOf second).1 := by
  have same := name_eq_of_locate leads leads' (fileName_ne_of_dashless (by decide))
    (fileName_ne_of_dashless (by decide))
  simp only [writeOf, Product.path, same]

/-- A product that can be written has a place in the output directory. -/
theorem CanWrite.target (fits : CanWrite start inputs product)
    : ∃ location,
      start.files.ensureDirectory (start.writeOf product).1.parent = (start.made, .ok ())
      ∧ start.made.target (start.writeOf product).1 = .ok location
      ∧ ∀ input ∈ inputs, start.files.locate input ≠ .ok location := by
  obtain ⟨location, ⟨made, ensured, target⟩, apart⟩ := fits.lands
  have parent : (start.writeOf product).1.parent = start.options.outputDirectory := by
    simp [writeOf, Product.path, Path.parent]
  have same : start.made = made := by
    rw [Session.made, ← parent]
    exact congrArg Prod.fst ensured
  rw [same]
  exact ⟨location, ensured, target, apart⟩

/-- What a session that starts is to write for a group are its products. -/
theorem StartsHeaders.headers_eq (starts : StartsHeaders start) {source : String} {group : Group}
    (fits : ∀ product ∈ groupProducts start.options.artifacts source group,
      CanWrite start inputs product)
    : start.headers source group
      = (groupProducts start.options.artifacts source group).map start.writeOf := by
  obtain ⟨fallback, stamped⟩ := starts.stamped
  simp only [headers, groupProducts, List.map_map]
  refine List.map_congr_left fun artifact member => ?_
  have named := (fits ⟨source, group, artifact⟩ (List.mem_map_of_mem member)).named
  have path := @headerPath_eq ⟨source, group, artifact⟩ start named starts.plain
  have text := @headerText_eq ⟨source, group, artifact⟩ start fallback stamped
  exact Prod.ext path text

theorem Ready.refl (start : Session) (inputs : List Path) : Ready start inputs start :=
  ⟨.untouched, [], [], .refl start, List.forall_mem_nil _⟩

/-- A product that can be written at the start is written. -/
theorem Ready.writeHeader (starts : StartsHeaders start) (h : Ready start inputs session)
    (fits : CanWrite start inputs product)
    : ∃ next, session.writeHeader product.source product.group product.artifact = (next, .ok ())
      ∧ Ready start inputs next := by
  obtain ⟨prepared, groups, done, advances, earlier⟩ := h
  obtain ⟨location, ensured, target, -⟩ := fits.target
  have header : (session.headerPath product.artifact product.group,
      session.headerText product.source product.artifact product.group)
      = start.writeOf product := by
    obtain ⟨fallback, stamped⟩ := starts.stamped
    simp only [headerPath, headerText, advances.options, advances.settings, advances.timestamp]
    exact Prod.ext (headerPath_eq fits.named starts.plain) (headerText_eq stamped)
  have path : session.headerPath product.artifact product.group = (start.writeOf product).1 :=
    congrArg Prod.fst header
  have text : session.headerText product.source product.artifact product.group
      = (start.writeOf product).2 :=
    congrArg Prod.snd header
  obtain ⟨files, wrote, prepared'⟩ :=
    prepared.writeDeep ensured target (start.writeOf product).2.toUTF8
  rcases session.writeHeader_cases product.source product.group product.artifact with
    ⟨next, passed, advances'⟩ | ⟨next, access, refused, -⟩
  · have left : next.files = files := by
      simp only [Session.writeHeader, path, text, wrote] at passed
      obtain ⟨rfl, -⟩ := Prod.mk.inj passed
      rfl
    refine ⟨next, passed, left ▸ prepared', groups, done ++ [product], ?_, ?_⟩
    · rw [header] at advances'
      simpa using advances.trans advances'
    · exact List.forall_mem_append.mpr ⟨earlier, by simpa using fits⟩
  · rw [path, text, wrote] at refused
    simp at refused

/-- A group is recorded and its products are written. -/
theorem Ready.processGroup (starts : StartsHeaders start) (h : Ready start inputs session)
    {source : String} {group : Group}
    (fits : ∀ product ∈ groupProducts start.options.artifacts source group,
      CanWrite start inputs product)
    : ∃ next, processGroup source session group = (next, .ok ())
      ∧ Ready start inputs next := by
  obtain ⟨prepared, groups, done, advances, earlier⟩ := h
  rw [processGroup_of_no_writer (advances.writer.trans starts.writer), advances.options]
  have recorded : Ready start inputs (session.record source group) := by
    refine ⟨prepared, groups ++ [.ofGroup source group], done, ?_, earlier⟩
    simpa using advances.trans (advances_record session source group)
  have each : ∀ artifact ∈ start.options.artifacts, ∀ session, Ready start inputs session →
      ∃ next, session.writeHeader source group artifact = (next, .ok ())
        ∧ Ready start inputs next := by
    intro artifact member session ready
    have fit := fits ⟨source, group, artifact⟩ (List.mem_map_of_mem member)
    obtain ⟨next, wrote, ready'⟩ := ready.writeHeader starts fit
    exact ⟨next, wrote, ready'⟩
  exact forEach_succeeds each recorded

/-- The groups of an input are loaded as from the files at the start, whatever was written. -/
theorem Ready.load_eq (h : Ready start inputs session) {path : Path} {found : List Group}
    (given : path ∈ inputs) (loads : load start.files path = .ok found)
    : load session.files path = .ok found := by
  obtain ⟨prepared, groups, done, advances, earlier⟩ := h
  obtain ⟨text, held, parsed⟩ := load_eq_ok_iff.mp loads
  refine load_eq_ok_iff.mpr ⟨text, advances.files.changes.read held ?_, parsed⟩
  obtain ⟨place, leads, -⟩ := read_eq_ok_iff.mp held
  rw [advances.files.changes.directories.locate leads]
  intro other member leads'
  obtain ⟨write, inside, rfl⟩ := List.mem_map.mp member
  obtain ⟨product, written, rfl⟩ := List.mem_map.mp inside
  obtain ⟨location, -, target, apart⟩ := (earlier product written).target
  obtain rfl := prepared.locate_eq (ensureDirectory_adds _ _) (target_eq_ok_iff.mp target).1 leads'
  exact apart path given leads

/-- The groups of an input are recorded and their products are written. -/
theorem Ready.processGroups (starts : StartsHeaders start) (h : Ready start inputs session)
    {source : String} {groups : List Group}
    (fits : ∀ product ∈ groups.flatMap (groupProducts start.options.artifacts source),
      CanWrite start inputs product)
    : ∃ next, forEach (Session.processGroup source) session groups = (next, .ok ())
      ∧ Ready start inputs next :=
  forEach_succeeds (fun group member _ ready =>
    ready.processGroup starts fun product made =>
      fits product (List.mem_flatMap.mpr ⟨group, member, made⟩)) h

/-- The products of all groups of an input are written. -/
theorem Ready.processFile (starts : StartsHeaders start) (h : Ready start inputs session)
    {path : Path} {groups : List Group} (given : path ∈ inputs)
    (loads : load start.files path = .ok groups)
    (fits : ∀ product ∈ inputProducts start.options.artifacts (path, groups),
      CanWrite start inputs product)
    : session.yield path = groups.map (path.toString, ·)
      ∧ ∃ next, session.processFile path = (next, .ok ()) ∧ Ready start inputs next := by
  have loaded := h.load_eq given loads
  obtain ⟨reached, done, prepared, records, products, advances, earlier⟩ :=
    h.processGroups starts fits
  refine ⟨by rw [yield, loaded], _, processFile_of_ok loaded done, prepared, records, products,
    ?_, earlier⟩
  have counted : Advances reached [] [] (reached.finishFile path.toString) :=
    ⟨rfl, rfl, rfl, rfl, rfl, by simp [finishFile], by simp [finishFile], by simp [finishFile],
      .refl reached.files⟩
  simpa using advances.trans counted

/-- All inputs are processed and yield their groups, by induction on the inputs. -/
theorem Ready.processFiles (starts : StartsHeaders start) (h : Ready start inputs session)
    {definitions : List (Path × List Group)}
    (given : ∀ definition ∈ definitions, definition.1 ∈ inputs)
    (loads : ∀ definition ∈ definitions, load start.files definition.1 = .ok definition.2)
    (fits : ∀ product ∈ products start.options.artifacts definitions,
      CanWrite start inputs product)
    : (∃ last, forEach Session.processFile session (definitions.map (·.1)) = (last, .ok ()))
      ∧ session.found ((definitions.map (·.1)).map .process) = sourced definitions := by
  induction definitions generalizing session with
  | nil => exact ⟨⟨session, rfl⟩, rfl⟩
  | cons definition rest ih =>
      obtain ⟨here, given⟩ := List.forall_mem_cons.mp given
      obtain ⟨loaded, loads⟩ := List.forall_mem_cons.mp loads
      rw [products, List.flatMap_cons, List.forall_mem_append] at fits
      obtain ⟨yields, next, processed, ready⟩ := h.processFile starts here loaded fits.1
      obtain ⟨⟨last, done⟩, found⟩ := ih ready given loads fits.2
      refine ⟨⟨last, by simp only [List.map_cons, forEach, processed, done]⟩, ?_⟩
      rw [sourced, List.flatMap_cons, ← yields, ← sourced, ← found, List.map_cons, List.map_cons,
        Session.found, perform, processed]

/-- A session that starts processes all inputs and writes their products. -/
theorem StartsHeaders.processFiles (starts : StartsHeaders start)
    {definitions : List (Path × List Group)}
    (loads : ∀ definition ∈ definitions, load start.files definition.1 = .ok definition.2)
    (fits : ∀ product ∈ products start.options.artifacts definitions,
      CanWrite start (definitions.map (·.1)) product)
    : let written := (products start.options.artifacts definitions).map start.writeOf
      ∃ last, forEach Session.processFile start (definitions.map (·.1)) = (last, .ok ())
        ∧ Advances start (records definitions) written last
        ∧ last.summary = {
          files := definitions.map (·.1.toString)
          groups := records definitions
          written := written.map (·.1.toString) } := by
  intro written
  obtain ⟨⟨last, done⟩, found⟩ := (Ready.refl start _).processFiles starts
    (fun definition member => List.mem_map_of_mem member) loads fits
  obtain ⟨recorded, texts, -, -, advances, whole⟩ :=
    fills_processFiles starts.writer (definitions.map (·.1))
  rw [done] at advances whole
  obtain ⟨rfl, rfl⟩ := whole rfl
  rw [found] at advances
  have groups : recordsOf (sourced definitions) = records definitions := by
    simp only [recordsOf, sourced, records, List.map_flatMap, List.map_map]
    rfl
  have headers : start.allHeaders (sourced definitions) = written := by
    simp only [written, allHeaders, sourced, products, inputProducts, List.map_flatMap,
      List.flatMap_map, List.flatMap_assoc]
    refine List.flatMap_congr fun definition member =>
      List.flatMap_congr fun group listed => starts.headers_eq fun product made => fits product ?_
    exact List.mem_flatMap.mpr ⟨definition, member, List.mem_flatMap.mpr ⟨group, listed, made⟩⟩
  rw [groups, headers] at advances
  obtain ⟨records', written', same⟩ := countsAs_processFiles done
  refine ⟨last, done, advances, ?_⟩
  have groups' := advances.groups
  have texts' := advances.written
  simp only [same, starts.summary, List.nil_append] at groups' texts' ⊢
  simp [groups', texts', Function.comp_def]

end Progress

end Session

-----------------------------------------------------------------------------------------
-- Whole runs
-----------------------------------------------------------------------------------------

/-- A run over headers opens the session that is to write them. -/
theorem opens_headers {options : Options} (headers : options.listPath = none)
    (selected : ∃ artifact, options.selects artifact = true) (settings : Settings) (now : Moment)
    (files : FileSystem)
    : Opens options settings now files (headerSession options settings now files) := by
  have valid : options.validate = .ok () := by
    obtain ⟨artifact, chosen⟩ := selected
    have any : Artifact.all.any options.selects = true :=
      List.any_eq_true.mpr ⟨artifact, by cases artifact <;> decide, chosen⟩
    simp [Options.validate, any]
  refine ⟨_, by rw [Session.start, valid]; rfl, ?_⟩
  simp only [Session.enter, headers, headerSession]

/-- Two inputs that define groups of one name. -/
def sameNames : FileSystem := ⟨[
  (["a.dat"], .file "g = 1 \"\" \x7b\nA x\n\x7d\n".toUTF8),
  (["b.dat"], .file "g = 2 \"\" \x7b\nB y\nC z\n\x7d\n".toUTF8)]⟩

/-- The group of the first input. -/
def firstNamed : Group :=
  { name := "g", base := 1, entries := [⟨"A", "x", 2⟩], source := some "a.dat", line := 1 }

/-- The group of the second input. -/
def secondNamed : Group := {
  name := "g", base := 2, entries := [⟨"B", "y", 2⟩, ⟨"C", "z", 3⟩], source := some "b.dat"
  line := 1 }

/-- Both inputs with their groups. -/
def sameNamed : List (Path × List Group) :=
  [(⟨"", ["a.dat"]⟩, [firstNamed]), (⟨"", ["b.dat"]⟩, [secondNamed])]

theorem load_sameNames
    : ∀ definition ∈ sameNamed, load sameNames definition.1 = .ok definition.2 := by
  have first : load sameNames ⟨"", ["a.dat"]⟩ = .ok [firstNamed] := by cbv
  have second : load sameNames ⟨"", ["b.dat"]⟩ = .ok [secondNamed] := by cbv
  simpa [sameNamed] using ⟨first, second⟩

end ErrorTables.Run
