import ErrorTables.Proofs.FileSystem.Names
import ErrorTables.Proofs.Header.FileNames
import ErrorTables.Proofs.Run.FoundGroups
import ErrorTables.Proofs.Run.HeaderFiles
import ErrorTables.Proofs.Run.HeaderProgress

/-! When headers have files of their own. The path of a header tells its group and its kind apart
by their names only, and names of groups are told apart within an input only: a run writes two
headers to one path exactly if it finds two groups of one name.
-/

namespace ErrorTables

section Splitting

variable {α : Type} [BEq α] [LawfulBEq α] {separator : α}

theorem splitOn_cons_of_ne {item : α} (differs : item ≠ separator) (rest : List α)
    : (item :: rest).splitOn separator = (rest.splitOn separator).modifyHead (item :: ·) := by
  rw [List.splitOn, List.splitOnP_cons_eq_if_modifyHead, if_neg (by simpa using differs)]
  rfl

/-- What stands before the first separator belongs to the first piece. -/
theorem splitOn_append_of_not_mem {front : List α} (whole : separator ∉ front) (rest : List α)
    : (front ++ rest).splitOn separator = (rest.splitOn separator).modifyHead (front ++ ·) := by
  induction front with
  | nil => exact (congrFun List.modifyHead_id _).symm
  | cons item front ih =>
      obtain ⟨differs, whole⟩ := not_or.mp (mt List.mem_cons.mpr whole)
      rw [List.cons_append, splitOn_cons_of_ne (Ne.symm differs), ih whole,
        List.modifyHead_modifyHead]
      rfl

end Splitting

/-- A text that starts with a part of a name is read as a path below the directory that it is seen
from. Where that name ends and what comes behind it does not depend on the part.
-/
theorem Path.ofString_append (rest : String)
    : ∃ name names, ∀ front : String, '/' ∉ front.toList → '-' ∈ front.toList →
      Path.ofString (front ++ rest) = ⟨"", (front ++ name) :: names⟩ := by
  obtain ⟨piece, others, split⟩ := List.exists_cons_of_ne_nil (rest.toList.splitOn_ne_nil '/')
  refine ⟨.ofList piece,
    (others.map String.ofList).filter fun name => !(name.isEmpty || name = "."), ?_⟩
  intro front whole dashed
  have relative : Path.rootOf (front.toList ++ rest.toList) = "" := by
    cases chars : front.toList with
    | nil => simp [chars] at dashed
    | cons c tail =>
        have other : c ≠ '/' := by
          rintro rfl
          exact whole (by simp [chars])
        simp [Path.rootOf, other]
  have joined : String.ofList (front.toList ++ piece) = front ++ .ofList piece := by
    rw [String.ofList_append, String.ofList_toList]
  have member : '-' ∈ (front ++ String.ofList piece).toList := by simp [dashed]
  have filled : front ++ String.ofList piece ≠ "" := by
    intro same
    simp [same] at member
  have dotless : front ++ String.ofList piece ≠ "." := by
    intro same
    simp [same] at member
  simp [Path.ofString, relative, splitOn_append_of_not_mem whole, split, joined, filled, dotless]

namespace Run

open Definition FileSystem Header

namespace Session

section Paths

variable {session : Session} {first second : Group} {artifact kind : Artifact}

/-- Headers have different paths unless they are of one kind and their groups of one name, whatever
the extension is.
-/
theorem headerPath_inj (named : Text.isName first.name.toList = true)
    (named' : Text.isName second.name.toList = true)
    : session.headerPath artifact first = session.headerPath kind second
      ↔ first.name = second.name ∧ artifact = kind := by
  obtain ⟨name, names, read⟩ := Path.ofString_append session.settings.extension
  obtain ⟨whole, dashed⟩ := mem_stem artifact named
  obtain ⟨whole', dashed'⟩ := mem_stem kind named'
  rw [headerPath, headerPath, fileName_eq, fileName_eq, read _ whole dashed,
    read _ whole' dashed', ← stem_inj named named']
  simp [Path.join, String.append_left_inj]

theorem nodup_artifacts (options : Options) : options.artifacts.Nodup := by
  unfold Options.artifacts
  split
  · exact List.nodup_nil
  · exact List.Nodup.filter _ (by decide)

theorem paths_allHeaders (session : Session) (found : List (String × Group))
    : (session.allHeaders found).map (·.1)
      = found.flatMap fun (_, group) =>
        session.options.artifacts.map fun artifact => session.headerPath artifact group := by
  rw [allHeaders, List.map_flatMap]
  simp [headers, Function.comp_def]

/-- The headers of groups have paths of their own exactly if the groups have names of their own. -/
theorem nodup_paths_iff {found : List (String × Group)}
    (named : ∀ pair ∈ found, Text.isName pair.2.name.toList = true)
    (selected : session.options.artifacts ≠ [])
    : ((session.allHeaders found).map (·.1)).Nodup ↔ (found.map (·.2.name)).Nodup := by
  rw [paths_allHeaders]
  exact nodup_written_iff selected (nodup_artifacts _) fun first member second member' _ _ =>
    headerPath_inj (named first member) (named second member')

end Paths

section Places

variable {session : Session} {found : List (String × Group)}

/-- Without a slash in the extension, two headers whose paths lead to one place have one path. -/
theorem headerPath_eq_of_locate {files : FileSystem} {location : Location}
    (plain : '/' ∉ session.settings.extension.toList)
    (named : ∀ pair ∈ found, Text.isName pair.2.name.toList = true) {first second : Path × String}
    (member : first ∈ session.allHeaders found) (member' : second ∈ session.allHeaders found)
    (leads : files.locate first.1 = .ok location) (leads' : files.locate second.1 = .ok location)
    : first.1 = second.1 := by
  have paths : ∀ write ∈ session.allHeaders found, ∃ product : Product,
      write.1 = (session.writeOf product).1 := by
    intro write member
    obtain ⟨⟨source, group⟩, listed, made⟩ := List.mem_flatMap.mp member
    obtain ⟨artifact, -, rfl⟩ := List.mem_map.mp made
    have path := @headerPath_eq ⟨source, group, artifact⟩ session (named _ listed) plain
    exact ⟨⟨source, group, artifact⟩, path⟩
  obtain ⟨product, same⟩ := paths first member
  obtain ⟨product', same'⟩ := paths second member'
  rw [same] at leads ⊢
  rw [same'] at leads' ⊢
  exact path_eq_of_locate leads leads'

/-- Without a slash in the extension, headers that are written to different paths come to different
places.
-/
theorem nodup_places_iff {before after : FileSystem}
    (plain : '/' ∉ session.settings.extension.toList)
    (named : ∀ pair ∈ found, Text.isName pair.2.name.toList = true)
    (receives : Receives before (session.allHeaders found) after)
    : (((session.allHeaders found).map (·.1)).map after.locate).Nodup
      ↔ ((session.allHeaders found).map (·.1)).Nodup := by
  refine ⟨fun apart => apart.of_map, fun apart => apart.map_on ?_⟩
  intro first member second member' same
  obtain ⟨header, listed, rfl⟩ := List.mem_map.mp member
  obtain ⟨other, listed', rfl⟩ := List.mem_map.mp member'
  obtain ⟨location, leads⟩ := receives.exists_locate listed
  exact headerPath_eq_of_locate plain named listed listed' leads (same.symm.trans leads)

end Places

end Session

section Whole

variable {inputs : List Path} {options : Options} {settings : Settings} {now : Moment}
variable {files : FileSystem} {summary : Summary}

/-- There is something to generate in a run over headers. -/
theorem artifacts_ne_nil_of_opens {opened : Session} (headers : options.listPath = none)
    (opens : Opens options settings now files opened)
    : options.artifacts ≠ [] := by
  obtain ⟨fresh, started, -⟩ := opens
  have chosen : Artifact.all.any options.selects = true := by
    by_contra unchosen
    have invalid : options.validate = .error .nothingSelected := by
      simp [Options.validate, Options.isListing, headers, unchosen]
    simp [Session.start, invalid, Except.map] at started
  obtain ⟨artifact, listed, selected⟩ := List.any_eq_true.mp chosen
  refine List.ne_nil_of_mem (a := artifact) ?_
  simp [Options.artifacts, Options.isListing, headers, listed, selected]

/-- A run over headers that succeeds records all groups that its inputs yield, and writes and
announces their headers one after the other.
-/
theorem advances_of_succeeded (headers : options.listPath = none)
    (succeeded : (run inputs options settings now files).result = .ok summary)
    : let opened := headerSession options settings now files
      let found := opened.found (inputs.map .process)
      let outcome := run inputs options settings now files
      options.artifacts ≠ [] ∧ summary.groups = Session.recordsOf found
        ∧ outcome.announced = (opened.allHeaders found).map (·.1)
        ∧ Receives files (opened.allHeaders found) outcome.files := by
  obtain ⟨opened, last, opens, processed, ended, rfl⟩ := opens_of_succeeded succeeded
  have selected := artifacts_ne_nil_of_opens headers opens
  obtain rfl := eq_headerSession_of_opens headers opens
  have writes : (headerSession options settings now files).writer = none := rfl
  obtain ⟨recorded, done, -, -, advances, whole⟩ := Session.fills_processFiles writes inputs
  rw [processed] at advances whole
  obtain ⟨rfl, rfl⟩ := whole rfl
  refine ⟨selected, ?_, ?_, ?_⟩
  · exact advances.groups
  · rw [ended]
    exact advances.announced
  · rw [ended]
    have left := Session.files_exit_of_no_writer advances.writer advances.replaced
    rw [Outcome.of, left]
    exact advances.files

/-- A run over headers that succeeds writes the headers of all groups that its inputs yield. Their
paths are distinct exactly if the names of the groups are, and so are the files, as far as the
extension stays in the directory; each file then holds its header. In any case a header is lost
only to a later one whose path leads to the same place.
-/
theorem headers_distinct_iff (headers : options.listPath = none)
    (succeeded : (run inputs options settings now files).result = .ok summary)
    : let opened := headerSession options settings now files
      let found := opened.found (inputs.map .process)
      let written := opened.allHeaders found
      let outcome := run inputs options settings now files
      summary.groups = found.map (fun (source, group) => .ofGroup source group)
      ∧ outcome.announced = written.map (·.1)
      ∧ (outcome.announced.Nodup ↔ (summary.groups.map (·.name)).Nodup)
      ∧ (∀ earlier path text later, written = earlier ++ (path, text) :: later →
        (∀ other ∈ later, outcome.files.locate other.1 ≠ outcome.files.locate path) →
          outcome.files.read path = .ok text.toUTF8)
      ∧ ('/' ∉ settings.extension.toList →
        ((outcome.announced.map outcome.files.locate).Nodup
          ↔ (summary.groups.map (·.name)).Nodup)
        ∧ ((summary.groups.map (·.name)).Nodup →
          ∀ header ∈ written, outcome.files.read header.1 = .ok header.2.toUTF8)) := by
  intro opened found written outcome
  obtain ⟨selected, groups, announced, receives⟩ := advances_of_succeeded headers succeeded
  have names : summary.groups.map (·.name) = found.map (·.2.name) := by
    rw [groups, Session.recordsOf, List.map_map]
    rfl
  have named : ∀ pair ∈ found, Text.isName pair.2.name.toList = true :=
    fun pair member => Session.isName_of_mem_found member
  have paths : outcome.announced.Nodup ↔ (summary.groups.map (·.name)).Nodup := by
    rw [announced, names]
    exact Session.nodup_paths_iff named selected
  refine ⟨groups, announced, paths, fun earlier path text later => receives.read, ?_⟩
  intro plain
  have places : (outcome.announced.map outcome.files.locate).Nodup
      ↔ (summary.groups.map (·.name)).Nodup := by
    rw [← paths, announced]
    exact Session.nodup_places_iff plain named receives
  refine ⟨places, fun distinct header member => ?_⟩
  have apart := places.mpr distinct
  rw [announced] at apart
  exact receives.read_of_nodup apart member

end Whole

/-- The run over two inputs that define groups of one name, with the table of macros selected. -/
def runSameNamed : Outcome :=
  run (sameNamed.map (·.1)) { macros := true } { timestamp := some "now" }
    { date := ⟨2024, 1, 31⟩ } sameNames

/-- The run succeeds, records both groups and writes both headers to one path. -/
theorem runSameNamed_spec
    : let path : Path := ⟨"", ["g-error-def-gen.h"]⟩
      ∃ summary, runSameNamed.result = .ok summary ∧ summary.groups = records sameNamed
        ∧ runSameNamed.announced = [path, path]
        ∧ runSameNamed.files.read path = .ok (Product.text { timestamp := some "now" } "now"
          ⟨"b.dat", secondNamed, .macros⟩).toUTF8 := by
  intro path
  let start := headerSession { macros := true } { timestamp := some "now" }
    { date := ⟨2024, 1, 31⟩ } sameNames
  have starts : start.StartsHeaders := ⟨rfl, rfl, rfl, ⟨"now", rfl⟩, by decide⟩
  have listed : products start.options.artifacts sameNamed
      = [⟨"a.dat", firstNamed, .macros⟩, ⟨"b.dat", secondNamed, .macros⟩] := rfl
  have lands : sameNames.Lands path ["g-error-def-gen.h"] := by
    have made : sameNames.ensureDirectory {} = (sameNames, .ok ()) := by cbv
    have target : sameNames.target path = .ok ["g-error-def-gen.h"] := by
      have free : sameNames.node? ["g-error-def-gen.h"] = none := rfl
      exact target_eq_ok_iff.mpr ⟨locate_name (by simp) (by decide) (by simp), by simp [free]⟩
    exact ⟨_, made, target⟩
  have apart : ∀ input ∈ sameNamed.map (·.1),
      sameNames.locate input ≠ .ok ["g-error-def-gen.h"] := by
    have first : sameNames.locate ⟨"", ["a.dat"]⟩ = .ok ["a.dat"] := by cbv
    have second : sameNames.locate ⟨"", ["b.dat"]⟩ = .ok ["b.dat"] := by cbv
    simp [sameNamed, first, second]
  have fits : ∀ product ∈ products start.options.artifacts sameNamed,
      start.CanWrite (sameNamed.map (·.1)) product := by
    rw [listed]
    intro product member
    rcases List.mem_pair.mp member with rfl | rfl
    · exact ⟨by decide, _, lands, apart⟩
    · exact ⟨by decide, _, lands, apart⟩
  obtain ⟨last, processed, advances, -⟩ := starts.processFiles load_sameNames fits
  have ended : runSameNamed = .of last (.ok ()) := by
    have opens : Opens { macros := true } { timestamp := some "now" } { date := ⟨2024, 1, 31⟩ }
        sameNames start :=
      opens_headers rfl ⟨.macros, rfl⟩ _ _ _
    rw [runSameNamed, run_of_opens opens (by simp [sameNamed]), processed]
  rw [listed] at advances
  have split : [⟨"a.dat", firstNamed, .macros⟩, ⟨"b.dat", secondNamed, .macros⟩].map start.writeOf
      = [start.writeOf ⟨"a.dat", firstNamed, .macros⟩]
        ++ start.writeOf ⟨"b.dat", secondNamed, .macros⟩ :: [] :=
    rfl
  have left : runSameNamed.files = last.files := by
    rw [ended]
    exact Session.files_exit_of_no_writer advances.writer advances.replaced
  refine ⟨last.exit.summary, by rw [ended]; rfl, advances.groups, ?_, ?_⟩
  · rw [ended]
    exact advances.announced
  · rw [left]
    exact advances.files.read split (by simp)

/-- The names of the groups repeat, and so do the paths and the places of the headers. -/
theorem headers_distinct_iff_repeated_name
    : ∃ summary, runSameNamed.result = .ok summary
      ∧ ¬ (summary.groups.map (·.name)).Nodup
      ∧ ¬ runSameNamed.announced.Nodup
      ∧ ¬ (runSameNamed.announced.map runSameNamed.files.locate).Nodup := by
  obtain ⟨summary, succeeded, groups, -⟩ := runSameNamed_spec
  obtain ⟨-, -, paths, -, places⟩ := headers_distinct_iff rfl succeeded
  have repeated : ¬ (summary.groups.map (·.name)).Nodup := by
    rw [groups]
    decide
  exact ⟨summary, succeeded, repeated, mt paths.mp repeated,
    mt (places (by decide)).1.mp repeated⟩

/-- The inputs are distinct and the run over them succeeds, but the header of the first group is
lost: the path that it was written to holds the header of the second one.
-/
theorem run_loses_header
    : let path : Path := ⟨"", ["g-error-def-gen.h"]⟩
      (sameNamed.map (·.1)).Nodup
      ∧ (∃ summary, runSameNamed.result = .ok summary)
      ∧ runSameNamed.announced = [path, path]
      ∧ ¬ runSameNamed.announced.Nodup
      ∧ runSameNamed.files.read path = .ok (Product.text { timestamp := some "now" } "now"
        ⟨"b.dat", secondNamed, .macros⟩).toUTF8 := by
  obtain ⟨summary, succeeded, -, announced, held⟩ := runSameNamed_spec
  refine ⟨by decide, ⟨summary, succeeded⟩, announced, ?_, held⟩
  rw [announced]
  decide

end Run

end ErrorTables
