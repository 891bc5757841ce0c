import ErrorTables.Proofs.FileSystem.Changes

/-! When files can be written one after the other into a directory. The directory is made with the
first of them, and no later one finds a directory in its place that the first one did not find.
-/

namespace ErrorTables

-----------------------------------------------------------------------------------------
-- Names in a directory
-----------------------------------------------------------------------------------------

/-- A name without slashes, other than a dot, is read as a path of that name only. -/
theorem Path.ofString_name {name : String} (whole : '/' ∉ name.toList) (filled : name ≠ "")
    (dotless : name ≠ ".")
    : Path.ofString name = ⟨"", [name]⟩ := by
  have relative : Path.rootOf name.toList = "" := by
    cases chars : name.toList with
    | nil => rfl
    | cons c rest =>
        have other : c ≠ '/' := by
          rintro rfl
          exact whole (by simp [chars])
        simp [Path.rootOf, other]
  have one : name.toList.splitOn '/' = [name.toList] := List.splitOn_eq_singleton whole
  simp [Path.ofString, relative, one, filled, dotless]

namespace FileSystem

section Siblings

variable {files : FileSystem} {start location : Location} {names : List String}
variable {name other : String}

/-- A name other than double dots leads down. -/
theorem eq_append_of_enter (proper : name ≠ "..") (entered : enter start name = .ok location)
    : location = start ++ [name] := by
  rw [enter, if_neg proper] at entered
  split at entered
  · contradiction
  · exact (Except.ok.inj entered).symm

/-- Where a name behind others leads is in the directory that the others lead to. -/
theorem walk_append_eq_ok (leads : files.walk start (names ++ [name]) = .ok location)
    : ∃ directory, files.walk start names = .ok directory
      ∧ enter directory name = .ok location := by
  induction names generalizing start with
  | nil =>
      rw [List.nil_append, walk] at leads
      cases entered : enter start name with
      | error error => simp [entered] at leads
      | ok next =>
          simp only [entered] at leads
          exact ⟨start, rfl, entered.trans leads⟩
  | cons first rest ih =>
      rw [List.cons_append, walk] at leads
      cases entered : enter start first with
      | error error => simp [entered] at leads
      | ok next =>
          obtain ⟨second, later, split⟩ : ∃ second later, rest ++ [name] = second :: later := by
            cases rest <;> simp
          cases stands : files.node? next with
          | none => simp [entered, stands, split] at leads
          | some node =>
              cases node with
              | file content => simp [entered, stands, split] at leads
              | directory =>
                  simp only [entered, stands, split] at leads
                  rw [← split] at leads
                  obtain ⟨directory, reached, last⟩ := ih leads
                  refine ⟨directory, ?_, last⟩
                  rw [walk, entered]
                  cases rest with
                  | nil => exact reached
                  | cons _ _ =>
                      simp only [stands]
                      exact reached

/-- A path that leads somewhere is walked name by name. -/
theorem walk_of_locate {path : Path} (leads : files.locate path = .ok location)
    : files.walk (if path.root.isEmpty then [] else ["/"]) path.names = .ok location := by
  unfold locate at leads
  split at leads
  · contradiction
  · split at leads
    · contradiction
    · exact leads

/-- Two names in one directory do not lead to one place, unless they are the same. -/
theorem name_eq_of_locate {root : String}
    (leads : files.locate ⟨root, names ++ [name]⟩ = .ok location)
    (leads' : files.locate ⟨root, names ++ [other]⟩ = .ok location) (proper : name ≠ "..")
    (proper' : other ≠ "..")
    : name = other := by
  obtain ⟨directory, reached, last⟩ := walk_append_eq_ok (walk_of_locate leads)
  obtain ⟨directory', reached', last'⟩ := walk_append_eq_ok (walk_of_locate leads')
  obtain rfl := Except.ok.inj (reached.symm.trans reached')
  have here := eq_append_of_enter proper last
  have there := eq_append_of_enter proper' last'
  simpa using here.symm.trans there

end Siblings

-----------------------------------------------------------------------------------------
-- One write after the other
-----------------------------------------------------------------------------------------

/-- A file can be written to the path and comes to stand at the location, after the directories
that lead to it are made.
-/
def Lands (files : FileSystem) (path : Path) (location : Location) : Prop :=
  ∃ made, files.ensureDirectory path.parent = (made, .ok ()) ∧ made.target path = .ok location

/-- The last file system is the first one before anything is written, or it has just the
directories of the second one, in which a directory has been made.
-/
inductive Prepared (files made : FileSystem) : FileSystem → Prop
  | untouched : Prepared files made files
  | made {after : FileSystem}
    (same : ∀ location, after.node? location = some .directory
      ↔ made.node? location = some .directory)
    : Prepared files made after

section Writes

variable {files made after : FileSystem} {path : Path} {location place : Location}

/-- A file that is put where no directory stands makes no directory and hides none. -/
theorem directories_put (free : files.node? location ≠ some .directory) (content : ByteArray)
    (other : Location)
    : (files.put location (.file content)).node? other = some .directory
      ↔ files.node? other = some .directory := by
  by_cases same : other = location
  · subst same
    simp [node?_put_self free, free]
  · rw [node?_put_of_ne same]

/-- Paths that lead anywhere lead to where they lead in the directory that is made. -/
theorem Prepared.locate_eq (h : Prepared files made after) (added : AddsDirectories files made)
    (leads : made.locate path = .ok location) (leads' : after.locate path = .ok place)
    : place = location := by
  cases h with
  | untouched => exact Except.ok.inj ((added.keeps.locate leads').symm.trans leads)
  | made same =>
      have kept : KeepsDirectories made after := fun location => (same location).mpr
      exact Except.ok.inj (leads'.symm.trans (kept.locate leads))

/-- What can be written at the start can be written still. -/
theorem Prepared.writeDeep (h : Prepared files made after)
    (ensured : files.ensureDirectory path.parent = (made, .ok ()))
    (target : made.target path = .ok location) (content : ByteArray)
    : ∃ next, after.writeDeep path content = (next, .ok ()) ∧ Prepared files made next := by
  obtain ⟨leads, free⟩ := target_eq_ok_iff.mp target
  cases h with
  | untouched =>
      have written : made.write path content = .ok (made.put location (.file content)) :=
        write_eq_ok_iff.mpr ⟨location, target, rfl⟩
      exact ⟨_, by simp only [FileSystem.writeDeep, ensured, written],
        .made (directories_put free content)⟩
  | made same =>
      have kept : KeepsDirectories made after := fun location => (same location).mpr
      have there : after.isDirectory path.parent = true :=
        kept.isDirectory (isDirectory_ensureDirectory ensured)
      have free' : after.node? location ≠ some .directory := fun stands =>
        free ((same location).mp stands)
      have written : after.write path content = .ok (after.put location (.file content)) :=
        write_eq_ok_iff.mpr ⟨location, target_eq_ok_iff.mpr ⟨kept.locate leads, free'⟩, rfl⟩
      refine ⟨after.put location (.file content), ?_, .made fun other => ?_⟩
      · simp only [FileSystem.writeDeep, ensureDirectory_of_isDirectory there, written]
      · exact (directories_put free' content other).trans (same other)

end Writes

end FileSystem

end ErrorTables
