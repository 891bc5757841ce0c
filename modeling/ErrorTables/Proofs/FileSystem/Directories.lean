import ErrorTables.FileSystem

/-! Making directories and writing files, seen from the places that they leave alone.
Where a path leads depends on directories only, so that it leads there still when directories were
added and files were put where no directory stands.
-/

namespace ErrorTables.FileSystem

-----------------------------------------------------------------------------------------
-- What is kept
-----------------------------------------------------------------------------------------

/-- All directories of the first file system are ones of the second. -/
def KeepsDirectories (before after : FileSystem) : Prop :=
  ∀ location, before.node? location = some .directory → after.node? location = some .directory

/-- The second file system is the first one with directories where nothing stood. -/
def AddsDirectories (before after : FileSystem) : Prop :=
  ∀ location, after.node? location = before.node? location
    ∨ (before.node? location = none ∧ after.node? location = some .directory)

section Kept

variable {before between after : FileSystem}

theorem KeepsDirectories.refl (files : FileSystem) : KeepsDirectories files files :=
  fun _ stands => stands

theorem KeepsDirectories.trans (first : KeepsDirectories before between)
    (second : KeepsDirectories between after)
    : KeepsDirectories before after :=
  fun location stands => second location (first location stands)

theorem AddsDirectories.refl (files : FileSystem) : AddsDirectories files files :=
  fun _ => Or.inl rfl

theorem AddsDirectories.trans (first : AddsDirectories before between)
    (second : AddsDirectories between after)
    : AddsDirectories before after := by
  intro location
  rcases first location with same | ⟨missing, made⟩
  · rw [← same]
    exact second location
  · rcases second location with same | ⟨missing', -⟩
    · exact Or.inr ⟨missing, same.trans made⟩
    · rw [made] at missing'
      contradiction

theorem AddsDirectories.keeps (h : AddsDirectories before after)
    : KeepsDirectories before after := by
  intro location stands
  rcases h location with same | ⟨-, made⟩
  · exact same.trans stands
  · exact made

theorem AddsDirectories.put_directory {location : Location}
    (missing : before.node? location = none)
    : AddsDirectories before (before.put location .directory) := by
  intro other
  by_cases anchor : other.IsAnchor
  · simp [node?, anchor]
  · by_cases same : other = location
    · subst same
      simp [missing, anchor]
    · simp [same, anchor]

/-- A file that is put where no directory stands hides none. -/
theorem KeepsDirectories.put {location : Location} {node : Node}
    (apart : before.node? location ≠ some .directory)
    : KeepsDirectories before (before.put location node) := by
  intro other stands
  have differ : other ≠ location := by
    intro same
    exact apart (same ▸ stands)
  simp [differ, stands]

/-- Where names lead depends on directories only, by induction on the names. -/
theorem KeepsDirectories.walk (kept : KeepsDirectories before after) {start target : Location}
    {names : List String} (leads : before.walk start names = .ok target)
    : after.walk start names = .ok target := by
  induction names generalizing start with
  | nil => exact leads
  | cons name rest ih =>
      rw [FileSystem.walk] at leads ⊢
      cases entered : enter start name with
      | error error => simp [entered] at leads
      | ok next =>
          simp only [entered] at leads ⊢
          cases rest with
          | nil => exact leads
          | cons other rest =>
              cases stands : before.node? next with
              | none => simp [stands] at leads
              | some node =>
                  cases node with
                  | file content => simp [stands] at leads
                  | directory =>
                      simp only [stands] at leads
                      simp only [kept next stands]
                      exact ih leads

theorem KeepsDirectories.locate (kept : KeepsDirectories before after) {path : Path}
    {location : Location} (leads : before.locate path = .ok location)
    : after.locate path = .ok location := by
  unfold FileSystem.locate at leads ⊢
  by_cases null : path.names.any (·.contains '\x00')
  · rw [if_pos null] at leads
    contradiction
  · rw [if_neg null] at leads ⊢
    by_cases long : pathSizeBound ≤ path.toString.utf8ByteSize
    · rw [if_pos long] at leads
      contradiction
    · rw [if_neg long] at leads ⊢
      exact kept.walk leads

end Kept

section Made

variable {files made : FileSystem} {path : Path} {location : Location}

theorem isDirectory_iff
    : files.isDirectory path = true
      ↔ ∃ location, files.locate path = .ok location
        ∧ files.node? location = some .directory := by
  unfold isDirectory
  cases files.locate path with
  | error error => simp
  | ok location => simp

theorem KeepsDirectories.isDirectory (kept : KeepsDirectories files made)
    (h : files.isDirectory path = true)
    : made.isDirectory path = true := by
  obtain ⟨location, leads, stands⟩ := isDirectory_iff.mp h
  exact isDirectory_iff.mpr ⟨location, kept.locate leads, kept location stands⟩

theorem makeDirectory_eq_ok_iff
    : files.makeDirectory path = .ok made
      ↔ ∃ location, files.locate path = .ok location ∧ files.node? location = none
        ∧ made = files.put location .directory := by
  unfold makeDirectory
  cases files.locate path with
  | error error => simp [bind, Except.bind]
  | ok location =>
      cases stands : files.node? location with
      | none => simp [bind, Except.bind, stands, pure, Except.pure, eq_comm]
      | some node => simp [bind, Except.bind, stands, throw, throwThe, MonadExceptOf.throw]

/-- Making a directory leaves one at the path and all else as it was. -/
theorem makeMissing_spec (h : files.makeMissing path = .ok made)
    : AddsDirectories files made ∧ made.isDirectory path = true := by
  unfold makeMissing at h
  split at h
  · rename_i result done
    obtain rfl := Except.ok.inj h
    obtain ⟨location, leads, missing, rfl⟩ := makeDirectory_eq_ok_iff.mp done
    have added := AddsDirectories.put_directory missing
    exact ⟨added, isDirectory_iff.mpr ⟨location, added.keeps.locate leads, by simp⟩⟩
  · split at h
    · rename_i there
      obtain rfl := Except.ok.inj h
      exact ⟨.refl files, there⟩
    · contradiction

theorem makeMissing_of_isDirectory (there : files.isDirectory path = true)
    : files.makeMissing path = .ok files := by
  obtain ⟨location, leads, stands⟩ := isDirectory_iff.mp there
  have refused : files.makeDirectory path = .error .fileExists := by
    simp [makeDirectory, leads, bind, Except.bind, stands, throw, throwThe, MonadExceptOf.throw]
  simp [makeMissing, refused, there]

/-- Ensuring a directory only adds directories, and if it succeeds the path leads to one, by
induction on the names.
-/
theorem ensureNames_spec (files : FileSystem) (root : String) (names : List String)
    : AddsDirectories files (files.ensureNames root names).1
      ∧ ((files.ensureNames root names).2 = .ok ()
        → (files.ensureNames root names).1.isDirectory ⟨root, names.reverse⟩ = true) := by
  fun_induction ensureNames files root names with
  | case1 made done => exact ⟨(makeMissing_spec done).1, fun _ => (makeMissing_spec done).2⟩
  | case2 error refused => exact ⟨.refl files, nofun⟩
  | case3 name above path made done =>
      exact ⟨(makeMissing_spec done).1, fun _ => (makeMissing_spec done).2⟩
  | case4 name above path missing part access outer ih =>
      rw [outer] at ih
      exact ⟨ih.1, nofun⟩
  | case5 name above path missing part outer complete done ih =>
      rw [outer] at ih
      exact ⟨ih.1.trans (makeMissing_spec done).1, fun _ => (makeMissing_spec done).2⟩
  | case6 name above path missing part outer error refused ih =>
      rw [outer] at ih
      exact ⟨ih.1, nofun⟩
  | case7 name above path error refused other => exact ⟨.refl files, nofun⟩

theorem ensureDirectory_adds (files : FileSystem) (path : Path)
    : AddsDirectories files (files.ensureDirectory path).1 :=
  (ensureNames_spec files path.root path.names.reverse).1

theorem isDirectory_ensureDirectory (done : files.ensureDirectory path = (made, .ok ()))
    : made.isDirectory path = true := by
  have spec := (ensureNames_spec files path.root path.names.reverse).2
  rw [show files.ensureNames path.root path.names.reverse = (made, .ok ()) from done,
    List.reverse_reverse] at spec
  exact spec rfl

/-- A directory that is there already is left as it is. -/
theorem ensureDirectory_of_isDirectory (there : files.isDirectory path = true)
    : files.ensureDirectory path = (files, .ok ()) := by
  have kept := makeMissing_of_isDirectory there
  unfold ensureDirectory
  cases names : path.names.reverse with
  | nil =>
      have same : path = ⟨path.root, []⟩ := by
        rw [List.reverse_eq_nil_iff] at names
        rw [← names]
      rw [ensureNames, ← same, kept]
  | cons name above =>
      have same : path = ⟨path.root, (name :: above).reverse⟩ := by
        rw [← names, List.reverse_reverse]
      rw [ensureNames]
      simp only [← same, kept]

end Made

section Written

variable {files made : FileSystem} {path : Path} {location : Location} {content : ByteArray}

theorem read_eq_ok_iff
    : files.read path = .ok content
      ↔ ∃ location, files.locate path = .ok location
        ∧ files.node? location = some (.file content) := by
  unfold read
  cases files.locate path with
  | error error => simp [bind, Except.bind]
  | ok location =>
      cases stands : files.node? location with
      | none => simp [bind, Except.bind, stands, throw, throwThe, MonadExceptOf.throw]
      | some node => cases node <;>
          simp [bind, Except.bind, stands, throw, throwThe, MonadExceptOf.throw, pure, Except.pure]

/-- What cannot be read is not to be reached, is missing or is a directory. -/
theorem read_eq_error_iff {error : FileError}
    : files.read path = .error error
      ↔ files.locate path = .error error
        ∨ (∃ location, files.locate path = .ok location ∧ files.node? location = none
          ∧ error = .noSuchFile)
        ∨ (∃ location, files.locate path = .ok location
          ∧ files.node? location = some .directory ∧ error = .isADirectory) := by
  unfold read
  cases files.locate path with
  | error error => simp [bind, Except.bind]
  | ok location =>
      cases stands : files.node? location with
      | none => simp [bind, Except.bind, stands, throw, throwThe, MonadExceptOf.throw, eq_comm]
      | some node => cases node <;>
          simp [bind, Except.bind, stands, throw, throwThe, MonadExceptOf.throw, pure, Except.pure,
            eq_comm]

theorem target_eq_ok_iff
    : files.target path = .ok location
      ↔ files.locate path = .ok location ∧ files.node? location ≠ some .directory := by
  unfold target
  cases files.locate path with
  | error error => simp [bind, Except.bind]
  | ok place =>
      cases stands : files.node? place with
      | none =>
          simp only [bind, Except.bind, stands, pure, Except.pure, Except.ok.injEq]
          constructor
          · rintro rfl
            simp [stands]
          · exact And.left
      | some node =>
          cases node with
          | file content =>
              simp only [bind, Except.bind, stands, pure, Except.pure, Except.ok.injEq]
              constructor
              · rintro rfl
                simp [stands]
              · exact And.left
          | directory =>
              simp only [bind, Except.bind, stands, throw, throwThe, MonadExceptOf.throw,
                reduceCtorEq, false_iff, not_and]
              intro same
              obtain rfl := Except.ok.inj same
              exact fun apart => apart stands

/-- Whatever is put at a place, all other places keep what stands there. -/
theorem node?_put_of_ne {other : Location} (distinct : other ≠ location) (node : Node)
    : (files.put location node).node? other = files.node? other := by
  rw [node?_put, if_neg distinct]
  split
  · rename_i anchor
    rw [node?, if_pos anchor]
  · rfl

/-- What is put where no directory stands comes to stand there. -/
theorem node?_put_self (apart : files.node? location ≠ some .directory) (node : Node)
    : (files.put location node).node? location = some node := by
  have grounded : ¬ location.IsAnchor := by
    intro anchor
    exact apart (if_pos anchor)
  rw [node?_put, if_neg grounded, if_pos rfl]

/-- A file that is put where no directory stands is found at the path. -/
theorem read_put (leads : files.locate path = .ok location)
    (apart : files.node? location ≠ some .directory) (content : ByteArray)
    : (files.put location (.file content)).read path = .ok content :=
  read_eq_ok_iff.mpr
    ⟨location, (KeepsDirectories.put apart).locate leads, node?_put_self apart _⟩

end Written

end ErrorTables.FileSystem
