import ErrorTables.Proofs.FileSystem.Directories

/-! Changes of a file system by the paths that they are made through. Nothing is assumed about
where the paths lead: different paths may lead to one place, and a path may lead to a file that was
there before.
-/

namespace ErrorTables.FileSystem

-----------------------------------------------------------------------------------------
-- Where changes are made
-----------------------------------------------------------------------------------------

/-- Directories are kept, and nothing differs but at the places that the paths lead to, and where
directories stand in place of nothing.
-/
structure ChangesWithin (paths : List Path) (before after : FileSystem) : Prop where
  directories : KeepsDirectories before after
  others
    : ∀ location, (∀ path ∈ paths, after.locate path ≠ .ok location)
      → after.node? location = before.node? location
        ∨ (before.node? location = none ∧ after.node? location = some .directory)

section Changes

variable {before between after files : FileSystem} {first second paths : List Path} {path : Path}
variable {location : Location} {content : ByteArray}

theorem AddsDirectories.changesWithin (added : AddsDirectories before after)
    : ChangesWithin [] before after :=
  ⟨added.keeps, fun location _ => added location⟩

theorem ChangesWithin.refl (files : FileSystem) : ChangesWithin [] files files :=
  (AddsDirectories.refl files).changesWithin

/-- More paths allow for more changes. -/
theorem ChangesWithin.mono (h : ChangesWithin first before after) (more : first ⊆ second)
    : ChangesWithin second before after :=
  ⟨h.directories, fun location apart => h.others location fun path member =>
    apart path (more member)⟩

/-- Paths lead at the end to where they led in between, so that the changes add up. -/
theorem ChangesWithin.trans (h : ChangesWithin first before between)
    (h' : ChangesWithin second between after)
    : ChangesWithin (first ++ second) before after := by
  refine ⟨h.directories.trans h'.directories, fun location apart => ?_⟩
  have apart' : ∀ path ∈ first, between.locate path ≠ .ok location := by
    intro path member leads
    exact apart path (List.mem_append_left _ member) (h'.directories.locate leads)
  have later := h'.others location fun path member => apart path (List.mem_append_right _ member)
  rcases h.others location apart' with same | ⟨missing, made⟩
  · rw [← same]
    exact later
  · rcases later with same | ⟨missing', -⟩
    · exact .inr ⟨missing, same.trans made⟩
    · rw [made] at missing'
      contradiction

/-- A file is put where the path leads to, over a file or nothing. -/
theorem ChangesWithin.put (leads : files.locate path = .ok location)
    (apart : files.node? location ≠ some .directory) (content : ByteArray)
    : ChangesWithin [path] files (files.put location (.file content)) := by
  have kept : KeepsDirectories files (files.put location (.file content)) := .put apart
  refine ⟨kept, fun other unreached => .inl (node?_put_of_ne ?_ _)⟩
  rintro rfl
  exact unreached path (List.mem_singleton_self path) (kept.locate leads)

/-- A file that none of the paths leads to keeps its bytes. -/
theorem ChangesWithin.node?_eq (h : ChangesWithin paths before after)
    (stands : before.node? location = some (.file content))
    (apart : ∀ path ∈ paths, after.locate path ≠ .ok location)
    : after.node? location = some (.file content) := by
  rcases h.others location apart with same | ⟨missing, -⟩
  · exact same.trans stands
  · rw [stands] at missing
    contradiction

/-- A file is read as before, unless one of the paths leads to it. -/
theorem ChangesWithin.read (h : ChangesWithin paths before after)
    (held : before.read path = .ok content)
    (apart : ∀ other ∈ paths, after.locate other ≠ after.locate path)
    : after.read path = .ok content := by
  obtain ⟨location, leads, stands⟩ := read_eq_ok_iff.mp held
  have leads' := h.directories.locate leads
  refine read_eq_ok_iff.mpr ⟨location, leads', h.node?_eq stands ?_⟩
  intro other member same
  exact apart other member (same.trans leads'.symm)

end Changes

-----------------------------------------------------------------------------------------
-- What is written
-----------------------------------------------------------------------------------------

/-- The second file system is the first one after it has received texts at paths, one after the
other. A text is found where its path leads to, unless a later path leads there as well.
-/
structure Receives (before : FileSystem) (writes : List (Path × String)) (after : FileSystem)
    : Prop where
  changes : ChangesWithin (writes.map (·.1)) before after
  latest
    : ∀ earlier path text later, writes = earlier ++ (path, text) :: later
      → ∃ location, after.locate path = .ok location
        ∧ ((∀ write ∈ later, after.locate write.1 ≠ .ok location)
          → after.node? location = some (.file text.toUTF8))

section Received

variable {before between after files made : FileSystem} {first second : List (Path × String)}
variable {path : Path} {text : String}

theorem AddsDirectories.receives (added : AddsDirectories before after)
    : Receives before [] after :=
  ⟨added.changesWithin, by simp⟩

theorem Receives.refl (files : FileSystem) : Receives files [] files :=
  (AddsDirectories.refl files).receives

/-- A text stays where it is when no later path leads there. -/
theorem Receives.trans (h : Receives before first between) (h' : Receives between second after)
    : Receives before (first ++ second) after := by
  refine ⟨by simpa using h.changes.trans h'.changes, ?_⟩
  intro earlier path text later split
  rcases List.append_eq_append_iff.mp split with ⟨skipped, -, split'⟩ | ⟨rest, split', joined⟩
  · exact h'.latest skipped path text later split'
  · rcases List.cons_eq_append_iff.mp joined with ⟨rfl, rfl⟩ | ⟨middle, rfl, rfl⟩
    · exact h'.latest [] path text later rfl
    · obtain ⟨location, leads, held⟩ := h.latest earlier path text middle split'
      refine ⟨location, h'.changes.directories.locate leads, fun final => ?_⟩
      have stands : between.node? location = some (.file text.toUTF8) := by
        refine held fun write member leads' => ?_
        exact final write (by simp [member]) (h'.changes.directories.locate leads')
      refine h'.changes.node?_eq stands ?_
      intro other member
      obtain ⟨write, found, rfl⟩ := List.mem_map.mp member
      exact final write (by simp [found])

/-- A text can be read at its path if no later path leads to the same place. -/
theorem Receives.read (h : Receives before first after) {earlier later : List (Path × String)}
    (split : first = earlier ++ (path, text) :: later)
    (final : ∀ write ∈ later, after.locate write.1 ≠ after.locate path)
    : after.read path = .ok text.toUTF8 := by
  obtain ⟨location, leads, held⟩ := h.latest earlier path text later split
  rw [leads] at final
  exact read_eq_ok_iff.mpr ⟨location, leads, held final⟩

/-- A path that something was written to leads somewhere. -/
theorem Receives.exists_locate (h : Receives before first after) {write : Path × String}
    (member : write ∈ first)
    : ∃ location, after.locate write.1 = .ok location := by
  obtain ⟨earlier, later, split⟩ := List.append_of_mem member
  obtain ⟨location, leads, -⟩ := h.latest earlier write.1 write.2 later split
  exact ⟨location, leads⟩

/-- All texts can be read at their paths if these lead to different places. -/
theorem Receives.read_of_nodup (h : Receives before first after)
    (apart : ((first.map (·.1)).map after.locate).Nodup) {write : Path × String}
    (member : write ∈ first)
    : after.read write.1 = .ok write.2.toUTF8 := by
  obtain ⟨earlier, later, split⟩ := List.append_of_mem member
  refine h.read split fun other final same => ?_
  rw [split] at apart
  simp only [List.map_append, List.map_cons, List.nodup_append, List.nodup_cons] at apart
  exact apart.2.1.1 (List.mem_map.mpr ⟨other.1, List.mem_map.mpr ⟨other, final, rfl⟩, same⟩)

theorem write_eq_ok_iff {content : ByteArray} {written : FileSystem}
    : files.write path content = .ok written
      ↔ ∃ location, files.target path = .ok location
        ∧ written = files.put location (.file content) := by
  unfold write
  cases files.target path with
  | error error => simp [Except.map]
  | ok location => simp [Except.map, eq_comm]

/-- A text is put where the path leads to, over a file or nothing. -/
theorem Receives.put {location : Location} (leads : files.locate path = .ok location)
    (apart : files.node? location ≠ some .directory) (text : String)
    : Receives files [(path, text)] (files.put location (.file text.toUTF8)) := by
  refine ⟨.put leads apart _, ?_⟩
  intro earlier path' text' later split
  rcases List.append_eq_singleton_iff.mp split.symm with ⟨-, same⟩ | ⟨-, none⟩
  · obtain ⟨pair, -⟩ := List.cons.inj same
    obtain ⟨rfl, rfl⟩ := Prod.mk.inj pair
    exact ⟨location, (KeepsDirectories.put apart).locate leads, fun _ => node?_put_self apart _⟩
  · contradiction

/-- A file is written once its directory is made, and else directories are made at most. -/
theorem writeDeep_spec (files : FileSystem) (path : Path) (text : String)
    : (∃ after, files.writeDeep path text.toUTF8 = (after, .ok ())
        ∧ Receives files [(path, text)] after)
      ∨ ∃ after access, files.writeDeep path text.toUTF8 = (after, .error access)
        ∧ Receives files [] after := by
  have added := ensureDirectory_adds files path.parent
  rcases ensured : files.ensureDirectory path.parent with ⟨made, access | _⟩
  · rw [ensured] at added
    exact .inr ⟨made, access, by simp only [writeDeep, ensured], added.receives⟩
  · rw [ensured] at added
    cases wrote : made.write path text.toUTF8 with
    | error error =>
        exact .inr ⟨made, ⟨error, path⟩, by simp only [writeDeep, ensured, wrote], added.receives⟩
    | ok written =>
        obtain ⟨location, found, rfl⟩ := write_eq_ok_iff.mp wrote
        obtain ⟨leads, apart⟩ := target_eq_ok_iff.mp found
        exact .inl ⟨_, by simp only [writeDeep, ensured, wrote],
          added.receives.trans (.put leads apart text)⟩

end Received

end ErrorTables.FileSystem
