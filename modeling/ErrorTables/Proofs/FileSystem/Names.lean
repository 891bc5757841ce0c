import ErrorTables.Proofs.FileSystem.Directories

/-! The names of paths. A name with a null character is one that no file can have, and a path is
refused for a null only if one of its own names holds it; any other single name leads to itself.
-/

namespace ErrorTables

/-- A name of the path holds a null character. -/
def Path.HasNull (path : Path) : Prop :=
  ∃ name ∈ path.names, '\x00' ∈ name.toList

namespace FileSystem

variable {files : FileSystem} {path : Path} {root name : String} {names : List String}
variable {access : AccessError} {content : ByteArray}

-----------------------------------------------------------------------------------------
-- Names with a null
-----------------------------------------------------------------------------------------

theorem walk_ne_nullInName (files : FileSystem) (location : Location) (names : List String)
    : files.walk location names ≠ .error .nullInName := by
  fun_induction walk files location names with
  | case1 location => nofun
  | case2 location name rest error refused =>
      unfold enter at refused
      split at refused
      · contradiction
      · split at refused
        · obtain rfl := Except.error.inj refused
          nofun
        · contradiction
  | case3 location name next entered => nofun
  | case4 location name next entered other rest stands ih => exact ih
  | case5 location name next entered other rest content stands => nofun
  | case6 location name next entered other rest stands => nofun

theorem hasNull_of_locate (refused : files.locate path = .error .nullInName) : path.HasNull := by
  unfold locate at refused
  split at refused
  · rename_i null
    simpa [Path.HasNull] using null
  · split at refused
    · simp at refused
    · exact absurd refused (walk_ne_nullInName files _ _)

theorem locate_of_hasNull (null : path.HasNull) : files.locate path = .error .nullInName := by
  have held : path.names.any (·.contains '\x00') = true := by simpa [Path.HasNull] using null
  rw [locate, if_pos held]

/-- Reading is refused for a null exactly if the path holds one. -/
theorem read_eq_nullInName_iff : files.read path = .error .nullInName ↔ path.HasNull := by
  rw [read_eq_error_iff]
  constructor
  · rintro (refused | ⟨_, _, _, other⟩ | ⟨_, _, _, other⟩)
    · exact hasNull_of_locate refused
    · contradiction
    · contradiction
  · intro null
    exact .inl (locate_of_hasNull null)

theorem locate_name (null : '\x00' ∉ name.toList) (short : name.utf8ByteSize ≤ maxNameSize)
    (proper : name ≠ "..")
    : files.locate ⟨"", [name]⟩ = .ok [name] := by
  have text : Path.toString ⟨"", [name]⟩ = name := by simp [Path.toString]
  have size : ¬ pathSizeBound ≤ name.utf8ByteSize := by
    simp only [maxNameSize, pathSizeBound] at *
    omega
  have fits : ¬ maxNameSize < name.utf8ByteSize := by omega
  simp [locate, null, text, size, walk, enter, proper, fits]

end FileSystem

end ErrorTables
