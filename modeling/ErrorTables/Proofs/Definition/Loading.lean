import ErrorTables.Definition.File
import ErrorTables.Proofs.FileSystem.Names
import Mathlib

/-! Loading definition files: when a file yields its groups, and the kinds of files that yield
none.
-/

namespace ErrorTables.Definition

open FileSystem Text

section Loading

variable {files : FileSystem} {path : Path}

/-- Bytes that are not UTF-8 have no text. -/
theorem decode_of_invalid {bytes : ByteArray} (invalid : ¬ bytes.IsValidUTF8)
    : ∃ fault, Utf8.decode bytes = .error fault := by
  have none : String.fromUTF8? bytes = none := by simp [String.fromUTF8?, invalid]
  rw [Utf8.decode, none]
  exact ⟨_, rfl⟩

/-- Bytes that have a text are those of the text. -/
theorem eq_toUTF8_of_decode {bytes : ByteArray} {text : String}
    (decoded : Utf8.decode bytes = .ok text)
    : bytes = text.toUTF8 := by
  by_cases valid : bytes.IsValidUTF8
  · obtain ⟨text', rfl⟩ : ∃ text' : String, bytes = text'.toUTF8 := ⟨.fromUTF8 bytes valid, rfl⟩
    rw [Utf8.decode_toUTF8] at decoded
    rw [Except.ok.inj decoded]
  · obtain ⟨fault, undecoded⟩ := decode_of_invalid valid
    rw [undecoded] at decoded
    contradiction

/-- Groups are loaded exactly if they are parsed from the text of the file. -/
theorem load_eq_ok_iff {groups : List Group}
    : load files path = .ok groups
      ↔ ∃ text, files.read path = .ok text.toUTF8
        ∧ parseText (some path.toString) (fileText text) = .ok groups := by
  constructor
  · intro loads
    rw [load] at loads
    cases held : files.read path with
    | error error => cases error <;> simp [held] at loads
    | ok content =>
        cases decoded : Utf8.decode content with
        | error fault => simp [held, decoded] at loads
        | ok text =>
            obtain rfl := eq_toUTF8_of_decode decoded
            refine ⟨text, rfl, ?_⟩
            cases parsed : parseText (some path.toString) (fileText text) with
            | error problem =>
                simp only [held, decoded, parsed, Except.mapError] at loads
                contradiction
            | ok found =>
                simp only [held, decoded, parsed, Except.mapError] at loads
                exact congrArg Except.ok (Except.ok.inj loads)
  · rintro ⟨text, held, parsed⟩
    simp only [load, held, Utf8.decode_toUTF8, parsed, Except.mapError]

-----------------------------------------------------------------------------------------
-- Inputs that yield none
-----------------------------------------------------------------------------------------

/-- A path that leads to no definition file: it cannot be followed, or there is nothing at it, or a
directory, or bytes that are not UTF-8, or a text with an error.
-/
inductive Unusable (files : FileSystem) (path : Path) : Prop where
  | unreachable {error : FileError} (refused : files.locate path = .error error)
  | missing {location : Location} (leads : files.locate path = .ok location)
      (stands : files.node? location = none)
  | directory {location : Location} (leads : files.locate path = .ok location)
      (stands : files.node? location = some .directory)
  | undecodable {location : Location} {bytes : ByteArray} (leads : files.locate path = .ok location)
      (stands : files.node? location = some (.file bytes)) (invalid : ¬ bytes.IsValidUTF8)
  | rejected {location : Location} {text : String} {problem : ParseError}
      (leads : files.locate path = .ok location)
      (stands : files.node? location = some (.file text.toUTF8))
      (parsed : parseText (some path.toString) (fileText text) = .error problem)

/-- What the operating system refuses to read is reported with the path. -/
theorem load_of_read_error {error : FileError} (onDisk : error ≠ .nullInName)
    (refused : files.read path = .error error)
    : load files path = .error (.input (.unreadable path error)) := by
  rw [load, refused]
  cases error with
  | nullInName => contradiction
  | _ => rfl

/-- Only a null character in the path keeps an input from being reported. -/
theorem load_eq_fault_iff {cause : Fault}
    : load files path = .error (.fault cause) ↔ path.HasNull ∧ cause = .nullInName := by
  by_cases null : path.HasNull
  · rw [load, read_eq_nullInName_iff.mpr null]
    simp [null, eq_comm]
  · simp only [null, false_and, iff_false]
    intro refused
    cases held : files.read path with
    | error error =>
        have onDisk : error ≠ .nullInName := by
          rintro rfl
          exact null (read_eq_nullInName_iff.mp held)
        rw [load_of_read_error onDisk held] at refused
        simp at refused
    | ok bytes =>
        cases decoded : Utf8.decode bytes with
        | error fault => simp [load, held, decoded] at refused
        | ok text =>
            cases parsed : parseText (some path.toString) (fileText text) <;>
              simp [load, held, decoded, parsed, Except.mapError] at refused

/-- An unusable input is exactly one whose groups cannot be loaded. -/
theorem unusable_iff : Unusable files path ↔ ∃ problem, load files path = .error problem := by
  have unread {error : FileError} (refused : files.read path = .error error)
      : ∃ problem, load files path = .error problem := by
    cases error <;> exact ⟨_, by rw [load, refused]⟩
  constructor
  · intro unusable
    cases unusable with
    | unreachable refused => exact unread (read_eq_error_iff.mpr (.inl refused))
    | missing leads stands =>
        exact unread (read_eq_error_iff.mpr (.inr (.inl ⟨_, leads, stands, rfl⟩)))
    | directory leads stands =>
        exact unread (read_eq_error_iff.mpr (.inr (.inr ⟨_, leads, stands, rfl⟩)))
    | undecodable leads stands invalid =>
        have held := read_eq_ok_iff.mpr ⟨_, leads, stands⟩
        obtain ⟨fault, undecoded⟩ := decode_of_invalid invalid
        exact ⟨.input (.undecodable path fault.start), by simp only [load, held, undecoded]⟩
    | @rejected _ _ problem leads stands parsed =>
        have held := read_eq_ok_iff.mpr ⟨_, leads, stands⟩
        refine ⟨.parse problem, ?_⟩
        simp only [load, held, Utf8.decode_toUTF8, parsed, Except.mapError]
  · rintro ⟨problem, refused⟩
    rw [load] at refused
    cases held : files.read path with
    | error error =>
        rcases read_eq_error_iff.mp held with unreached | ⟨_, leads, stands, -⟩
          | ⟨_, leads, stands, -⟩
        · exact .unreachable unreached
        · exact .missing leads stands
        · exact .directory leads stands
    | ok bytes =>
        obtain ⟨location, leads, stands⟩ := read_eq_ok_iff.mp held
        cases decoded : Utf8.decode bytes with
        | error fault =>
            refine .undecodable leads stands ?_
            intro valid
            obtain ⟨text, rfl⟩ : ∃ text : String, bytes = text.toUTF8 :=
              ⟨.fromUTF8 bytes valid, rfl⟩
            rw [Utf8.decode_toUTF8] at decoded
            contradiction
        | ok text =>
            obtain rfl := eq_toUTF8_of_decode decoded
            cases parsed : parseText (some path.toString) (fileText text) with
            | error problem => exact .rejected leads stands parsed
            | ok groups =>
                simp only [held, decoded, parsed, Except.mapError] at refused
                contradiction

end Loading

end ErrorTables.Definition
