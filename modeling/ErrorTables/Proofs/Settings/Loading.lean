import ErrorTables.Proofs.Definition.Loading
import ErrorTables.Proofs.FileSystem.Names
import ErrorTables.Proofs.Settings.Mappings
import ErrorTables.Settings.File

/-! Settings files that end in a fault, whatever reads them.
Most of what is wrong with a settings file is reported. What is not is listed here, and it is all.
-/

namespace ErrorTables.Settings

open FileSystem Text

variable {readers : Readers} {files : FileSystem} {path : Path} {text : String} {fault : Fault}
variable {document : Except DocumentProblem Value} {pairs : List (Value × Value)}

-----------------------------------------------------------------------------------------
-- Documents
-----------------------------------------------------------------------------------------

/-- There is a file at the path with a text that stands for a value, or has the problem. -/
def Holds (readers : Readers) (files : FileSystem) (path : Path)
    (document : Except DocumentProblem Value) : Prop :=
  ∃ text : String, files.read path = .ok text.toUTF8
    ∧ readers.document path (Definition.fileText text) = document

/-- The settings that a document makes. -/
def ofDocument (plain : Value → Except Fault String) (path : Path)
    : Value → Except SettingsProblem Settings
  | .null => ofMappingWith plain []
  | .mapping pairs => ofMappingWith plain pairs
  | _ => .error (.refused (.notAMapping path))

theorem load_of_holds (held : Holds readers files path document)
    : loadWith readers files path
      = document.mapError (documentProblem path) >>= ofDocument readers.plain path := by
  obtain ⟨text, held, rfl⟩ := held
  rw [loadWith, held]
  simp only [Except.mapError, bind, Except.bind, Utf8.decode_toUTF8, Definition.fileText]
  cases readers.document path (String.ofList (unifyBreaks text.toList)) with
  | error problem => rfl
  | ok value => cases value <;> rfl

/-- The settings of a document are a fault exactly if it is a mapping that is one. -/
theorem ofDocument_faults_iff {value : Value}
    : (∃ fault, ofDocument readers.plain path value = .error (.fault fault))
      ↔ ∃ pairs, value = .mapping pairs
        ∧ ∃ fault, ofMappingWith readers.plain pairs = .error (.fault fault) := by
  have nothing : ¬ ∃ fault, ofMappingWith readers.plain [] = .error (.fault fault) := by
    rw [ofMapping_faults_iff, ofKnown_iff readers.plain_text]
    simp [textValues, bannerValues, Value.field?, Value.find?, textKeys]
  cases value <;> simp_all [ofDocument]

-----------------------------------------------------------------------------------------
-- Causes of faults
-----------------------------------------------------------------------------------------

/-- The causes of faults in settings files. Nothing is read behind a null in the path, and nothing
is decoded from bytes that are not UTF-8. The reader of a document may fail otherwise than by
finding it malformed. All other causes lie in a mapping: a key that is no text; and, where all keys
are known, a single value in place of the lines of the banner, or a value that is taken by its text
and has none.
-/
inductive HasFault (readers : Readers) (files : FileSystem) (path : Path) : Prop where
  | name (null : path.HasNull)
  | encoding {bytes : ByteArray} (held : files.read path = .ok bytes)
      (invalid : ¬ bytes.IsValidUTF8)
  | document {fault : Fault} (held : Holds readers files path (.error (.fault fault)))
  | key {pairs : List (Value × Value)} {key : Value}
      (held : Holds readers files path (.ok (.mapping pairs))) (member : key ∈ pairs.map (·.1))
      (other : ∀ name, key ≠ .text name)
  | banner {pairs : List (Value × Value)} {value : Value}
      (held : Holds readers files path (.ok (.mapping pairs)))
      (known : ∀ key ∈ pairs.map (·.1), isKnown key = true)
      (given : Value.field? "banner_lines" pairs = some value) (set : value.truth = true)
      (single : value.isIterable = false)
  | text {pairs : List (Value × Value)} {value : Value} {fault : Fault}
      (held : Holds readers files path (.ok (.mapping pairs)))
      (known : ∀ key ∈ pairs.map (·.1), isKnown key = true)
      (taken : value ∈ textValues pairs) (refused : readers.plain value = .error fault)

/-- The fault of a mapping is that of a key, the banner or a value without a text. -/
theorem hasFault_of_mapping (held : Holds readers files path (.ok (.mapping pairs)))
    (faulty : ∃ fault, ofMappingWith readers.plain pairs = .error (.fault fault))
    : HasFault readers files path := by
  rcases (ofMapping_faults_causes readers.plain_text).mp faulty with ⟨key, member, other⟩
    | ⟨known, ⟨value, given, set, single⟩ | ⟨value, taken, fault, refused⟩⟩
  · exact .key held member other
  · exact .banner held known given set single
  · exact .text held known taken refused

/-- Every fault has one of the causes: the steps of loading are gone through one by one. -/
theorem hasFault_of_load (loads : loadWith readers files path = .error (.fault fault))
    : HasFault readers files path := by
  cases held : files.read path with
  | error error =>
      rw [loadWith, held] at loads
      by_cases null : error = .nullInName
      · subst null
        exact .name (read_eq_nullInName_iff.mp held)
      · simp [null, Except.mapError, bind, Except.bind] at loads
  | ok bytes =>
      by_cases valid : bytes.IsValidUTF8
      · obtain ⟨text, rfl⟩ : ∃ text : String, bytes = text.toUTF8 := ⟨.fromUTF8 bytes valid, rfl⟩
        rw [load_of_holds ⟨text, held, rfl⟩] at loads
        cases made : readers.document path (Definition.fileText text) with
        | error problem =>
            rw [made] at loads
            cases problem with
            | malformed detail =>
                simp [documentProblem, Except.mapError, bind, Except.bind] at loads
            | fault cause => exact .document ⟨text, held, made⟩
        | ok value =>
            rw [made] at loads
            obtain ⟨pairs, rfl, faulty⟩ := ofDocument_faults_iff.mp ⟨fault, loads⟩
            exact hasFault_of_mapping ⟨text, held, made⟩ faulty
      · exact .encoding held valid

theorem load_of_faulty_mapping (held : Holds readers files path (.ok (.mapping pairs)))
    (faulty : ∃ fault, ofMappingWith readers.plain pairs = .error (.fault fault))
    : ∃ fault, loadWith readers files path = .error (.fault fault) := by
  rw [load_of_holds held]
  exact faulty

/-- Each of the causes makes loading end in a fault. -/
theorem HasFault.load (cause : HasFault readers files path)
    : ∃ fault, loadWith readers files path = .error (.fault fault) := by
  cases cause with
  | name null =>
      refine ⟨.nullInName, ?_⟩
      simp [loadWith, read_eq_nullInName_iff.mpr null, Except.mapError, bind, Except.bind]
  | encoding held invalid =>
      obtain ⟨fault, undecoded⟩ := Definition.decode_of_invalid invalid
      refine ⟨.undecodable fault, ?_⟩
      simp [loadWith, held, undecoded, Except.mapError, bind, Except.bind]
  | document held =>
      rw [load_of_holds held]
      exact ⟨_, rfl⟩
  | key held member other =>
      refine load_of_faulty_mapping held ((ofMapping_faults_causes readers.plain_text).mpr ?_)
      exact .inl ⟨_, member, other⟩
  | banner held known given set single =>
      refine load_of_faulty_mapping held ((ofMapping_faults_causes readers.plain_text).mpr ?_)
      exact .inr ⟨known, .inl ⟨_, given, set, single⟩⟩
  | text held known taken refused =>
      refine load_of_faulty_mapping held ((ofMapping_faults_causes readers.plain_text).mpr ?_)
      exact .inr ⟨known, .inr ⟨_, taken, _, refused⟩⟩

/-- Loading gives settings, or a refusal that is reported, unless one of the causes of faults is
there.
-/
theorem load_reports_iff (readers : Readers) (files : FileSystem) (path : Path)
    : (∃ settings, loadWith readers files path = .ok settings)
        ∨ (∃ error, loadWith readers files path = .error (.refused error))
      ↔ ¬ HasFault readers files path := by
  have faulty : HasFault readers files path
      ↔ ∃ fault, loadWith readers files path = .error (.fault fault) :=
    ⟨HasFault.load, fun ⟨_, loads⟩ => hasFault_of_load loads⟩
  rw [faulty]
  rcases loadWith readers files path with (error | fault) | settings <;> simp

/-- A number as a key is not reported as an unknown key, as any text would be. -/
theorem load_misses_number_as_key
    : let path : Path := ⟨"", ["c.yml"]⟩
      load (.ofList [(path, .file "1: x\n".toUTF8)]) path
        = .error (.fault (.keyNotText "int")) := by
  intro path
  have held : (FileSystem.ofList [(path, .file "1: x\n".toUTF8)]).read path
      = .ok "1: x\n".toUTF8 := by
    cbv
  have made : Readers.standard.document path (Definition.fileText "1: x\n")
      = .ok (.mapping [(.integer 1, .text "x")]) := by
    rw [Readers.document, if_pos (by decide +kernel)]
    cbv
  rw [load, load_of_holds ⟨_, held, made⟩]
  rfl

end ErrorTables.Settings
