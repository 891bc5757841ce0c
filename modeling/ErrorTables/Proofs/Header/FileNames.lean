import ErrorTables.Header.Artifact
import ErrorTables.Proofs.Definition.RoundTrip

/-! The file names and the guards of headers. A file name ends the name of its group at the first
dash, so it tells group and kind apart; a guard has no dash, and tells the kind by its end and the
group as far as the guard of the name does.
-/

namespace ErrorTables.Header

open Text Definition

/-- Things that are written for items in several kinds are distinct exactly if the keys of the items
are, if a thing is told by the key and the kind.
-/
theorem nodup_written_iff {α β γ δ : Type} {items : List α} {kinds : List β} {key : α → δ}
    {write : α → β → γ} (chosen : kinds ≠ []) (distinct : kinds.Nodup)
    (told : ∀ first ∈ items, ∀ second ∈ items, ∀ kind other,
      write first kind = write second other ↔ key first = key second ∧ kind = other)
    : (items.flatMap fun item => kinds.map (write item)).Nodup ↔ (items.map key).Nodup := by
  rw [List.nodup_flatMap]
  constructor
  · rintro ⟨-, apart⟩
    refine List.pairwise_map.mpr (apart.imp_of_mem ?_)
    intro first second member member' disjoint same
    obtain ⟨kind, chosen⟩ := List.exists_mem_of_ne_nil _ chosen
    refine disjoint (List.mem_map.mpr ⟨kind, chosen, rfl⟩) (List.mem_map.mpr ⟨kind, chosen, ?_⟩)
    exact ((told first member second member' kind kind).mpr ⟨same, rfl⟩).symm
  · intro keys
    refine ⟨fun item member => distinct.map fun kind other same => ?_, ?_⟩
    · exact ((told item member item member kind other).mp same).2
    · refine (List.pairwise_map.mp keys).imp_of_mem ?_
      intro first second member member' differ thing inFirst inSecond
      obtain ⟨kind, -, rfl⟩ := List.mem_map.mp inFirst
      obtain ⟨other, -, same⟩ := List.mem_map.mp inSecond
      exact differ ((told second member' first member other kind).mp same).1.symm

-----------------------------------------------------------------------------------------
-- Names of files
-----------------------------------------------------------------------------------------

/-- The name of a header up to its extension. -/
def Artifact.stem (artifact : Artifact) (group : String) : String :=
  group ++ ("-" ++ (artifact.suffix ++ "."))

section Stems

variable {artifact kind : Artifact} {group other extension : String}

theorem fileName_eq (artifact : Artifact) (group extension : String)
    : artifact.fileName group extension = artifact.stem group ++ extension := by
  simp [Artifact.fileName, Artifact.stem, toString, String.append_assoc]

theorem suffix_injective : Function.Injective Artifact.suffix := by
  intro artifact kind same
  revert same
  cases artifact <;> cases kind <;> decide

/-- A name ends at the first dash of a stem, and what comes behind it tells the kind. -/
theorem stem_inj (named : isName group.toList = true)
    (named' : isName other.toList = true)
    : artifact.stem group = kind.stem other ↔ group = other ∧ artifact = kind := by
  constructor
  · intro same
    have dash (rest : List Char) : ∀ c, ('-' :: rest).head? = some c → isWord c = false := by
      rintro c head
      obtain rfl := Option.some.inj head
      decide +kernel
    have chars (artifact : Artifact) (group : String) : (artifact.stem group).toList
        = group.toList ++ '-' :: (artifact.suffix ++ ".").toList := by
      simp [Artifact.stem]
    have front (artifact : Artifact) {group : String}
        (named : isName group.toList = true)
        : (artifact.stem group).toList.takeWhile isWord = group.toList := by
      rw [chars]
      exact takeWhile_run (fun c => isWord_of_isName named) (dash _)
    have names : group = other := by
      rw [← String.toList_inj, ← front artifact named, same, front kind named']
    subst names
    have suffixes : artifact.suffix = kind.suffix := by
      simpa [Artifact.stem, String.append_right_inj, String.append_left_inj] using same
    exact ⟨rfl, suffix_injective suffixes⟩
  · rintro ⟨rfl, rfl⟩
    rfl

theorem fileName_inj (named : isName group.toList = true) (named' : isName other.toList = true)
    : artifact.fileName group extension = kind.fileName other extension
      ↔ group = other ∧ artifact = kind := by
  rw [fileName_eq, fileName_eq, String.append_left_inj, stem_inj named named']

/-- A stem is a part of a name: it holds a dash and no slash. -/
theorem mem_stem (artifact : Artifact) (named : isName group.toList = true)
    : '/' ∉ (artifact.stem group).toList ∧ '-' ∈ (artifact.stem group).toList := by
  have inGroup : '/' ∉ group.toList := by
    intro member
    have word := isWord_of_isName named member
    revert word
    decide +kernel
  have inSuffix : '/' ∉ artifact.suffix.toList := by
    cases artifact <;> decide
  simp [Artifact.stem, inGroup, inSuffix]

end Stems

section Guards

variable {artifact kind : Artifact} {first second extension : String}

theorem guardToken_append (first second : String)
    : guardToken (first ++ second) = guardToken first ++ guardToken second := by
  simp [guardToken, String.ofList_append]

/-- What the guard of a header says between the name of its group and the extension. -/
def Artifact.guardMark (artifact : Artifact) : String :=
  guardToken ("-" ++ (artifact.suffix ++ "."))

theorem guardToken_fileName (artifact : Artifact) (group extension : String)
    : guardToken (artifact.fileName group extension)
      = guardToken group ++ artifact.guardMark ++ guardToken extension := by
  rw [fileName_eq, Artifact.stem, guardToken_append, guardToken_append]
  rfl

/-- No mark is the end of another one: they differ in the character before their common end. -/
theorem guardMark_suffix_iff
    : artifact.guardMark.toList <:+ kind.guardMark.toList ↔ artifact = kind := by
  constructor
  · revert artifact kind
    have table : ∀ artifact ∈ Artifact.all, ∀ kind ∈ Artifact.all,
        artifact.guardMark.toList <:+ kind.guardMark.toList → artifact = kind := by
      decide +kernel
    intro artifact kind
    exact table artifact (by cases artifact <;> decide) kind (by cases kind <;> decide)
  · rintro rfl
    exact List.suffix_rfl

/-- Guards agree for headers of one kind whose groups have names with one guard, and for no others.
-/
theorem guardToken_fileName_inj
    : guardToken (artifact.fileName first extension) = guardToken (kind.fileName second extension)
      ↔ artifact = kind ∧ guardToken first = guardToken second := by
  rw [guardToken_fileName, guardToken_fileName, String.append_left_inj]
  constructor
  · intro same
    have chars := congrArg String.toList same
    simp only [String.toList_append] at chars
    have ends := List.suffix_append (guardToken first).toList artifact.guardMark.toList
    rw [chars] at ends
    have kinds : artifact = kind := by
      rcases List.suffix_or_suffix_of_suffix ends (List.suffix_append _ _) with shorter | longer
      · exact guardMark_suffix_iff.mp shorter
      · exact (guardMark_suffix_iff.mp longer).symm
    subst kinds
    exact ⟨rfl, (String.append_left_inj _).mp same⟩
  · rintro ⟨rfl, same⟩
    rw [same]

end Guards

-----------------------------------------------------------------------------------------
-- Identifiers
-----------------------------------------------------------------------------------------

/-- The text is an identifier in capital letters: it holds capital letters and digits of ASCII and
underscores, and starts with no digit.
-/
def IsCapitalWord (text : List Char) : Prop :=
  (∀ c ∈ text, c.isUpper = true ∨ c.isDigit = true ∨ c = '_')
    ∧ ∃ first ∈ text.head?, first.isDigit = false

/-- A character of a guard: what may not stand in one is replaced. -/
def guardChar (c : Char) : Char :=
  if isGuardChar c then c else '_'

theorem guardChar_spec (c : Char)
    : (guardChar c).isUpper = true ∨ (guardChar c).isDigit = true ∨ guardChar c = '_' := by
  unfold guardChar
  split
  · rename_i kept
    simp only [isGuardChar, Bool.or_eq_true, Bool.and_eq_true, decide_eq_true_eq] at kept
    rcases kept with capital | digit
    · exact .inl (by simpa [Char.isUpper, Char.le_def] using capital)
    · exact .inr (.inl (by simpa [Char.isDigit, Char.le_def] using digit))
  · exact .inr (.inr rfl)

/-- The guard of what starts as a name starts with a capital letter or the underscore. -/
theorem isDigit_guardChar_toUpper {c : Char} (start : isNameStart c = true)
    : (guardChar c.toUpper).isDigit = false :=
  forall_ascii (P := fun c => isNameStart c = true → (guardChar c.toUpper).isDigit = false)
    (by decide +kernel) (toNat_lt_of_isNameStart start) start

theorem isCapitalWord_guardToken {group : String} (named : isName group.toList = true)
    (artifact : Artifact) (extension : String)
    : IsCapitalWord (guardToken (artifact.fileName group extension)).toList := by
  have chars (text : String) : (guardToken text).toList = (upper text.toList).map guardChar := by
    simp only [guardToken, String.toList_ofList]
    rfl
  refine ⟨?_, ?_⟩
  · intro c member
    rw [chars] at member
    obtain ⟨raised, -, rfl⟩ := List.mem_map.mp member
    exact guardChar_spec raised
  · obtain ⟨c, rest, start, letter⟩ := isName_head named
    have ascii := toNat_lt_of_isNameStart letter
    refine ⟨guardChar c.toUpper, ?_, isDigit_guardChar_toUpper letter⟩
    simp [guardToken_fileName, chars, start, upperChar, ascii]

/-- What tells the headers of all groups apart, whatever their extension is. Two headers have one
file name only if they are of one kind and for groups of one name, so that the headers of one input
have file names of their own. Two headers have one guard exactly if they are of one kind and the
names of their groups have one guard; and all guards are identifiers.
-/
theorem fileNames_and_guards_coincide (extension : String)
    : (∀ (first second : String) (artifact kind : Artifact),
        isName first.toList = true → isName second.toList = true
        → (artifact.fileName first extension = kind.fileName second extension
            ↔ first = second ∧ artifact = kind)
          ∧ (guardToken (artifact.fileName first extension)
                = guardToken (kind.fileName second extension)
              ↔ artifact = kind ∧ guardToken first = guardToken second)
          ∧ IsCapitalWord (guardToken (artifact.fileName first extension)).toList)
      ∧ ∀ source text groups, parseText source text = .ok groups
        → (groups.flatMap fun group =>
            Artifact.all.map fun artifact => artifact.fileName group.name extension).Nodup := by
  refine ⟨fun first second artifact kind named named' => ?_, fun source text groups read => ?_⟩
  · exact ⟨fileName_inj named named', guardToken_fileName_inj,
      isCapitalWord_guardToken named artifact extension⟩
  · obtain ⟨names, writable⟩ := representable_of_parseText read
    have told : ∀ first ∈ groups, ∀ second ∈ groups, ∀ artifact kind : Artifact,
        artifact.fileName first.name extension = kind.fileName second.name extension
          ↔ first.name = second.name ∧ artifact = kind :=
      fun first member second member' _ _ =>
        fileName_inj (writable first member).name (writable second member').name
    have all : Artifact.all ≠ [] ∧ Artifact.all.Nodup := by decide
    exact (nodup_written_iff all.1 all.2 told).mpr names

/-- Groups whose names differ by a letter that becomes two in upper case: their headers have files
of their own, and those of one kind have one guard.
-/
theorem fileNames_and_guards_coincide_sharp_s
    : isName "a\u00df".toList = true ∧ isName "ass".toList = true
      ∧ guardToken "a\u00df" = guardToken "ass"
      ∧ Artifact.info.fileName "a\u00df" "h" ≠ Artifact.info.fileName "ass" "h"
      ∧ guardToken (Artifact.info.fileName "a\u00df" "h")
          = guardToken (Artifact.info.fileName "ass" "h")
      ∧ guardToken (Artifact.info.fileName "a\u00df" "h")
          ≠ guardToken (Artifact.symbols.fileName "ass" "h")
      ∧ IsCapitalWord (guardToken (Artifact.info.fileName "a\u00df" "h")).toList := by
  have named : isName "a\u00df".toList = true := by decide +kernel
  have named' : isName "ass".toList = true := by decide +kernel
  have same : guardToken "a\u00df" = guardToken "ass" := by decide +kernel
  obtain ⟨names, guards, word⟩ :=
    (fileNames_and_guards_coincide "h").1 "a\u00df" "ass" .info .info named named'
  obtain ⟨-, others, -⟩ :=
    (fileNames_and_guards_coincide "h").1 "a\u00df" "ass" .info .symbols named named'
  refine ⟨named, named', same, mt names.mp (by decide), guards.mpr ⟨rfl, same⟩, mt others.mp ?_,
    word⟩
  decide

end ErrorTables.Header
