import ErrorTables.Proofs.Text.Names
import ErrorTables.Text.UpperCase

/-! Names hold no blanks and no punctuation of ASCII, and they keep this in upper case.
Upper case may leave the word characters, since a letter may become one with marks behind it; that
it brings in no blank and no punctuation is what keeps the rows of headers readable.
-/

namespace ErrorTables.Text

-----------------------------------------------------------------------------------------
-- Solid characters
-----------------------------------------------------------------------------------------

/-- The character is not blank, and a letter, a digit or the underscore if it is one of ASCII. -/
def isSolid (c : Char) : Bool :=
  !isBlank c && (0x80 ≤ c.toNat || isWord c)

/-- The text holds no blanks and no punctuation of ASCII. -/
def Solid (text : List Char) : Prop :=
  ∀ c ∈ text, isSolid c = true

instance (text : List Char) : Decidable (Solid text) :=
  List.decidableBAll (isSolid · = true) text

@[simp]
theorem solid_nil : Solid [] := by
  simp [Solid]

@[simp]
theorem solid_cons {c : Char} {text : List Char}
    : Solid (c :: text) ↔ isSolid c = true ∧ Solid text := by
  simp [Solid]

@[simp]
theorem solid_append {first second : List Char}
    : Solid (first ++ second) ↔ Solid first ∧ Solid second := by
  simp [Solid, or_imp, forall_and]

theorem Solid.not_mem {text : List Char} (h : Solid text) {c : Char} (apart : isSolid c = false)
    : c ∉ text := by
  intro member
  simp [h c member] at apart

theorem Solid.isBlank {text : List Char} (h : Solid text) {c : Char} (member : c ∈ text)
    : isBlank c = false := by
  have solid := h c member
  simp only [isSolid, Bool.and_eq_true, Bool.not_eq_true'] at solid
  exact solid.1

theorem Solid.trim_append {front text back : List Char} (h : Solid text) (before : AllBlank front)
    (behind : AllBlank back)
    : trim (front ++ text ++ back) = text :=
  Text.trim_append before behind
    (fun _ first => h.isBlank (List.mem_of_head? first))
    (fun _ last => h.isBlank (List.mem_of_getLast? last))

theorem isSolid_of_isWord {c : Char} (h : isWord c = true) : isSolid c = true := by
  simp [isSolid, isBlank_of_isWord h, h]

-----------------------------------------------------------------------------------------
-- Upper case
-----------------------------------------------------------------------------------------

theorem isSolid_toUpper {c : Char} (ascii : c.toNat < 0x80) (h : isWord c = true)
    : isSolid c.toUpper = true :=
  forall_ascii (P := fun c => isWord c = true → isSolid c.toUpper = true) (by decide +kernel) ascii
    h

/-- The characters that stand for one letter in upper case are solid. -/
theorem isSolid_expansion {code : Nat} {expansion : List Nat}
    (found : caseExpansions.lookup code = some expansion)
    : Solid (expansion.map Char.ofNat) := by
  have table : ∀ entry ∈ caseExpansions, ∀ code ∈ entry.2, isSolid (Char.ofNat code) = true := by
    decide +kernel
  obtain ⟨before, after, eq, -⟩ := List.lookup_eq_some_iff.mp found
  intro c member
  obtain ⟨raised, inside, same⟩ := List.mem_map.mp member
  exact same ▸ table (code, expansion) (by simp [eq]) raised inside

theorem isSolid_ofNat {code : Nat} (valid : code.isValidChar) (beyond : 0x80 ≤ code)
    (apart : ∀ blank ∈ blanks, code ≠ blank.toNat)
    : isSolid (Char.ofNat code) = true := by
  have same : (Char.ofNat code).toNat = code := by
    rw [Char.ofNat, dif_pos valid]
    rfl
  have solid : isBlank (Char.ofNat code) = false := by
    by_contra blank
    have member : Char.ofNat code ∈ blanks := by simpa [isBlank] using blank
    exact apart _ member same.symm
  simp [isSolid, solid, same, beyond]

/-- A letter that is moved to upper case becomes a solid character. -/
theorem isSolid_raised {run : CaseRun} (member : run ∈ raisingRuns) {code : Nat}
    (held : run.contains code = true)
    : isSolid (Char.ofNat (Int.toNat (code + run.shift))) = true := by
  -- A run is moved to one stretch between the blanks, unless it is a single letter like the long s.
  have table : ∀ run ∈ raisingRuns,
      ((0x80 ≤ run.low + run.shift ∧ (run.high + run.shift < 0xd800
            ∨ 0xdfff < run.low + run.shift ∧ run.high + run.shift < 0x110000)
          ∧ ∀ blank ∈ blanks.map Char.toNat, (blank : Int) < run.low + run.shift
            ∨ run.high + run.shift < blank))
        ∨ (run.low = run.high ∧ isSolid (Char.ofNat (Int.toNat (run.low + run.shift))) = true) := by
    decide +kernel
  simp only [CaseRun.contains, Bool.and_eq_true, decide_eq_true_eq] at held
  rcases table run member with ⟨beyond, valid, apart⟩ | ⟨single, solid⟩
  · apply isSolid_ofNat
    · simp only [Nat.isValidChar]
      omega
    · omega
    · intro blank inside same
      have outside := apart blank.toNat (List.mem_map_of_mem inside)
      omega
  · rwa [show code = run.low by omega]

theorem solid_upperChar {c : Char} (h : isWord c = true) : Solid (upperChar c) := by
  unfold upperChar
  split
  · rename_i ascii
    simpa using isSolid_toUpper ascii h
  · unfold upperNonAscii
    split
    · rename_i expansion found
      exact isSolid_expansion found
    · simp only [solid_cons, solid_nil, and_true]
      unfold shiftCase
      split
      · rename_i run found
        have held : run.contains c.toNat = true := by simpa using List.find?_some found
        exact isSolid_raised (List.mem_of_find?_eq_some found) held
      · exact isSolid_of_isWord h

theorem solid_of_isWord {text : List Char} (words : ∀ c ∈ text, isWord c = true) : Solid text :=
  fun c member => isSolid_of_isWord (words c member)

theorem solid_upper {text : List Char} (words : ∀ c ∈ text, isWord c = true)
    : Solid (upper text) := by
  intro c member
  obtain ⟨letter, inside, raised⟩ := List.mem_flatMap.mp member
  exact solid_upperChar (words letter inside) c raised

end ErrorTables.Text
