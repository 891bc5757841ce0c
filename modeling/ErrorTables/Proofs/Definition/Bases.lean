import ErrorTables.Definition.Base
import ErrorTables.Proofs.Definition.LineGrammar
import ErrorTables.Proofs.Digits

/-! Bases of groups as numbers.
A base that is written in hexadecimal digits is read back, and no base of an opening is negative.
-/

namespace ErrorTables.Definition

open Text

theorem toList_hex {number : Int} (h : 0 ≤ number)
    : (Numeral.hex number).toList = '0' :: 'x' :: Nat.toDigits 16 number.natAbs := by
  rw [Numeral.toList_hex, if_neg (by omega), List.nil_append]

/-- The hexadecimal numeral of a natural number is a base, and it is read as that number. -/
theorem readBase_hex {number : Int} (h : 0 ≤ number)
    : readBase (Numeral.hex number) = .ok number := by
  have words : ∀ c ∈ '0' :: 'x' :: Nat.toDigits 16 number.natAbs, isWord c = true := by
    simp only [List.forall_mem_cons]
    exact ⟨by decide, by decide, fun c member => (Numeral.hexDigit_spec member).1⟩
  have trimmed : trim (Numeral.hex number).toList
      = '0' :: 'x' :: Nat.toDigits 16 number.natAbs := by
    rw [toList_hex h]
    exact trimmed_of_isWord words
  simp only [readBase, trimmed, readTrimmedBase, Numeral.read_hexDigits]
  simp [Except.mapError, Int.natAbs_of_nonneg h]

/-- A base without a sign is no negative number. -/
theorem readBase_nonneg {text : String} {base : Int}
    (digits : ∀ c ∈ text.toList, isBaseChar c = true) (h : readBase text = .ok base)
    : 0 ≤ base := by
  have trimmed : trim text.toList = text.toList :=
    trimmed_of_isWord fun c member => isWord_of_isBaseChar (digits c member)
  have unsigned : '-' ∉ text.toList := by
    intro member
    have impossible := digits _ member
    contradiction
  have read : ∃ radix written, '-' ∉ written.toList ∧ Numeral.read radix written = .ok base := by
    simp only [readBase, trimmed] at h
    split at h
    · contradiction
    · cases numeral : readTrimmedBase text.toList with
      | error fault => simp [numeral, Except.mapError] at h
      | ok number =>
          obtain rfl : number = base := by simpa [numeral, Except.mapError] using h
          unfold readTrimmedBase at numeral
          split at numeral
          all_goals
            refine ⟨_, _, ?_, numeral⟩
            simp_all
  obtain ⟨radix, written, unsigned, read⟩ := read
  exact Numeral.read_nonneg unsigned read

theorem isBaseChar_hex {number : Int} (h : 0 ≤ number)
    : ∀ c ∈ (Numeral.hex number).toList, isBaseChar c = true := by
  have table : ∀ digit < 16, isBaseChar (Nat.digitChar digit) = true := by decide
  rw [toList_hex h]
  simp only [List.forall_mem_cons]
  refine ⟨by decide, by decide, ?_⟩
  intro c member
  obtain ⟨digit, small, rfl⟩ := Numeral.exists_digit_of_mem_toDigits (by decide) member
  exact table digit small

end ErrorTables.Definition
