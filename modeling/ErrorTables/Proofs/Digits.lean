import ErrorTables.Numeral
import ErrorTables.Proofs.Text.Names

/-! Digits that are written can be read back, in every radix.
The digits of a number are characters of names, so that no numeral is cut by blanks around it.
-/

namespace ErrorTables.Numeral

open Text

/-- A numeral is written with the digits below the size of its radix, by induction on the number. -/
theorem exists_digit_of_mem_toDigits {radix number : Nat} (hr : 1 < radix) {c : Char}
    (member : c ∈ Nat.toDigits radix number)
    : ∃ digit, digit < radix ∧ c = Nat.digitChar digit := by
  induction number using Nat.strongRecOn with
  | ind number ih =>
      rw [Nat.toDigits_eq_if hr] at member
      split at member
      · rename_i small
        exact ⟨number, small, by simpa using member⟩
      · rename_i large
        rcases List.mem_append.mp member with front | last
        · exact ih (number / radix) (Nat.div_lt_self (by omega) hr) front
        · exact ⟨number % radix, Nat.mod_lt _ (by omega), by simpa using last⟩

theorem digit?_digitChar {radix : Radix} {digit : Nat} (small : digit < radix.size)
    : digit? radix (Nat.digitChar digit) = some digit := by
  have table : ∀ radix, ∀ digit < radix.size, digit? radix (Nat.digitChar digit) = some digit := by
    intro radix
    cases radix <;> decide
  exact table radix digit small

theorem one_lt_size (radix : Radix) : 1 < radix.size := by
  cases radix <;> decide

theorem ofDigits_append (radix : Radix) (digits : List Nat) (last : Nat)
    : ofDigits radix (digits ++ [last]) = ofDigits radix digits * radix.size + last := by
  simp [ofDigits]

/-- The digits of a number stand for it, by induction on the number. -/
theorem ofDigits_toDigits (radix : Radix) (number : Nat)
    : ofDigits radix ((Nat.toDigits radix.size number).filterMap (digit? radix)) = number := by
  induction number using Nat.strongRecOn with
  | ind number ih =>
      have hr := one_lt_size radix
      rw [Nat.toDigits_eq_if hr]
      split
      · rename_i small
        simp [digit?_digitChar small, ofDigits]
      · rename_i large
        have last := digit?_digitChar (Nat.mod_lt number (Nat.lt_of_succ_lt hr))
        have shorter := ih (number / radix.size) (Nat.div_lt_self (by omega) hr)
        have split : (Nat.toDigits radix.size (number / radix.size)
              ++ [Nat.digitChar (number % radix.size)]).filterMap (digit? radix)
            = (Nat.toDigits radix.size (number / radix.size)).filterMap (digit? radix)
              ++ [number % radix.size] := by
          simp [last]
        rw [split, ofDigits_append, shorter]
        exact Nat.div_add_mod' number radix.size

/-- All digits are word characters, below the underscore and the marker of hexadecimal numerals. -/
theorem digitChar_spec {digit : Nat} (small : digit < 16)
    : isWord (Nat.digitChar digit) = true ∧ Nat.digitChar digit ≠ '_'
      ∧ (Nat.digitChar digit).toLower ≠ 'x' := by
  have table : ∀ digit < 16, isWord (Nat.digitChar digit) = true ∧ Nat.digitChar digit ≠ '_'
      ∧ (Nat.digitChar digit).toLower ≠ 'x' := by decide
  exact table digit small

/-- The digits of a hexadecimal numeral are not blank, no marker and no underscore. -/
theorem hexDigit_spec {number : Nat} {c : Char} (member : c ∈ Nat.toDigits 16 number)
    : isWord c = true ∧ c ≠ '_' ∧ c.toLower ≠ 'x' := by
  obtain ⟨digit, small, rfl⟩ := exists_digit_of_mem_toDigits (by decide) member
  exact digitChar_spec small

/-- The characters of a hexadecimal numeral: a minus if it is negative, the marker, the digits. -/
theorem toList_hex (number : Int)
    : (hex number).toList
      = (if number < 0 then ['-'] else []) ++ '0' :: 'x' :: Nat.toDigits 16 number.natAbs := by
  unfold hex
  split <;> simp_all

/-- Hexadecimal numerals are ASCII. -/
theorem toNat_of_mem_hex {number : Int} {c : Char} (member : c ∈ (hex number).toList)
    : c.toNat < 0x80 := by
  have digits : c ∈ Nat.toDigits 16 number.natAbs → c.toNat < 0x80 := by
    have table : ∀ digit < 16, (Nat.digitChar digit).toNat < 0x80 := by decide
    intro inside
    obtain ⟨digit, small, rfl⟩ := exists_digit_of_mem_toDigits (by decide) inside
    exact table digit small
  rw [toList_hex, List.mem_append, List.mem_cons, List.mem_cons] at member
  rcases member with minus | rfl | rfl | inside
  · split at minus <;> simp_all
  · decide
  · decide
  · exact digits inside

theorem not_mem_decimal {c : Char} (number : Nat) (apart : isWord c = false)
    : c ∉ Nat.toDigits 10 number := by
  intro member
  obtain ⟨digit, small, same⟩ := exists_digit_of_mem_toDigits (by decide) member
  simp [same, (digitChar_spec (Nat.lt_trans small (by decide))).1] at apart

/-- A text of word characters has no padding in front and no sign. -/
theorem splitSign_of_isWord {text : List Char} (words : ∀ c ∈ text, isWord c = true)
    : splitSign (text.dropWhile isPadding) = (false, text) := by
  cases text with
  | nil => rfl
  | cons c rest =>
      have word := words c (by simp)
      have padding : isPadding c = false := by simp [isPadding, isBlank_of_isWord word]
      have minus : c ≠ '-' := by
        intro same
        subst same
        contradiction
      have plus : c ≠ '+' := by
        intro same
        subst same
        contradiction
      simp only [List.dropWhile_cons, padding]
      unfold splitSign
      split <;> simp_all

/-- The digits of a numeral are characters of names other than the underscore. -/
theorem digit_spec {radix : Radix} {number : Nat} {c : Char}
    (member : c ∈ Nat.toDigits radix.size number)
    : (digit? radix c).isSome = true ∧ isWord c = true ∧ c ≠ '_' := by
  have size : radix.size ≤ 16 := by cases radix <;> decide
  obtain ⟨digit, small, rfl⟩ := exists_digit_of_mem_toDigits (one_lt_size radix) member
  obtain ⟨word, apart, -⟩ := digitChar_spec (Nat.lt_of_lt_of_le small size)
  exact ⟨by rw [digit?_digitChar small]; rfl, word, apart⟩

/-- The digits of a number are read as the number, unless a decimal numeral cannot have as many. -/
theorem readUnsigned_toDigits {radix : Radix} {number : Nat} (malformed : Fault)
    (short : radix = .decimal → number < 10 ^ maxDecimalDigits)
    : readUnsigned radix (Nat.toDigits radix.size number) malformed = .ok number := by
  have parts : ∀ c ∈ Nat.toDigits radix.size number,
      (c == '_' || (digit? radix c).isSome) = true := by
    intro c member
    simp [(digit_spec member).1]
  have spaced : WellSpaced (Nat.toDigits radix.size number) := by
    have absent : '_' ∉ Nat.toDigits radix.size number := fun member => (digit_spec member).2.2 rfl
    simp [WellSpaced, List.splitOn_eq_singleton absent]
  have fits : ¬ (radix = .decimal ∧ maxDecimalDigits
      < ((Nat.toDigits radix.size number).filterMap (digit? radix)).length) := by
    rintro ⟨rfl, long⟩
    have fewer :=
      List.length_filterMap_le (digit? .decimal) (Nat.toDigits Radix.decimal.size number)
    have bound : (Nat.toDigits 10 number).length ≤ maxDecimalDigits :=
      (Nat.length_toDigits_le_iff (by decide) (by decide)).mpr (short rfl)
    exact absurd (Nat.lt_of_lt_of_le long fewer) (Nat.not_lt.mpr bound)
  rw [readUnsigned, List.takeWhile_eq_self_iff.mpr parts, List.dropWhile_eq_nil_iff.mpr parts]
  simp [spaced, fits, ofDigits_toDigits]

/-- The size of a number with its sign is the number. -/
theorem signed_natAbs (number : Int)
    : (if decide (number < 0) then -(number.natAbs : Int) else number.natAbs) = number := by
  by_cases negative : number < 0
  · rw [if_pos (by simpa using negative)]
    omega
  · rw [if_neg (by simpa using negative)]
    omega

/-- The digits of a number are read as the number, without the marker of the radix. -/
theorem read_hexDigits (number : Nat)
    : read .hexadecimal (String.ofList (Nat.toDigits 16 number)) = .ok (number : Int) := by
  have words : ∀ c ∈ Nat.toDigits 16 number, isWord c = true :=
    fun c member => (hexDigit_spec member).1
  have unmarked : dropMarker .hexadecimal (Nat.toDigits 16 number) = Nat.toDigits 16 number := by
    generalize split : Nat.toDigits 16 number = digits
    match digits with
    | [] | [_] => rfl
    | nought :: letter :: rest =>
        have apart := (hexDigit_spec (show letter ∈ Nat.toDigits 16 number by simp [split])).2.2
        simp [dropMarker, Radix.marker, apart]
  have value (malformed : Fault)
      : readUnsigned .hexadecimal (Nat.toDigits 16 number) malformed = .ok number :=
    readUnsigned_toDigits malformed (by simp)
  simp only [read, String.toList_ofList, splitSign_of_isWord words, unmarked, value]
  rfl

/-- The marker of a hexadecimal numeral is dropped, in either case. -/
theorem dropMarker_hexadecimal {mark : Char} {digits : List Char} (marked : mark = 'x' ∨ mark = 'X')
    (apart : digits.head? ≠ some '_')
    : dropMarker .hexadecimal ('0' :: mark :: digits) = digits := by
  rcases marked with rfl | rfl <;>
    simp [dropMarker, Radix.marker, Radix.size, digit?, asciiDigit?, apart]

/-- A hexadecimal numeral is read as its number, with or without a minus. -/
theorem read_hex (number : Int) : read .hexadecimal (hex number) = .ok number := by
  have apart : (Nat.toDigits 16 number.natAbs).head? ≠ some '_' :=
    fun first => (hexDigit_spec (List.mem_of_head? first)).2.1 rfl
  have sign : splitSign ((hex number).toList.dropWhile isPadding)
      = (decide (number < 0), '0' :: 'x' :: Nat.toDigits 16 number.natAbs) := by
    rw [toList_hex]
    by_cases negative : number < 0
    · have minus : isPadding '-' = false := by decide
      simp [negative, minus, splitSign]
    · have zero : isPadding '0' = false := by decide
      simp [negative, zero, splitSign]
  have value (malformed : Fault)
      : readUnsigned .hexadecimal (Nat.toDigits 16 number.natAbs) malformed = .ok number.natAbs :=
    readUnsigned_toDigits malformed (by simp)
  simp only [read, sign, dropMarker_hexadecimal (.inl rfl) apart, value]
  exact congrArg Except.ok (signed_natAbs number)

/-- The characters of a decimal numeral: a minus if it is negative, and the digits. -/
theorem toList_decimal (number : Int)
    : (decimal number).toList
      = (if number < 0 then ['-'] else []) ++ Nat.toDigits 10 number.natAbs := by
  rw [decimal, Int.toString_eq_repr, Int.repr_eq_if]
  split
  · rename_i positive
    rw [if_neg (by omega), Nat.toList_repr, List.nil_append]
    congr 1
    omega
  · rename_i negative
    rw [if_pos (by omega), String.toList_append, Nat.toList_repr]
    congr 2
    omega

/-- A decimal numeral that is not too long is read as its number, whatever padding stands in front
of it.
-/
theorem read_decimal {front : List Char} {number : Int}
    (padding : ∀ c ∈ front, isPadding c = true) (short : number.natAbs < 10 ^ maxDecimalDigits)
    : read .decimal (String.ofList (front ++ (decimal number).toList)) = .ok number := by
  have value (malformed : Fault)
      : readUnsigned .decimal (Nat.toDigits 10 number.natAbs) malformed = .ok number.natAbs :=
    readUnsigned_toDigits malformed fun _ => short
  have words : ∀ c ∈ Nat.toDigits 10 number.natAbs, isWord c = true :=
    fun c member => (@digit_spec .decimal _ _ member).2.1
  have sign : splitSign ((decimal number).toList.dropWhile isPadding)
      = (decide (number < 0), Nat.toDigits 10 number.natAbs) := by
    rw [toList_decimal]
    by_cases negative : number < 0
    · have minus : isPadding '-' = false := by decide
      simp [negative, minus, splitSign]
    · simp [negative, splitSign_of_isWord words]
  simp only [read, String.toList_ofList, List.dropWhile_append_of_pos padding, sign, dropMarker,
    Radix.marker, value]
  exact congrArg Except.ok (signed_natAbs number)

theorem read_nonneg {radix : Radix} {text : String} {number : Int} (unsigned : '-' ∉ text.toList)
    (h : read radix text = .ok number)
    : 0 ≤ number := by
  have positive : (splitSign (text.toList.dropWhile isPadding)).1 = false := by
    have absent : '-' ∉ text.toList.dropWhile isPadding :=
      fun member => unsigned ((List.dropWhile_sublist _).mem member)
    unfold splitSign
    split <;> simp_all
  simp only [read, positive, Bool.false_eq_true, if_false] at h
  generalize readUnsigned radix _ _ = result at h
  cases result with
  | error fault => contradiction
  | ok value =>
      have same : (value : Int) = number := Except.ok.inj h
      omega

end ErrorTables.Numeral
