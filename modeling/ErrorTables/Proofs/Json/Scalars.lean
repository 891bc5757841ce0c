import ErrorTables.Json.Reader
import ErrorTables.Proofs.Digits
import ErrorTables.Proofs.Json.Spelling

/-! Strings and integers of JSON are read as they are spelled.
A string is read character by character up to the closing quote, each escape giving the character
that it stands for. An integer is read up to the first character that cannot belong to a number.
-/

namespace ErrorTables.Json

open Numeral Text

-----------------------------------------------------------------------------------------
-- Strings
-----------------------------------------------------------------------------------------

/-- A hexadecimal digit is read as its number, small or capital. -/
theorem digit_of_isHexDigit {number : Nat} {digit : Char} (spells : IsHexDigit number digit)
    : (asciiDigit? digit).filter (· < 16) = some number := by
  have table : ∀ number < 16,
      (asciiDigit? (Nat.digitChar number)).filter (· < 16) = some number
        ∧ (asciiDigit? (Nat.digitChar number).toUpper).filter (· < 16) = some number := by
    decide
  obtain ⟨small, rfl | rfl⟩ := spells
  · exact (table number small).1
  · exact (table number small).2

/-- Four digits are read as the code that they make, digit by digit. -/
theorem code?_of_forall₂ {numbers : List Nat} {digits : List Char} (four : numbers.length = 4)
    (each : List.Forall₂ IsHexDigit numbers digits)
    : code? digits = some (numbers.foldl (fun code number => code * 16 + number) 0) := by
  have read : digits.mapM (fun c => (asciiDigit? c).filter (· < 16)) = some numbers := by
    clear four
    induction each with
    | nil => rfl
    | cons first others ih => simp [digit_of_isHexDigit first, ih]
  rw [code?, if_pos (each.length_eq.symm.trans four), read]
  rfl

/-- No character is half of another one, so that its code stands for it. -/
theorem charOfCode_toNat (c : Char)
    : isHighSurrogate c.toNat = false ∧ charOfCode c.toNat = c := by
  have proper : c.toNat < 0xd800 ∨ 0xdfff < c.toNat ∧ c.toNat < 0x110000 := c.valid
  have halves : isHighSurrogate c.toNat = false ∧ isLowSurrogate c.toNat = false := by
    simp only [isHighSurrogate, isLowSurrogate, Bool.and_eq_false_iff, decide_eq_false_iff_not]
    omega
  exact ⟨halves.1, by simp [charOfCode, halves, Char.ofNat_toNat]⟩

/-- The code of a character is read as the character, if the string goes on behind it. -/
theorem readCode_spelled {c : Char} {numbers : List Nat} {digits rest : List Char}
    (four : numbers.length = 4) (each : List.Forall₂ IsHexDigit numbers digits)
    (same : c.toNat = numbers.foldl (fun code number => code * 16 + number) 0) (more : rest ≠ [])
    : readCode (digits ++ rest) = .ok (c, rest) := by
  have length : digits.length = 4 := each.length_eq.symm.trans four
  obtain ⟨whole, meant⟩ := charOfCode_toNat c
  have front : (digits ++ rest).take 4 = digits := by rw [← length, List.take_left]
  have behind : (digits ++ rest).drop 4 = rest := by rw [← length, List.drop_left]
  rw [readCode, front, behind, code?_of_forall₂ four each, ← same]
  cases rest with
  | nil => contradiction
  | cons next rest => simp [whole, meant]

/-- A short escape is read as the character that it stands for. -/
theorem readEscape_short {c letter : Char} (escape : (c, letter) ∈ shortEscapes)
    (opening rest : List Char)
    : readEscape opening (letter :: rest) = .ok (c, rest) := by
  simp only [shortEscapes, List.mem_cons, Prod.mk.injEq, List.not_mem_nil, or_false] at escape
  rcases escape with ⟨rfl, rfl⟩ | ⟨rfl, rfl⟩ | ⟨rfl, rfl⟩ | ⟨rfl, rfl⟩ | ⟨rfl, rfl⟩ | ⟨rfl, rfl⟩
    | ⟨rfl, rfl⟩ | ⟨rfl, rfl⟩
  all_goals rfl

/-- An escape is read as its character, and then the string goes on. -/
theorem readChars_escape {opening escaped rest rest' text : List Char} {c : Char} {fuel : Nat}
    (read : readEscape opening escaped = .ok (c, rest))
    (onward : readChars opening fuel rest = .ok (text, rest'))
    : readChars opening (fuel + 1) ('\\' :: escaped) = .ok (c :: text, rest') := by
  rw [readChars, if_neg (by decide), if_pos rfl, read]
  simp [bind, Except.bind, onward, pure, Except.pure]

/-- The characters of a string are read up to its closing quote, by induction on their spelling. -/
theorem readChars_spelled {opening text spelling : List Char} {fuel : Nat}
    (spells : SpellsChars text spelling) (enough : text.length < fuel) (rest : List Char)
    : readChars opening fuel (spelling ++ '"' :: rest) = .ok (text, rest) := by
  induction spells generalizing fuel with
  | nil =>
      obtain ⟨fuel, rfl⟩ := Nat.exists_eq_add_one_of_ne_zero (Nat.ne_of_gt enough)
      rfl
  | plain unquoted unescaped visible others ih =>
      obtain ⟨fuel, rfl⟩ :=
        Nat.exists_eq_add_one_of_ne_zero (Nat.ne_of_gt (Nat.zero_lt_of_lt enough))
      rw [List.cons_append, readChars, if_neg unquoted, if_neg unescaped,
        if_neg (Nat.not_lt.mpr visible), ih (Nat.lt_of_succ_lt_succ enough)]
      rfl
  | short escape others ih =>
      obtain ⟨fuel, rfl⟩ :=
        Nat.exists_eq_add_one_of_ne_zero (Nat.ne_of_gt (Nat.zero_lt_of_lt enough))
      exact readChars_escape (readEscape_short escape opening _)
        (ih (Nat.lt_of_succ_lt_succ enough))
  | @code c numbers digits text spelling four each same others ih =>
      obtain ⟨fuel, rfl⟩ :=
        Nat.exists_eq_add_one_of_ne_zero (Nat.ne_of_gt (Nat.zero_lt_of_lt enough))
      have read : readEscape opening ('u' :: (digits ++ (spelling ++ '"' :: rest)))
          = .ok (c, spelling ++ '"' :: rest) :=
        readCode_spelled four each same (by simp)
      rw [List.cons_append, List.cons_append, List.append_assoc]
      exact readChars_escape read (ih (Nat.lt_of_succ_lt_succ enough))

theorem SpellsChars.length_le {text spelling : List Char} (spells : SpellsChars text spelling)
    : text.length ≤ spelling.length := by
  induction spells with
  | nil => exact Nat.le_refl _
  | plain _ _ _ _ ih => exact Nat.succ_le_succ ih
  | short _ _ ih =>
      simp only [List.length_cons]
      omega
  | code _ _ _ _ ih =>
      simp only [List.length_cons, List.length_append]
      omega

/-- A string is read as the text that it spells. -/
theorem readString_spelled {text : String} {spelling : List Char}
    (spells : SpellsChars text.toList spelling) (rest : List Char)
    : readString (spelling ++ '"' :: rest) = .ok (text, rest) := by
  have enough : text.toList.length < (spelling ++ '"' :: rest).length + 1 := by
    have shorter := spells.length_le
    rw [List.length_append]
    omega
  rw [readString, readChars_spelled spells enough]
  simp [bind, Except.bind, pure, Except.pure]

-----------------------------------------------------------------------------------------
-- Integers
-----------------------------------------------------------------------------------------

/-- No number goes on with the text: it does not start with a digit, a point or the letter of a
power.
-/
def EndsNumber (text : List Char) : Prop :=
  ∀ c, text.head? = some c → c.isDigit = false ∧ c ≠ '.' ∧ c ≠ 'e' ∧ c ≠ 'E'

theorem endsNumber_cons {c : Char} {text : List Char} (digit : c.isDigit = false) (point : c ≠ '.')
    (small : c ≠ 'e') (capital : c ≠ 'E')
    : EndsNumber (c :: text) := by
  intro d first
  obtain rfl : c = d := by simpa using first
  exact ⟨digit, point, small, capital⟩

theorem isDigit_of_mem_toDigits {number : Nat} {c : Char} (member : c ∈ Nat.toDigits 10 number)
    : c.isDigit = true := by
  have table : ∀ digit < 10, (Nat.digitChar digit).isDigit = true := by decide
  obtain ⟨digit, small, rfl⟩ := exists_digit_of_mem_toDigits (by decide) member
  exact table digit small

/-- A positive number is not written with a zero in front, by induction on the number. -/
theorem head_toDigits {number : Nat} (positive : 0 < number)
    : (Nat.toDigits 10 number).head? ≠ some '0' := by
  induction number using Nat.strongRecOn with
  | ind number ih =>
      rw [Nat.toDigits_eq_if (by decide)]
      split
      · rename_i small
        have table : ∀ digit < 10, 0 < digit → Nat.digitChar digit ≠ '0' := by decide
        simpa using table number small positive
      · rename_i large
        rw [List.head?_append_of_ne_nil _ Nat.toDigits_ne_nil]
        exact ih (number / 10) (Nat.div_lt_self positive (by decide)) (by omega)

/-- The digits of a number are the whole part of what it is followed by. -/
theorem spanWhole_toDigits (number : Nat) {rest : List Char} (ends : EndsNumber rest)
    : spanWhole (Nat.toDigits 10 number ++ rest) = (Nat.toDigits 10 number, rest) := by
  by_cases zero : number = 0
  · subst zero
    rfl
  · have proper := head_toDigits (Nat.pos_of_ne_zero zero)
    have inside : ∀ c ∈ Nat.toDigits 10 number, c.isDigit = true :=
      fun c member => isDigit_of_mem_toDigits member
    have stop : ∀ c, rest.head? = some c → c.isDigit = false := fun c first => (ends c first).1
    have digits : spanDigits (Nat.toDigits 10 number ++ rest) = (Nat.toDigits 10 number, rest) := by
      rw [spanDigits, List.span_eq_takeWhile_dropWhile, takeWhile_run inside stop,
        dropWhile_run inside stop]
    unfold spanWhole
    split
    · rename_i tail same
      cases split : Nat.toDigits 10 number with
      | nil => exact absurd split Nat.toDigits_ne_nil
      | cons c more =>
          rw [split, List.cons_append] at same
          obtain rfl := (List.cons.inj same).1
          simp [split] at proper
    · exact digits

theorem spanFraction_eq {rest : List Char} (ends : EndsNumber rest)
    : spanFraction rest = ([], rest) := by
  cases rest with
  | nil => rfl
  | cons c rest =>
      have point := (ends c rfl).2.1
      unfold spanFraction
      split <;> simp_all

theorem spanPower_eq {rest : List Char} (ends : EndsNumber rest)
    : spanPower rest = (none, rest) := by
  cases rest with
  | nil => rfl
  | cons c rest =>
      obtain ⟨-, -, small, capital⟩ := ends c rfl
      simp [spanPower, small, capital]

theorem toDigits_append_ne (number : Nat) (rest tail : List Char)
    : Nat.toDigits 10 number ++ rest ≠ '-' :: tail := by
  intro same
  cases split : Nat.toDigits 10 number with
  | nil => exact Nat.toDigits_ne_nil split
  | cons c more =>
      rw [split, List.cons_append] at same
      obtain rfl := (List.cons.inj same).1
      have digit : ('-').isDigit = true := isDigit_of_mem_toDigits (split ▸ List.mem_cons_self)
      contradiction

/-- An integer that is not too long is read as it is written. -/
theorem readNumber_decimal {number : Int} (short : number.natAbs < 10 ^ maxDecimalDigits)
    {rest : List Char} (ends : EndsNumber rest)
    : readNumber ((decimal number).toList ++ rest) = .ok (.integer number, rest) := by
  have filled : (Nat.toDigits 10 number.natAbs).isEmpty = false :=
    List.isEmpty_eq_false_iff.mpr Nat.toDigits_ne_nil
  have fits : ¬ maxDecimalDigits < (Nat.toDigits 10 number.natAbs).length :=
    Nat.not_lt.mpr ((Nat.length_toDigits_le_iff (by decide) (by decide)).mpr short)
  have value : ofDigits .decimal ((Nat.toDigits 10 number.natAbs).filterMap (digit? .decimal))
      = number.natAbs :=
    ofDigits_toDigits .decimal number.natAbs
  rw [toList_decimal]
  by_cases negative : number < 0
  · have signed : -(number.natAbs : Int) = number := by omega
    rw [if_pos negative, List.append_assoc, List.singleton_append, readNumber]
    simp only [spanWhole_toDigits _ ends, spanFraction_eq ends, spanPower_eq ends, filled, fits,
      value, signed]
    rfl
  · have unsigned : (number.natAbs : Int) = number := by omega
    rw [if_neg negative, List.nil_append, readNumber]
    · simp only [spanWhole_toDigits _ ends, spanFraction_eq ends, spanPower_eq ends, filled, fits,
        value, unsigned]
      rfl
    · exact toDigits_append_ne _ _

end ErrorTables.Json
