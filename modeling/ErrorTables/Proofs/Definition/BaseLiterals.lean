import ErrorTables.Definition.Parser
import ErrorTables.Proofs.Definition.Bases

/-! Which bases an opening may have.
A base is a numeral of hexadecimal, octal or decimal digits, told apart by how it starts; the marker
of a hexadecimal numeral may be repeated. Groups with any other base are refused.
-/

namespace ErrorTables

-----------------------------------------------------------------------------------------
-- Digits by their weight
-----------------------------------------------------------------------------------------

/-- The weight of a digit, sixteen for all that is no digit. -/
def weight (c : Char) : Nat :=
  "0123456789abcdef".toList.idxOf c.toLower

/-- All characters are digits below the radix. -/
def Fit (radix : Nat) (digits : List Char) : Prop :=
  ∀ c ∈ digits, weight c < radix

instance (radix : Nat) (digits : List Char) : Decidable (Fit radix digits) :=
  List.decidableBAll _ digits

/-- The number that digits stand for in a radix, the last one weighing least. -/
def valueOf (radix : Nat) (digits : List Char) : Nat :=
  Nat.ofDigits radix (digits.reverse.map weight)

namespace Numeral

open Definition Text

section Bases

variable {radix : Radix} {text : List Char}

/-- The characters of bases, one by one. -/
def baseChars : List Char :=
  ['0', '1', '2', '3', '4', '5', '6', '7', '8', '9', 'a', 'b', 'c', 'd', 'e', 'f', 'A', 'B', 'C',
    'D', 'E', 'F', 'x', 'X']

theorem mem_of_isBaseChar {c : Char} (h : isBaseChar c = true) : c ∈ baseChars :=
  forall_ascii (P := fun c => isBaseChar c = true → c ∈ baseChars) (by decide +kernel)
    (toNat_lt_of_isBaseChar h) h

/-- The characters of bases are read by their weight. -/
theorem digit?_eq_of_isBaseChar (radix : Radix) {c : Char} (h : isBaseChar c = true)
    : digit? radix c = if weight c < radix.size then some (weight c) else none := by
  have table : baseChars.all (fun c =>
      digit? radix c = if weight c < radix.size then some (weight c) else none) = true := by
    cases radix <;> decide +kernel
  simpa using List.all_eq_true.mp table c (mem_of_isBaseChar h)

theorem ofDigits_eq (radix : Radix) (digits : List Nat)
    : ofDigits radix digits = Nat.ofDigits radix.size digits.reverse := by
  rw [ofDigits, Nat.ofDigits_eq_foldr, List.foldr_reverse]
  simp only [Nat.cast_id, Nat.add_comm, Nat.mul_comm]

/-- Digits are read by their weight, all of them. -/
theorem filterMap_digit? (chars : ∀ c ∈ text, isBaseChar c = true) (fit : Fit radix.size text)
    : text.filterMap (digit? radix) = text.map weight := by
  rw [← List.filterMap_eq_map]
  refine List.filterMap_congr fun c member => ?_
  rw [digit?_eq_of_isBaseChar radix (chars c member), if_pos (fit c member)]
  rfl

/-- No underscore stands in a base, so that its digits are the parts of a numeral. -/
theorem isPart_iff (radix : Radix) {c : Char} (h : isBaseChar c = true)
    : (c == '_' || (digit? radix c).isSome) = true ↔ weight c < radix.size := by
  have other : c ≠ '_' := by
    rintro rfl
    contradiction
  rw [digit?_eq_of_isBaseChar radix h]
  split <;> simp_all

/-- Digits are read as the number that they stand for, unless there are none or too many. -/
theorem readUnsigned_of_fit (malformed : Fault) (chars : ∀ c ∈ text, isBaseChar c = true)
    (fit : Fit radix.size text)
    : readUnsigned radix text malformed =
      if text = [] then .error malformed
      else if radix = .decimal && maxDecimalDigits < text.length then
        .error (.tooLong text.length)
      else .ok (valueOf radix.size text) := by
  have all : ∀ c ∈ text, (c == '_' || (digit? radix c).isSome) = true :=
    fun c member => (isPart_iff radix (chars c member)).mpr (fit c member)
  have apart : '_' ∉ text := fun member => absurd (chars _ member) (by decide)
  have spaced : WellSpaced text ↔ text ≠ [] := by
    simp [WellSpaced, List.splitOn_eq_singleton apart]
  have value : ofDigits radix (text.map weight) = valueOf radix.size text := by
    rw [ofDigits_eq, valueOf, List.map_reverse]
  simp only [readUnsigned, List.takeWhile_eq_self_iff.mpr all, List.dropWhile_eq_nil_iff.mpr all,
    filterMap_digit? chars fit, spaced, value, List.length_map, List.all_nil, if_true, not_not,
    ne_eq]

/-- What does not consist of digits is refused: behind the digits stands a character of a base,
which is no padding.
-/
theorem readUnsigned_of_not_fit (malformed : Fault) (chars : ∀ c ∈ text, isBaseChar c = true)
    (unfit : ¬ Fit radix.size text)
    : ∃ fault, readUnsigned radix text malformed = .error fault := by
  have stopped : ¬ (text.dropWhile fun c => c == '_' || (digit? radix c).isSome).all isPadding := by
    intro padded
    refine unfit fun c member => (isPart_iff radix (chars c member)).mp ?_
    have nothing : text.dropWhile (fun c => c == '_' || (digit? radix c).isSome) = [] := by
      refine List.eq_nil_iff_forall_not_mem.mpr fun d later => ?_
      have blank := List.all_eq_true.mp padded d later
      have word := isWord_of_isBaseChar (chars d ((List.dropWhile_sublist _).mem later))
      simp [isPadding, isBlank_of_isWord word] at blank
    exact List.dropWhile_eq_nil_iff.mp nothing c member
  simp only [readUnsigned, stopped]
  split
  · exact ⟨_, rfl⟩
  · split <;> exact ⟨_, rfl⟩

/-- A text that could be a base is read as a number exactly if it consists of digits. -/
theorem readUnsigned_eq_ok_iff {malformed : Fault} {number : Nat}
    (chars : ∀ c ∈ text, isBaseChar c = true)
    : readUnsigned radix text malformed = .ok number
      ↔ text ≠ [] ∧ Fit radix.size text
        ∧ (radix = .decimal → text.length ≤ maxDecimalDigits)
        ∧ valueOf radix.size text = number := by
  by_cases fit : Fit radix.size text
  · rw [readUnsigned_of_fit malformed chars fit]
    by_cases filled : text = []
    · simp [filled]
    · by_cases long : radix = .decimal ∧ maxDecimalDigits < text.length
      · simp [filled, long]
      · have short : radix = .decimal → text.length ≤ maxDecimalDigits :=
          fun decimal => Nat.le_of_not_lt fun longer => long ⟨decimal, longer⟩
        simpa [filled, long, fit] using fun _ => short
  · obtain ⟨fault, refused⟩ := readUnsigned_of_not_fit malformed chars fit
    rw [refused]
    exact iff_of_false (by simp) fun held => fit held.2.1

/-- Without a sign a text that could be a base is read behind the marker of the radix. -/
theorem read_eq_ok_iff {number : Int} (chars : ∀ c ∈ text, isBaseChar c = true)
    : read radix (String.ofList text) = .ok number
      ↔ ∃ value : Nat, number = value
        ∧ readUnsigned radix (dropMarker radix text) (.malformed radix (String.ofList text))
          = .ok value := by
  have sign : splitSign (text.dropWhile isPadding) = (false, text) :=
    splitSign_of_isWord fun c member => isWord_of_isBaseChar (chars c member)
  simp only [read, String.toList_ofList, sign]
  cases readUnsigned radix (dropMarker radix text) (.malformed radix (String.ofList text)) with
  | error fault => simp [Except.map]
  | ok value => simp [Except.map, eq_comm]

/-- Only hexadecimal numerals have a marker that may stand in a base. -/
theorem dropMarker_of_isBaseChar (other : radix = .octal ∨ radix = .decimal)
    (chars : ∀ c ∈ text, isBaseChar c = true)
    : dropMarker radix text = text := by
  rcases other with rfl | rfl
  · match text with
    | [] | [_] => rfl
    | nought :: letter :: rest =>
        have table : baseChars.all (fun c => c.toLower != 'o') = true := by decide
        have apart : letter.toLower ≠ 'o' := by
          simpa using List.all_eq_true.mp table letter (mem_of_isBaseChar (chars letter (by simp)))
        simp [dropMarker, Radix.marker, apart]
  · rfl

theorem dropMarker_marked {mark : Char} (marked : mark = 'x' ∨ mark = 'X')
    (chars : ∀ c ∈ text, isBaseChar c = true)
    : dropMarker .hexadecimal ('0' :: mark :: text) = text :=
  dropMarker_hexadecimal marked fun first =>
    absurd (chars _ (List.mem_of_head? first)) (by decide)

theorem dropMarker_unmarked (chars : ∀ c ∈ text, isBaseChar c = true)
    (unmarked : ∀ mark rest, text = '0' :: mark :: rest → ¬ (mark = 'x' ∨ mark = 'X'))
    : dropMarker .hexadecimal text = text := by
  match text with
  | [] | [_] => rfl
  | nought :: letter :: rest =>
      have zeros : baseChars.all (fun c => digit? .hexadecimal c != some 0 || c == '0') = true := by
        decide +kernel
      have marks : baseChars.all (fun c => c.toLower != 'x' || c == 'x' || c == 'X') = true := by
        decide
      have zero := List.all_eq_true.mp zeros nought (mem_of_isBaseChar (chars nought (by simp)))
      have mark := List.all_eq_true.mp marks letter (mem_of_isBaseChar (chars letter (by simp)))
      have apart : ¬ (digit? .hexadecimal nought = some 0 ∧ letter.toLower = 'x') := by
        rintro ⟨read, lower⟩
        obtain rfl : nought = '0' := by simpa [read] using zero
        exact unmarked letter rest rfl (by simpa [lower] using mark)
      simp only [dropMarker, Radix.marker, Bool.and_eq_true, decide_eq_true_eq, apart,
        if_false]

end Bases

end Numeral

namespace Definition

open Numeral Text

-----------------------------------------------------------------------------------------
-- Literals
-----------------------------------------------------------------------------------------

/-- A hexadecimal numeral: a zero, the marker and digits. -/
inductive IsHexadecimal : List Char → Nat → Prop
  | marked {mark digits} (marked : mark = 'x' ∨ mark = 'X') (filled : digits ≠ [])
    (fit : Fit 16 digits)
    : IsHexadecimal ('0' :: mark :: digits) (valueOf 16 digits)

/-- The text is a numeral of the number: a hexadecimal one, an octal one, which starts with a zero,
or a decimal one, which does not and is bounded in length.
-/
inductive IsLiteral : List Char → Nat → Prop
  | hexadecimal {text number} (literal : IsHexadecimal text number) : IsLiteral text number
  | octal {digits} (fit : Fit 8 digits) : IsLiteral ('0' :: digits) (valueOf 8 ('0' :: digits))
  | decimal {digits} (filled : digits ≠ []) (proper : digits.head? ≠ some '0')
    (fit : Fit 10 digits) (short : digits.length ≤ 4300)
    : IsLiteral digits (valueOf 10 digits)

/-- A hexadecimal numeral behind one more zero and marker. -/
inductive IsRemarked : List Char → Nat → Prop
  | again {mark text number} (marked : mark = 'x' ∨ mark = 'X')
    (literal : IsHexadecimal text number)
    : IsRemarked ('0' :: mark :: text) number

theorem weight_marker {mark : Char} (marked : mark = 'x' ∨ mark = 'X') : weight mark = 16 := by
  rcases marked with rfl | rfl <;> decide

/-- A numeral with a marker is neither octal nor decimal. -/
theorem isLiteral_marked_iff {mark : Char} {digits : List Char} {number : Nat}
    (marked : mark = 'x' ∨ mark = 'X')
    : IsLiteral ('0' :: mark :: digits) number
      ↔ digits ≠ [] ∧ Fit 16 digits ∧ valueOf 16 digits = number := by
  constructor
  · intro literal
    cases literal with
    | hexadecimal literal =>
        cases literal with
        | marked _ filled fit => exact ⟨filled, fit, rfl⟩
    | octal fit =>
        have small := fit mark (by simp)
        rw [weight_marker marked] at small
        contradiction
    | decimal _ proper => simp at proper
  · rintro ⟨filled, fit, rfl⟩
    exact .hexadecimal (.marked marked filled fit)

/-- A numeral that starts with a zero and has no marker is octal. -/
theorem isLiteral_zero_iff {digits : List Char} {number : Nat}
    (unmarked : ∀ mark, digits.head? = some mark → ¬ (mark = 'x' ∨ mark = 'X'))
    : IsLiteral ('0' :: digits) number
      ↔ Fit 8 ('0' :: digits) ∧ valueOf 8 ('0' :: digits) = number := by
  constructor
  · intro literal
    cases literal with
    | hexadecimal literal =>
        cases literal with
        | marked marked => exact absurd marked (unmarked _ rfl)
    | octal fit => exact ⟨List.forall_mem_cons.mpr ⟨by decide, fit⟩, rfl⟩
    | decimal _ proper => simp at proper
  · rintro ⟨fit, rfl⟩
    exact .octal (List.forall_mem_cons.mp fit).2

/-- A numeral that does not start with a zero is decimal. -/
theorem isLiteral_proper_iff {text : List Char} {number : Nat} (proper : text.head? ≠ some '0')
    : IsLiteral text number
      ↔ text ≠ [] ∧ Fit 10 text ∧ text.length ≤ maxDecimalDigits ∧ valueOf 10 text = number := by
  constructor
  · intro literal
    cases literal with
    | hexadecimal literal => cases literal with | marked => simp at proper
    | octal => simp at proper
    | decimal filled _ fit short => exact ⟨filled, fit, short, rfl⟩
  · rintro ⟨filled, fit, short, rfl⟩
    exact .decimal filled proper fit short

theorem IsRemarked.marked {text : List Char} {number : Nat} (remarked : IsRemarked text number)
    : ∃ mark rest, text = '0' :: mark :: rest ∧ (mark = 'x' ∨ mark = 'X') := by
  cases remarked with
  | again marked => exact ⟨_, _, rfl, marked⟩

-----------------------------------------------------------------------------------------
-- Reading
-----------------------------------------------------------------------------------------

/-- Behind a marker stand digits, or the marker again and digits. -/
theorem readUnsigned_marked_iff {mark : Char} {digits : List Char} {malformed : Numeral.Fault}
    {number : Nat} (marked : mark = 'x' ∨ mark = 'X') (chars : ∀ c ∈ digits, isBaseChar c = true)
    : readUnsigned .hexadecimal (dropMarker .hexadecimal digits) malformed = .ok number
      ↔ IsLiteral ('0' :: mark :: digits) number ∨ IsRemarked ('0' :: mark :: digits) number := by
  rw [isLiteral_marked_iff marked]
  by_cases again : ∃ other rest, digits = '0' :: other :: rest ∧ (other = 'x' ∨ other = 'X')
  · obtain ⟨other, rest, rfl, markedAgain⟩ := again
    have charsOfRest : ∀ c ∈ rest, isBaseChar c = true := by
      intro c member
      exact chars c (by simp [member])
    rw [dropMarker_marked markedAgain charsOfRest, readUnsigned_eq_ok_iff charsOfRest]
    constructor
    · rintro ⟨filled, fit, -, rfl⟩
      exact .inr (.again marked (.marked markedAgain filled fit))
    · rintro (⟨-, fit, -⟩ | remarked)
      · have small := fit other (by simp)
        rw [weight_marker markedAgain] at small
        contradiction
      · cases remarked with
        | again _ literal =>
            cases literal with
            | marked _ filled fit => exact ⟨filled, fit, by simp, rfl⟩
  · have unmarked : ∀ other rest, digits = '0' :: other :: rest → ¬ (other = 'x' ∨ other = 'X') :=
      fun other rest split markedAgain => again ⟨other, rest, split, markedAgain⟩
    rw [dropMarker_unmarked chars unmarked, readUnsigned_eq_ok_iff chars]
    constructor
    · rintro ⟨filled, fit, -, value⟩
      exact .inl ⟨filled, fit, value⟩
    · rintro (⟨filled, fit, value⟩ | remarked)
      · exact ⟨filled, fit, by simp, value⟩
      · cases remarked with
        | again _ literal =>
            cases literal with
            | marked markedAgain => exact absurd markedAgain (unmarked _ _ rfl)

/-- What starts with a zero and a marker is read in hexadecimal behind them. -/
theorem readTrimmedBase_marked {mark : Char} (digits : List Char) (marked : mark = 'x' ∨ mark = 'X')
    : readTrimmedBase ('0' :: mark :: digits)
      = Numeral.read .hexadecimal (String.ofList digits) := by
  rcases marked with rfl | rfl <;> rfl

theorem readTrimmedBase_zero {digits : List Char}
    (unmarked : ∀ mark, digits.head? = some mark → ¬ (mark = 'x' ∨ mark = 'X'))
    : readTrimmedBase ('0' :: digits) = Numeral.read .octal (String.ofList ('0' :: digits)) := by
  unfold readTrimmedBase
  split
  case h_1 same => simp_all
  case h_2 same => simp_all
  case h_3 => rfl
  case h_4 other => exact absurd rfl (other digits)

theorem readTrimmedBase_proper {text : List Char} (proper : text.head? ≠ some '0')
    : readTrimmedBase text = Numeral.read .decimal (String.ofList text) := by
  unfold readTrimmedBase
  split
  case h_4 => rfl
  all_goals simp at proper

/-- A base is read as the number of its numeral, a repeated marker being skipped. -/
theorem readTrimmedBase_eq_ok_iff {text : List Char} {number : Int}
    (chars : ∀ c ∈ text, isBaseChar c = true)
    : readTrimmedBase text = .ok number
      ↔ ∃ value : Nat, number = value ∧ (IsLiteral text value ∨ IsRemarked text value) := by
  by_cases zero : ∃ digits, text = '0' :: digits
  · obtain ⟨digits, rfl⟩ := zero
    by_cases hexadecimal : ∃ mark rest, digits = mark :: rest ∧ (mark = 'x' ∨ mark = 'X')
    · obtain ⟨mark, rest, rfl, marked⟩ := hexadecimal
      have charsOfRest : ∀ c ∈ rest, isBaseChar c = true := by
        intro c member
        exact chars c (by simp [member])
      rw [readTrimmedBase_marked rest marked, read_eq_ok_iff charsOfRest]
      simp only [readUnsigned_marked_iff marked charsOfRest]
    · have unmarked : ∀ mark, digits.head? = some mark → ¬ (mark = 'x' ∨ mark = 'X') := by
        intro mark first marked
        obtain ⟨rest, rfl⟩ := List.head?_eq_some_iff.mp first
        exact hexadecimal ⟨mark, rest, rfl, marked⟩
      have once : ∀ value, ¬ IsRemarked ('0' :: digits) value := by
        intro value remarked
        obtain ⟨mark, rest, same, marked⟩ := remarked.marked
        exact hexadecimal ⟨mark, rest, List.tail_eq_of_cons_eq same, marked⟩
      rw [readTrimmedBase_zero unmarked, read_eq_ok_iff chars,
        dropMarker_of_isBaseChar (.inl rfl) chars]
      simp [readUnsigned_eq_ok_iff chars, isLiteral_zero_iff unmarked, once, Radix.size]
  · have proper : text.head? ≠ some '0' := by
      intro first
      obtain ⟨digits, rfl⟩ := List.head?_eq_some_iff.mp first
      exact zero ⟨digits, rfl⟩
    have once : ∀ value, ¬ IsRemarked text value := by
      intro value remarked
      obtain ⟨mark, rest, same, -⟩ := remarked.marked
      exact zero ⟨_, same⟩
    rw [readTrimmedBase_proper proper, read_eq_ok_iff chars,
      dropMarker_of_isBaseChar (.inr rfl) chars]
    simp [readUnsigned_eq_ok_iff chars, isLiteral_proper_iff proper, once, Radix.size]

/-- A base of an opening is not empty and has no blanks, so it is read as it stands. -/
theorem readBase_eq {base : String} (filled : base ≠ "")
    (chars : ∀ c ∈ base.toList, isBaseChar c = true)
    : readBase base = (readTrimmedBase base.toList).mapError .numeral := by
  have trimmed : trim base.toList = base.toList :=
    trimmed_of_isWord fun c member => isWord_of_isBaseChar (chars c member)
  have present : base.toList.isEmpty = false := by simpa using filled
  simp only [readBase, trimmed, present, Bool.false_eq_true, if_false]

/-- An opening whose base is refused is refused for it, unless it already is for its place or its
name.
-/
theorem step_invalidBase {state : ParserState} {source : Option String} {line : Nat} {text : String}
    {opening : Opening} {fault : BaseFault} (spelled : opening.Spells text.toList)
    (refused : readBase opening.base = .error fault) (closed : state.current = none)
    (fresh : opening.name ∉ state.names)
    : state.step source line text = .error (.invalidBase opening.base) := by
  have kind : Line.classify text = .ok (.opening opening) := classify_eq_opening_iff.mpr spelled
  simp [ParserState.step, kind, ParserState.openGroup, closed, fresh, refused, Except.map]

/-- A base of an opening is read as a number exactly if it is a numeral of the number, or one behind
a further marker; with any other base an opening is refused.
-/
theorem readBase_accepts_literals (base : String) (filled : base ≠ "")
    (chars : ∀ c ∈ base.toList, isBaseChar c = true)
    : (∀ number : Int, readBase base = .ok number
        ↔ ∃ value : Nat, number = value
          ∧ (IsLiteral base.toList value ∨ IsRemarked base.toList value))
      ∧ ((∀ value, ¬ IsLiteral base.toList value ∧ ¬ IsRemarked base.toList value) →
        (∃ fault, readBase base = .error fault)
        ∧ ∀ (state : ParserState) (source : Option String) (line : Nat) (text : String)
            (opening : Opening),
          opening.Spells text.toList → opening.base = base → state.current = none →
          opening.name ∉ state.names →
          state.step source line text = .error (.invalidBase base)) := by
  have accepted : ∀ number : Int, readBase base = .ok number
      ↔ ∃ value : Nat, number = value
        ∧ (IsLiteral base.toList value ∨ IsRemarked base.toList value) := by
    intro number
    rw [← readTrimmedBase_eq_ok_iff chars, readBase_eq filled chars]
    cases readTrimmedBase base.toList <;> simp [Except.mapError]
  refine ⟨accepted, fun none => ?_⟩
  cases read : readBase base with
  | ok number =>
      obtain ⟨value, -, literal⟩ := (accepted number).mp read
      exact absurd literal (not_or.mpr (none value))
  | error fault =>
      refine ⟨⟨fault, rfl⟩, ?_⟩
      rintro state source line text opening spelled rfl closed fresh
      exact step_invalidBase spelled read closed fresh

/-- Behind a marker all hexadecimal digits may stand, and behind another zero none above a seven. -/
theorem readBase_accepts_literals_after_zero
    : readBase "0x1fF" = .ok 511
      ∧ (∀ value, ¬ IsLiteral "08".toList value ∧ ¬ IsRemarked "08".toList value)
      ∧ ParserState.step {} none 1 "g = 08 \"\" \x7b" = .error (.invalidBase "08") := by
  have charsOf (base : String) (all : base.toList.all isBaseChar = true)
      : ∀ c ∈ base.toList, isBaseChar c = true :=
    fun c member => List.all_eq_true.mp all c member
  obtain ⟨hexadecimal, -⟩ :=
    readBase_accepts_literals "0x1fF" (by decide) (charsOf _ (by decide))
  obtain ⟨octal, refuses⟩ :=
    readBase_accepts_literals "08" (by decide) (charsOf _ (by decide))
  have noValue : ∀ value, ¬ IsLiteral "08".toList value ∧ ¬ IsRemarked "08".toList value := by
    intro value
    refine not_or.mp fun literal => ?_
    have read : readBase "08" = .ok (value : Int) := (octal value).mpr ⟨value, rfl, literal⟩
    have refused : readBase "08" = .error (.numeral (.malformed .octal "08")) := by cbv
    rw [refused] at read
    contradiction
  refine ⟨?_, noValue, ?_⟩
  · have literal : IsLiteral ('0' :: 'x' :: ['1', 'f', 'F']) 511 :=
      (isLiteral_marked_iff (.inl rfl)).mpr ⟨by simp, by decide, rfl⟩
    exact (hexadecimal 511).mpr ⟨511, rfl, .inl literal⟩
  · have spelled : Opening.Spells ⟨"g", "08", "", none⟩ "g = 08 \"\" \x7b".toList :=
      classify_eq_opening_iff.mp (by cbv)
    exact (refuses noValue).2 {} none 1 _ _ spelled rfl rfl (by simp)

/-- A numeral behind a further marker is no numeral, and yet it is accepted as a base. -/
theorem readBase_marked_twice
    : readBase "0x0x12" = .ok 18
      ∧ (∀ value, ¬ IsLiteral "0x0x12".toList value)
      ∧ (parseText none "g = 0x0x12 \"\" \x7b\n\x7d\n").map (·.map (·.base)) = .ok [18] := by
  refine ⟨rfl, ?_, rfl⟩
  intro value literal
  have marked : IsLiteral ('0' :: 'x' :: ['0', 'x', '1', '2']) value := literal
  obtain ⟨-, fit, -⟩ := (isLiteral_marked_iff (.inl rfl)).mp marked
  exact absurd fit (by decide)

end Definition

end ErrorTables
