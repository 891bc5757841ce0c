import ErrorTables.Proofs.Json.Scalars

/-! Values of JSON are read as they are spelled.
The reading of a value, of the items of a sequence and of the pairs of a mapping follows the
spelling part by part; the white space between the parts is skipped.
-/

namespace ErrorTables.Json

open Numeral Text

-----------------------------------------------------------------------------------------
-- Mappings from distinct texts
-----------------------------------------------------------------------------------------

/-- A new key is put behind those that are there, by induction on these. -/
theorem assign_of_fresh {key : String} {value : Value} {pairs : List (Value × Value)}
    (texts : ∀ pair ∈ pairs, ∃ key, pair.1 = .text key) (fresh : .text key ∉ pairs.map (·.1))
    : Value.assign (.text key) value pairs = pairs ++ [(.text key, value)] := by
  induction pairs with
  | nil => rfl
  | cons pair pairs ih =>
      obtain ⟨⟨other, same⟩, texts⟩ := List.forall_mem_cons.mp texts
      rw [List.map_cons, List.mem_cons, not_or, same] at fresh
      have apart : other ≠ key := by
        rintro rfl
        exact fresh.1 rfl
      have differ : Value.sameKey pair.1 (.text key) = false := by
        rw [same]
        simpa [Value.sameKey, Value.asInteger?] using apart
      rw [Value.assign, differ, ih texts fresh.2]
      rfl

/-- Pairs whose keys are distinct texts make a mapping of just these pairs. The induction is on the
last pair.
-/
theorem ofPairs_eq {pairs : List (Value × Value)}
    (texts : ∀ pair ∈ pairs, ∃ key, pair.1 = .text key) (distinct : (pairs.map (·.1)).Nodup)
    : Value.ofPairs pairs = pairs := by
  induction pairs using List.reverseRecOn with
  | nil => rfl
  | append_singleton pairs pair ih =>
      obtain ⟨texts, last⟩ := List.forall_mem_append.mp texts
      obtain ⟨key, same⟩ := last pair (by simp)
      rw [List.map_append, List.nodup_append] at distinct
      obtain ⟨before, -, apart⟩ := distinct
      have fresh : .text key ∉ pairs.map (·.1) :=
        fun member => apart _ member _ (by simp [same]) rfl
      have front : Value.ofPairs pairs = pairs := ih texts before
      rw [Value.ofPairs, List.foldl_append, ← Value.ofPairs, front, List.foldl_cons, List.foldl_nil,
        same, assign_of_fresh texts fresh, ← same]

/-- Integers of 64 bits are not too long. -/
theorem IsPortable.short {number : Int} (portable : IsPortable number)
    : number.natAbs < 10 ^ Numeral.maxDecimalDigits := by
  have bound : number.natAbs < 10 ^ 20 := by
    obtain ⟨low, high⟩ := portable
    omega
  exact Nat.lt_of_lt_of_le bound (Nat.pow_le_pow_right (by decide) (by decide))

-----------------------------------------------------------------------------------------
-- Where a value starts and ends
-----------------------------------------------------------------------------------------

theorem isSpace_of_mem_gap {gap : List Char} (space : IsGap gap)
    : ∀ c ∈ gap, isSpace c = true := by
  intro c member
  have marks := space c member
  simp only [List.mem_cons, List.not_mem_nil, or_false] at marks
  rcases marks with rfl | rfl | rfl | rfl <;> rfl

theorem skipSpace_gap {gap : List Char} (space : IsGap gap) (rest : List Char)
    : skipSpace (gap ++ rest) = skipSpace rest := by
  rw [skipSpace, List.dropWhile_append_of_pos (isSpace_of_mem_gap space)]
  rfl

/-- Behind white space there may be a mark that ends a number and is no white space. -/
theorem skipSpace_mark {gap : List Char} (space : IsGap gap) {mark : Char}
    (marks : mark ∈ [',', ']', '\x7d']) (rest : List Char)
    : skipSpace (gap ++ mark :: rest) = mark :: rest ∧ EndsNumber (gap ++ mark :: rest) := by
  simp only [List.mem_cons, List.not_mem_nil, or_false] at marks
  constructor
  · rw [skipSpace_gap space]
    rcases marks with rfl | rfl | rfl <;> rfl
  · cases gap with
    | nil =>
        rcases marks with rfl | rfl | rfl <;>
          exact endsNumber_cons rfl (by simp) (by simp) (by simp)
    | cons c gap =>
        have blank := space c List.mem_cons_self
        simp only [List.mem_cons, List.not_mem_nil, or_false] at blank
        rcases blank with rfl | rfl | rfl | rfl <;>
          exact endsNumber_cons rfl (by simp) (by simp) (by simp)

/-- An integer is written with a digit in front, or with a minus and a digit. -/
theorem decimal_cases (number : Int)
    : ∃ c tail, c.isDigit = true
      ∧ ((decimal number).toList = c :: tail ∨ (decimal number).toList = '-' :: c :: tail) := by
  rw [toList_decimal]
  cases split : Nat.toDigits 10 number.natAbs with
  | nil => exact absurd split Nat.toDigits_ne_nil
  | cons c tail =>
      refine ⟨c, tail, isDigit_of_mem_toDigits (split ▸ List.mem_cons_self), ?_⟩
      by_cases negative : number < 0
      · exact .inr (by simp [negative])
      · exact .inl (by simp [negative])

theorem ne_of_isDigit {c d : Char} (digit : c.isDigit = true) (other : d.isDigit = false)
    : c ≠ d := by
  rintro rfl
  rw [digit] at other
  contradiction

theorem isSpace_of_isDigit {c : Char} (digit : c.isDigit = true) : isSpace c = false := by
  simp only [isSpace, Bool.or_eq_false_iff, beq_eq_false_iff_ne]
  exact ⟨⟨⟨ne_of_isDigit digit rfl, ne_of_isDigit digit rfl⟩, ne_of_isDigit digit rfl⟩,
    ne_of_isDigit digit rfl⟩

/-- The text starts with a mark that is neither a space nor a closing bracket, nor the mark of the
order of bytes.
-/
def Starts (text : List Char) : Prop :=
  ∃ c tail, text = c :: tail ∧ isSpace c = false ∧ c ≠ ']' ∧ c ≠ '\ufeff'

/-- A value starts with a mark of its own. -/
theorem Spells.starts {value : Value} {spelling : List Char} (spells : Spells value spelling)
    : Starts spelling := by
  cases spells with
  | null => exact ⟨'n', _, rfl, rfl, by decide, by decide⟩
  | true => exact ⟨'t', _, rfl, rfl, by decide, by decide⟩
  | false => exact ⟨'f', _, rfl, rfl, by decide, by decide⟩
  | integer number =>
      obtain ⟨c, tail, digit, written | written⟩ := decimal_cases number
      · exact ⟨c, tail, written, isSpace_of_isDigit digit, ne_of_isDigit digit rfl,
          ne_of_isDigit digit rfl⟩
      · exact ⟨'-', c :: tail, written, rfl, by decide, by decide⟩
  | text chars => exact ⟨'"', _, rfl, rfl, by decide, by decide⟩
  | noItems | items => exact ⟨'[', _, rfl, rfl, by decide, by decide⟩
  | noPairs | members => exact ⟨'\x7b', _, rfl, rfl, by decide, by decide⟩

theorem Starts.skipSpace {text : List Char} (starts : Starts text) (rest : List Char)
    : skipSpace (text ++ rest) = text ++ rest := by
  obtain ⟨c, tail, rfl, mark, -⟩ := starts
  simp [Json.skipSpace, mark]

/-- The white space in front of an item is skipped. -/
theorem Item.skipSpace_chars (item : Item) (starts : Starts item.spelling) (rest : List Char)
    : skipSpace (item.chars ++ rest) = item.spelling ++ (item.after ++ rest) := by
  rw [chars, List.append_assoc, skipSpace_gap item.gaps.1, List.append_assoc, starts.skipSpace]

-----------------------------------------------------------------------------------------
-- Scalars as values
-----------------------------------------------------------------------------------------

theorem readNamed?_eq_none {text : List Char}
    (apart : ∀ pair ∈ namedValues, ¬ pair.1.toList <+: text)
    : readNamed? text = none := by
  rw [readNamed?, List.findSome?_eq_none_iff]
  rintro ⟨name, value⟩ member
  exact if_neg fun front => apart _ member (List.isPrefixOf_iff_prefix.mp front)

/-- No value has a name that starts with a digit, or with a minus and a digit. -/
theorem exists_head_namedValues
    : ∀ pair ∈ namedValues, ∃ c more, c.isDigit = false
      ∧ ((pair.1.toList = c :: more ∧ c ≠ '-') ∨ pair.1.toList = '-' :: c :: more) := by
  simp only [namedValues, List.forall_mem_cons]
  exact ⟨⟨'n', _, rfl, .inl ⟨rfl, by decide⟩⟩, ⟨'t', _, rfl, .inl ⟨rfl, by decide⟩⟩,
    ⟨'f', _, rfl, .inl ⟨rfl, by decide⟩⟩, ⟨'N', _, rfl, .inl ⟨rfl, by decide⟩⟩,
    ⟨'I', _, rfl, .inl ⟨rfl, by decide⟩⟩, ⟨'I', _, rfl, .inr rfl⟩, by simp⟩

theorem readNamed?_decimal (number : Int) (rest : List Char)
    : readNamed? ((decimal number).toList ++ rest) = none := by
  refine readNamed?_eq_none fun pair member front => ?_
  obtain ⟨c, more, other, named⟩ := exists_head_namedValues pair member
  obtain ⟨d, tail, digit, written⟩ := decimal_cases number
  have apart : c ≠ d := (ne_of_isDigit digit other).symm
  have minus : '-' ≠ d := (ne_of_isDigit digit rfl).symm
  rcases named with ⟨named, positive⟩ | named <;> rcases written with written | written
  all_goals
    rw [named, written] at front
    simp only [List.cons_append, List.cons_prefix_cons] at front
  · exact apart front.1
  · exact positive front.1
  · exact minus front.1
  · exact apart front.2.1

/-- An integer is read as a value as it is written. -/
theorem readValue_decimal {number : Int} (short : number.natAbs < 10 ^ maxDecimalDigits)
    (fuel : Nat) {rest : List Char} (ends : EndsNumber rest)
    : readValue (fuel + 1) ((decimal number).toList ++ rest) = .ok (.integer number, rest) := by
  have apart : ∀ c more, c.isDigit = false → c ≠ '-' →
      (decimal number).toList ++ rest ≠ c :: more := by
    intro c more other positive same
    obtain ⟨d, tail, digit, written | written⟩ := decimal_cases number
    · rw [written] at same
      exact ne_of_isDigit digit other (List.cons.inj same).1
    · rw [written] at same
      exact positive (List.cons.inj same).1.symm
  rw [readValue]
  · rw [readNamed?_decimal]
    exact readNumber_decimal short ends
  · exact fun more => apart _ more rfl (by decide)
  · exact fun more => apart _ more rfl (by decide)
  · exact fun more => apart _ more rfl (by decide)

/-- A text is read as a value as it is spelled. -/
theorem readValue_quoted {content : String} {spelling : List Char}
    (spells : SpellsChars content.toList spelling) (fuel : Nat) (rest : List Char)
    : readValue (fuel + 1) ('"' :: (spelling ++ '"' :: rest)) = .ok (.text content, rest) := by
  rw [readValue, readString_spelled spells]
  rfl

section Steps

variable {fuel : Nat} {text inside rest more spelling between : List Char} {item value : Value}
variable {name : String}

/-- Behind an opening bracket that is not closed at once there are items. -/
theorem readValue_bracket (filled : ∀ tail, skipSpace inside ≠ ']' :: tail)
    : readValue (fuel + 1) ('[' :: inside)
      = (readItems fuel (skipSpace inside)).map fun (items, rest) => (.sequence items, rest) := by
  rw [readValue]
  split
  · rename_i tail closed
    exact absurd closed (filled tail)
  · cases readItems fuel (skipSpace inside) <;> rfl

/-- Behind an opening brace that is not closed at once there are pairs. -/
theorem readValue_brace (filled : ∀ tail, skipSpace inside ≠ '\x7d' :: tail)
    : readValue (fuel + 1) ('\x7b' :: inside)
      = (readPairs fuel (skipSpace inside)).map
          fun (pairs, rest) => (.mapping (Value.ofPairs pairs), rest) := by
  rw [readValue]
  split
  · rename_i tail closed
    exact absurd closed (filled tail)
  · cases readPairs fuel (skipSpace inside) <;> rfl

/-- The last item is followed by the closing bracket. -/
theorem readItems_last (read : readValue fuel text = .ok (item, inside))
    (closed : skipSpace inside = ']' :: rest)
    : readItems (fuel + 1) text = .ok ([item], rest) := by
  rw [readItems, read]
  simp [bind, Except.bind, closed, pure, Except.pure]

/-- Any other item is followed by a comma and further items. -/
theorem readItems_more (read : readValue fuel text = .ok (item, inside))
    (comma : skipSpace inside = ',' :: more)
    : readItems (fuel + 1) text
      = (readItems fuel (skipSpace more)).map fun (items, rest) => (item :: items, rest) := by
  rw [readItems, read]
  simp only [bind, Except.bind, comma]
  cases readItems fuel (skipSpace more) <;> rfl

/-- The last pair is followed by the closing brace. -/
theorem readPairs_last (spells : SpellsChars name.toList spelling)
    (colon : skipSpace between = ':' :: text)
    (read : readValue fuel (skipSpace text) = .ok (value, inside))
    (closed : skipSpace inside = '\x7d' :: rest)
    : readPairs (fuel + 1) ('"' :: (spelling ++ '"' :: between))
      = .ok ([(.text name, value)], rest) := by
  rw [readPairs, readString_spelled spells]
  simp [bind, Except.bind, colon, read, closed, pure, Except.pure]

/-- Any other pair is followed by a comma and further pairs. -/
theorem readPairs_more (spells : SpellsChars name.toList spelling)
    (colon : skipSpace between = ':' :: text)
    (read : readValue fuel (skipSpace text) = .ok (value, inside))
    (comma : skipSpace inside = ',' :: more)
    : readPairs (fuel + 1) ('"' :: (spelling ++ '"' :: between))
      = (readPairs fuel (skipSpace more)).map
          fun (pairs, rest) => ((.text name, value) :: pairs, rest) := by
  rw [readPairs, readString_spelled spells]
  simp only [bind, Except.bind, colon, read, comma]
  cases readPairs fuel (skipSpace more) <;> rfl

end Steps

-----------------------------------------------------------------------------------------
-- Reading what is spelled
-----------------------------------------------------------------------------------------

/-- The spelling is read as the value, if what follows it does not go on with a number. -/
def Reads (value : Value) (spelling : List Char) : Prop :=
  ∀ fuel rest, EndsNumber rest → 2 * spelling.length ≤ fuel →
    readValue fuel (spelling ++ rest) = .ok (value, rest)

/-- An item is read together with the white space around it. -/
theorem Item.read_chars {item : Item} (reads : Reads item.value item.spelling)
    (starts : Starts item.spelling) {fuel : Nat} (enough : 2 * item.chars.length ≤ fuel)
    {mark : Char} (marks : mark ∈ [',', ']', '\x7d']) (rest : List Char)
    : ∃ inside, readValue fuel (skipSpace (item.chars ++ mark :: rest)) = .ok (item.value, inside)
      ∧ skipSpace inside = mark :: rest := by
  obtain ⟨skipped, ends⟩ := skipSpace_mark item.gaps.2 marks rest
  refine ⟨item.after ++ mark :: rest, ?_, skipped⟩
  rw [item.skipSpace_chars starts]
  refine reads fuel _ ends ?_
  rw [chars, List.length_append, List.length_append] at enough
  omega

/-- Items are read up to the closing bracket, by induction on them. -/
theorem readItems_spelled {items : List Item} (filled : items ≠ [])
    (each : ∀ item ∈ items, Reads item.value item.spelling ∧ Starts item.spelling) {fuel : Nat}
    (enough : 2 * ([','].intercalate (items.map Item.chars)).length + 1 ≤ fuel)
    (rest : List Char)
    : readItems fuel (skipSpace ([','].intercalate (items.map Item.chars) ++ ']' :: rest))
      = .ok (items.map (·.value), rest) := by
  induction items generalizing fuel with
  | nil => contradiction
  | cons item others ih =>
      obtain ⟨fuel, rfl⟩ :=
        Nat.exists_eq_add_one_of_ne_zero (Nat.ne_of_gt (Nat.zero_lt_of_lt enough))
      obtain ⟨⟨reads, starts⟩, behind⟩ := List.forall_mem_cons.mp each
      cases others with
      | nil =>
          simp only [List.map_cons, List.map_nil, List.intercalate_singleton] at enough ⊢
          obtain ⟨inside, read, closed⟩ := item.read_chars reads starts
            (show 2 * item.chars.length ≤ fuel by omega) (by simp : ']' ∈ [',', ']', '\x7d']) rest
          exact readItems_last read closed
      | cons next others =>
          rw [List.map_cons, List.map_cons, List.intercalate_cons_cons, ← List.map_cons] at enough ⊢
          simp only [List.length_append, List.length_singleton] at enough
          obtain ⟨inside, read, comma⟩ := item.read_chars reads starts
            (show 2 * item.chars.length ≤ fuel by omega) (by simp : ',' ∈ [',', ']', '\x7d'])
            ([','].intercalate ((next :: others).map Item.chars) ++ ']' :: rest)
          rw [List.append_assoc, List.append_assoc, List.singleton_append,
            readItems_more read comma, ih (List.cons_ne_nil _ _) behind (by omega)]
          rfl

/-- The white space around the name of a member is skipped. -/
theorem Member.skipSpace_chars (member : Member) (rest : List Char)
    : skipSpace (member.chars ++ rest) = '"' :: (member.spelling
        ++ '"' :: (member.after ++ ':' :: (member.item.chars ++ rest)))
      ∧ skipSpace (member.after ++ ':' :: (member.item.chars ++ rest))
        = ':' :: (member.item.chars ++ rest) := by
  constructor
  · rw [chars, List.append_assoc, skipSpace_gap member.gaps.1]
    simp [skipSpace, isSpace]
  · rw [skipSpace_gap member.gaps.2]
    rfl

theorem Member.length_item_le (member : Member)
    : member.item.chars.length ≤ member.chars.length := by
  simp only [chars, List.length_append, List.length_cons]
  omega

/-- Members are read up to the closing brace, by induction on them. -/
theorem readPairs_spelled {members : List Member} (filled : members ≠ [])
    (each : ∀ member ∈ members, Reads member.item.value member.item.spelling
      ∧ Starts member.item.spelling) {fuel : Nat}
    (enough : 2 * ([','].intercalate (members.map Member.chars)).length + 1 ≤ fuel)
    (rest : List Char)
    : readPairs fuel (skipSpace ([','].intercalate (members.map Member.chars) ++ '\x7d' :: rest))
      = .ok (members.map Member.pair, rest) := by
  induction members generalizing fuel with
  | nil => contradiction
  | cons member others ih =>
      obtain ⟨fuel, rfl⟩ :=
        Nat.exists_eq_add_one_of_ne_zero (Nat.ne_of_gt (Nat.zero_lt_of_lt enough))
      obtain ⟨⟨reads, starts⟩, behind⟩ := List.forall_mem_cons.mp each
      have shorter := member.length_item_le
      cases others with
      | nil =>
          simp only [List.map_cons, List.map_nil, List.intercalate_singleton] at enough ⊢
          obtain ⟨inside, read, closed⟩ := member.item.read_chars reads starts
            (show 2 * member.item.chars.length ≤ fuel by omega)
            (by simp : '\x7d' ∈ [',', ']', '\x7d']) rest
          obtain ⟨opened, colon⟩ := member.skipSpace_chars ('\x7d' :: rest)
          rw [opened]
          exact readPairs_last member.spells colon read closed
      | cons next others =>
          rw [List.map_cons, List.map_cons, List.intercalate_cons_cons, ← List.map_cons] at enough ⊢
          simp only [List.length_append, List.length_singleton] at enough
          rw [List.append_assoc, List.append_assoc, List.singleton_append]
          obtain ⟨inside, read, comma⟩ := member.item.read_chars reads starts
            (show 2 * member.item.chars.length ≤ fuel by omega)
            (by simp : ',' ∈ [',', ']', '\x7d'])
            ([','].intercalate ((next :: others).map Member.chars) ++ '\x7d' :: rest)
          obtain ⟨opened, colon⟩ := member.skipSpace_chars
            (',' :: ([','].intercalate ((next :: others).map Member.chars) ++ '\x7d' :: rest))
          rw [opened, readPairs_more member.spells colon read comma,
            ih (List.cons_ne_nil _ _) behind (by omega)]
          rfl

theorem exists_intercalate_cons (first : List Char) (others : List (List Char))
    : ∃ tail, [','].intercalate (first :: others) = first ++ tail := by
  cases others with
  | nil => exact ⟨[], by simp⟩
  | cons next others =>
      exact ⟨[','] ++ [','].intercalate (next :: others), by
        rw [List.intercalate_cons_cons, List.append_assoc]⟩

/-- A sequence is read as it is spelled: its first item does not start with a closing bracket. -/
theorem reads_items {items : List Item} (filled : items ≠ [])
    (each : ∀ item ∈ items, Reads item.value item.spelling ∧ Starts item.spelling)
    : Reads (.sequence (items.map (·.value)))
        ('[' :: ([','].intercalate (items.map Item.chars) ++ [']'])) := by
  intro fuel rest ends enough
  simp only [List.length_cons, List.length_append] at enough
  obtain ⟨fuel, rfl⟩ := Nat.exists_eq_add_one_of_ne_zero (show fuel ≠ 0 by omega)
  rw [List.cons_append, List.append_assoc, List.singleton_append, readValue_bracket,
    readItems_spelled filled each (by omega)]
  · rfl
  · intro tail closed
    obtain ⟨item, others, rfl⟩ := List.exists_cons_of_ne_nil filled
    have starts := (each item List.mem_cons_self).2
    obtain ⟨behind, split⟩ := exists_intercalate_cons item.chars (others.map Item.chars)
    rw [List.map_cons, split, List.append_assoc, item.skipSpace_chars starts] at closed
    obtain ⟨c, more, spelled, -, opened, -⟩ := starts
    rw [spelled] at closed
    exact opened (List.cons.inj closed).1

/-- A mapping from distinct names is read as it is spelled. -/
theorem reads_members {members : List Member} (filled : members ≠ [])
    (each : ∀ member ∈ members, Reads member.item.value member.item.spelling
      ∧ Starts member.item.spelling)
    (distinct : ((members.map Member.pair).map (·.1)).Nodup)
    : Reads (.mapping (members.map Member.pair))
        ('\x7b' :: ([','].intercalate (members.map Member.chars) ++ ['\x7d'])) := by
  intro fuel rest ends enough
  simp only [List.length_cons, List.length_append] at enough
  obtain ⟨fuel, rfl⟩ := Nat.exists_eq_add_one_of_ne_zero (show fuel ≠ 0 by omega)
  have texts : ∀ pair ∈ members.map Member.pair, ∃ key, pair.1 = .text key :=
    List.forall_mem_map.mpr fun member _ => ⟨member.name, rfl⟩
  rw [List.cons_append, List.append_assoc, List.singleton_append, readValue_brace,
    readPairs_spelled filled each (by omega)]
  · simp [Except.map, ofPairs_eq texts distinct]
  · intro tail closed
    obtain ⟨member, others, rfl⟩ := List.exists_cons_of_ne_nil filled
    obtain ⟨behind, split⟩ := exists_intercalate_cons member.chars (others.map Member.chars)
    rw [List.map_cons, split, List.append_assoc, (member.skipSpace_chars _).1] at closed
    have quote := (List.cons.inj closed).1
    contradiction

/-- A value of 64-bit integers is read as it is spelled, by induction on its spelling. -/
theorem Spells.reads {takes : String → Prop} {depth : Nat} {value : Value} {spelling : List Char}
    (spells : Spells value spelling) (storable : Storable IsPortable takes depth value)
    : Reads value spelling := by
  induction spells generalizing depth with
  | null | true | false =>
      intro fuel rest ends enough
      obtain ⟨fuel, rfl⟩ := Nat.exists_eq_add_one_of_ne_zero
        (Nat.ne_of_gt (Nat.lt_of_lt_of_le (by decide) enough))
      rfl
  | integer number =>
      cases storable with
      | integer fit =>
          intro fuel rest ends enough
          obtain ⟨c, tail, -, written | written⟩ := decimal_cases number
          all_goals
            rw [written, List.length_cons] at enough
            obtain ⟨fuel, rfl⟩ := Nat.exists_eq_add_one_of_ne_zero (show fuel ≠ 0 by omega)
            exact readValue_decimal fit.short fuel ends
  | text chars =>
      intro fuel rest ends enough
      obtain ⟨fuel, rfl⟩ := Nat.exists_eq_add_one_of_ne_zero
        (Nat.ne_of_gt (Nat.lt_of_lt_of_le (by simp) enough))
      simpa using readValue_quoted chars fuel rest
  | noItems space =>
      intro fuel rest ends enough
      obtain ⟨fuel, rfl⟩ := Nat.exists_eq_add_one_of_ne_zero
        (Nat.ne_of_gt (Nat.lt_of_lt_of_le (by simp) enough))
      have closed := (skipSpace_mark space (by simp : ']' ∈ [',', ']', '\x7d']) rest).1
      rw [List.cons_append, List.append_assoc, List.singleton_append, readValue, closed]
      rfl
  | items filled each ih =>
      cases storable with
      | sequence all =>
          refine reads_items filled fun item member => ⟨?_, (each item member).starts⟩
          exact ih item member (all _ (List.mem_map_of_mem member))
  | noPairs space =>
      intro fuel rest ends enough
      obtain ⟨fuel, rfl⟩ := Nat.exists_eq_add_one_of_ne_zero
        (Nat.ne_of_gt (Nat.lt_of_lt_of_le (by simp) enough))
      have closed := (skipSpace_mark space (by simp : '\x7d' ∈ [',', ']', '\x7d']) rest).1
      rw [List.cons_append, List.append_assoc, List.singleton_append, readValue, closed]
      rfl
  | members filled each ih =>
      cases storable with
      | mapping names distinct all =>
          refine reads_members filled
            (fun member inside => ⟨?_, (each member inside).starts⟩) distinct
          exact ih member inside (all _ (List.mem_map_of_mem inside))

/-- A text that spells a value of 64-bit integers stands for it. -/
theorem read_spelled {takes : String → Prop} {depth : Nat} {value : Value} {text : String}
    (spells : Spells value text.toList) (storable : Storable IsPortable takes depth value)
    : read text = .ok value := by
  obtain ⟨c, tail, spelled, -, -, unmarked⟩ := spells.starts
  have first : text.toList.head? ≠ some '\ufeff' := by
    rw [spelled]
    simpa using unmarked
  have nothing : EndsNumber [] := by
    intro c first
    contradiction
  have whole := spells.reads storable (2 * text.toList.length + 2) [] nothing (by omega)
  have skipped := spells.starts.skipSpace []
  rw [List.append_nil] at whole skipped
  simp only [read, readWhole, first, skipped, whole, bind, Except.bind, if_false]
  rfl

end ErrorTables.Json
