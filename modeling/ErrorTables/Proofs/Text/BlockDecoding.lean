import ErrorTables.Text.Utf8
import Mathlib

/-! Decoding block by block gives the text that was encoded, wherever the blocks end.
Bytes from the start of an encoded text are whole characters and, unless a character ends there, the
start of one more; such a start is kept until the next block completes it.
-/

namespace ErrorTables.Text.Utf8

-----------------------------------------------------------------------------------------
-- The bytes of one character
-----------------------------------------------------------------------------------------

/-- The bytes continue a character whose next byte must lie between `low` and `high`. -/
def Continues : UInt8 → UInt8 → List UInt8 → Prop
  | _, _, [] => True
  | low, high, byte :: rest => low ≤ byte ∧ byte ≤ high ∧ Continues 0x80 0xbf rest

/-- The bytes are a lead byte beyond ASCII with all the bytes that must follow it. -/
def IsSequence (bytes : List UInt8) : Prop :=
  ∃ lead tail low high, bytes = lead :: tail ∧ ¬ lead < 0x80
    ∧ continuation? lead = some (tail.length, low, high) ∧ Continues low high tail

theorem Continues.start {low high : UInt8} {part rest : List UInt8}
    (h : Continues low high (part ++ rest))
    : Continues low high part := by
  induction part generalizing low high with
  | nil => trivial
  | cons byte part ih => exact ⟨h.1, h.2.1, ih h.2.2⟩

/-- All bytes that continue a character are counted, if as many are asked for or none follow. -/
theorem continued_append {count : Nat} {low high : UInt8} {part rest : List UInt8}
    (continues : Continues low high part) (room : part.length ≤ count)
    (stop : part.length = count ∨ rest = [])
    : continued count low high (part ++ rest) = part.length := by
  induction part generalizing count low high with
  | nil =>
      rcases stop with full | ended
      · simp [← full, continued]
      · simp [ended, continued]
  | cons byte part ih =>
      obtain ⟨above, below, continues⟩ := continues
      cases count with
      | zero => simp at room
      | succ count =>
          have more := ih continues (by simpa using room) (by simpa using stop)
          simp [continued, above, below, more]

section Sequences

variable {code : Nat}

theorem isSequence_two (small : code ≤ 0x7ff) (large : 0x7f < code)
    : IsSequence [UInt8.ofNat (code / 64 % 32 + 0xc0), UInt8.ofNat (code % 64 + 0x80)] := by
  refine ⟨_, _, 0x80, 0xbf, rfl, ?_, ?_, ?_⟩
  · simp [UInt8.lt_iff_toNat_lt]
    omega
  · simp [continuation?, UInt8.lt_iff_toNat_lt]
    omega
  · simp [Continues, UInt8.le_iff_toNat_le]
    omega

/-- The second of three bytes is bounded where the first one alone would allow an overlong form or a
surrogate.
-/
theorem isSequence_three (small : code ≤ 0xffff) (large : 0x7ff < code)
    (valid : code < 0xd800 ∨ 0xdfff < code)
    : IsSequence [UInt8.ofNat (code / 4096 % 16 + 0xe0), UInt8.ofNat (code / 64 % 64 + 0x80),
        UInt8.ofNat (code % 64 + 0x80)] := by
  refine ⟨_, _, if code / 4096 = 0 then 0xa0 else 0x80, if code / 4096 = 13 then 0x9f else 0xbf,
    rfl, ?_, ?_, ?_⟩
  · simp [UInt8.lt_iff_toNat_lt]
    omega
  · simp [continuation?, UInt8.lt_iff_toNat_lt, ← UInt8.toNat_inj]
    split_ifs <;> simp_all <;> omega
  · simp [Continues, UInt8.le_iff_toNat_le]
    split_ifs <;> simp <;> omega

/-- The second of four bytes is bounded where the first one alone would allow an overlong form or a
number beyond Unicode.
-/
theorem isSequence_four (valid : code < 0x110000) (large : 0xffff < code)
    : IsSequence [UInt8.ofNat (code / 262144 % 8 + 0xf0), UInt8.ofNat (code / 4096 % 64 + 0x80),
        UInt8.ofNat (code / 64 % 64 + 0x80), UInt8.ofNat (code % 64 + 0x80)] := by
  refine ⟨_, _, if code / 262144 = 0 then 0x90 else 0x80, if code / 262144 = 4 then 0x8f else 0xbf,
    rfl, ?_, ?_, ?_⟩
  · simp [UInt8.lt_iff_toNat_lt]
    omega
  · simp [continuation?, UInt8.lt_iff_toNat_lt, ← UInt8.toNat_inj]
    split_ifs <;> simp_all <;> omega
  · simp [Continues, UInt8.le_iff_toNat_le]
    split_ifs <;> simp <;> omega

end Sequences

/-- A character is encoded as one byte of ASCII or as a longer sequence. -/
theorem utf8EncodeChar_cases (c : Char)
    : (∃ byte, String.utf8EncodeChar c = [byte] ∧ byte < 0x80)
      ∨ IsSequence (String.utf8EncodeChar c) := by
  have valid : c.val.toNat.isValidChar := c.valid
  unfold String.utf8EncodeChar Nat.isValidChar at *
  simp only
  generalize c.val.toNat = code at *
  split
  · refine Or.inl ⟨_, rfl, ?_⟩
    simp [UInt8.lt_iff_toNat_lt]
    omega
  · split
    · exact Or.inr (isSequence_two (by assumption) (by omega))
    · split
      · exact Or.inr (isSequence_three (by assumption) (by omega) (by omega))
      · exact Or.inr (isSequence_four (by omega) (by omega))

-----------------------------------------------------------------------------------------
-- The bytes of a text
-----------------------------------------------------------------------------------------

/-- The bytes of a text. -/
def encode (text : List Char) : List UInt8 :=
  text.flatMap String.utf8EncodeChar

@[simp]
theorem encode_nil : encode [] = [] := rfl

@[simp]
theorem encode_cons (c : Char) (text : List Char)
    : encode (c :: text) = String.utf8EncodeChar c ++ encode text := rfl

@[simp]
theorem encode_append (front back : List Char)
    : encode (front ++ back) = encode front ++ encode back :=
  List.flatMap_append

theorem encode_eq_nil_iff {text : List Char} : encode text = [] ↔ text = [] := by
  cases text <;> simp

theorem toByteArray_encode (text : List Char)
    : (⟨(encode text).toArray⟩ : ByteArray) = (String.ofList text).toByteArray := by
  rw [String.toByteArray_ofList, List.utf8Encode]
  apply ByteArray.ext
  rw [← Array.toList_inj, List.toList_data_toByteArray]
  rfl

theorem fromUTF8?_encode (text : List Char)
    : String.fromUTF8? ⟨(encode text).toArray⟩ = some (String.ofList text) := by
  rw [toByteArray_encode, String.fromUTF8?, dif_pos (String.ofList text).isValidUTF8]
  rfl

/-- No fault stands in an encoded text, by induction on the text. -/
theorem firstFaultFrom_encode_append (start : Nat) (text : List Char) (rest : List UInt8)
    : firstFaultFrom start (encode text ++ rest)
      = firstFaultFrom (start + (encode text).length) rest := by
  induction text generalizing start with
  | nil => simp
  | cons c text ih =>
      have here (more : List UInt8)
          : firstFaultFrom start (String.utf8EncodeChar c ++ more)
            = firstFaultFrom (start + (String.utf8EncodeChar c).length) more := by
        rcases utf8EncodeChar_cases c with ⟨byte, eq, ascii⟩ | sequence
        · rw [eq, List.singleton_append, firstFaultFrom]
          simp [ascii]
        · obtain ⟨lead, tail, low, high, eq, beyond, leads, continues⟩ := sequence
          have counted := @continued_append _ _ _ _ more continues (Nat.le_refl _) (Or.inl rfl)
          rw [eq, List.cons_append, firstFaultFrom]
          simp only [beyond, if_false, leads, counted, if_true, List.drop_left, List.length_cons]
          congr 1
          omega
      rw [encode_cons, List.append_assoc, here, ih, List.length_append, Nat.add_assoc]

theorem firstFaultFrom_encode (start : Nat) (text : List Char)
    : firstFaultFrom start (encode text) = none := by
  have passed := firstFaultFrom_encode_append start text []
  rwa [List.append_nil, show firstFaultFrom _ [] = none from by rw [firstFaultFrom]] at passed

/-- The start of a character is a sequence that ends too early. -/
theorem firstFaultFrom_part {c : Char} {part rest : List UInt8}
    (split : String.utf8EncodeChar c = part ++ rest) (begun : part ≠ []) (cut : rest ≠ [])
    (start : Nat)
    : ∃ fault, firstFaultFrom start part = some fault ∧ fault.start = start
      ∧ fault.kind = .unexpectedEnd := by
  cases part with
  | nil => contradiction
  | cons first part =>
      rcases utf8EncodeChar_cases c with ⟨byte, eq, -⟩ | sequence
      · rw [eq] at split
        simp_all
      · obtain ⟨lead, tail, low, high, eq, beyond, leads, continues⟩ := sequence
        rw [eq, List.cons_append, List.cons.injEq] at split
        obtain ⟨rfl, rfl⟩ := split
        have counted : continued (part ++ rest).length low high part = part.length := by
          simpa using @continued_append (part ++ rest).length _ _ _ [] continues.start (by simp)
            (Or.inr rfl)
        have short : part.length ≠ (part ++ rest).length := by simpa using cut
        rw [firstFaultFrom]
        simp only [beyond, if_false, leads, counted, short, if_true]
        exact ⟨_, rfl, rfl, rfl⟩

/-- Bytes from the start of an encoded text are whole characters and, unless a character ends there,
the start of the next one, by induction on the text.
-/
theorem exists_cut {text : List Char} {bytes more : List UInt8}
    (whole : encode text = bytes ++ more)
    : ∃ front back part, text = front ++ back ∧ bytes = encode front ++ part
      ∧ encode back = part ++ more
      ∧ (part ≠ [] → more ≠ [] ∧ ∃ c rest, String.utf8EncodeChar c = part ++ rest ∧ rest ≠ []) := by
  induction text generalizing bytes with
  | nil =>
      obtain ⟨rfl, rfl⟩ := List.append_eq_nil_iff.mp whole.symm
      exact ⟨[], [], [], rfl, rfl, rfl, by simp⟩
  | cons c text ih =>
      rw [encode_cons] at whole
      rcases List.append_eq_append_iff.mp whole with ⟨behind, eq, within⟩ | ⟨rest, eq, within⟩
      · obtain ⟨front, back, part, rfl, rfl, ahead, cut⟩ := ih within
        exact ⟨c :: front, back, part, rfl, by simp [eq], ahead, cut⟩
      · by_cases ended : rest = []
        · subst ended
          exact ⟨[c], text, [], rfl, by simpa using eq.symm, by simpa using within.symm, by simp⟩
        · have more : more ≠ [] := by simp [within, ended]
          exact ⟨[], c :: text, bytes, rfl, by simp, by simp [whole],
            fun _ => ⟨more, c, rest, eq, ended⟩⟩

-----------------------------------------------------------------------------------------
-- Block by block
-----------------------------------------------------------------------------------------

/-- The state has decoded the start of the text, and its pending bytes and those ahead encode the
rest. Nothing is pending once nothing is ahead.
-/
structure BlockState.Reads (state : BlockState) (text : List Char) (ahead : List UInt8) : Prop where
  fault : state.fault = none
  rest : ∃ rest, text = state.text ++ rest ∧ encode rest = state.pending ++ ahead
  ended : ahead = [] → state.pending = []

/-- A block is decoded up to the last character that ends in it. -/
theorem BlockState.Reads.feed {state : BlockState} {text : List Char} {block ahead : List UInt8}
    (reads : state.Reads text (block ++ ahead)) (given : block = [] → ahead = [])
    : (state.feed block).Reads text ahead := by
  obtain ⟨sound, ⟨rest, whole, encoded⟩, -⟩ := reads
  rw [← List.append_assoc] at encoded
  obtain ⟨front, back, part, rfl, bytes, later, cut⟩ := exists_cut encoded
  unfold BlockState.feed
  simp only [sound, Option.isSome_none, bytes]
  by_cases done : part = []
  · subst done
    simp only [List.append_nil, firstFaultFrom_encode, fromUTF8?_encode]
    exact ⟨rfl, ⟨back, by simp [whole], by simpa using later⟩, fun _ => rfl⟩
  · obtain ⟨left, c, tail, split, unfinished⟩ := cut done
    obtain ⟨fault, found, place, kind⟩ :=
      firstFaultFrom_part split done unfinished (0 + (encode front).length)
    have fed : block ≠ [] := fun none => left (given none)
    rw [Nat.zero_add] at place
    have incomplete : fault.isIncomplete (encode front ++ part) = true := by
      simp [Fault.isIncomplete, kind]
    have goesOn : (block.isEmpty || !fault.isIncomplete (encode front ++ part)) = false := by
      simp [incomplete, fed]
    simp only [firstFaultFrom_encode_append, found, goesOn, place, List.take_left, List.drop_left,
      fromUTF8?_encode]
    exact ⟨rfl, ⟨back, by simp [whole], by simpa using later⟩, fun none => (left none).elim⟩

/-- Blocks that hold something each are decoded one after the other. -/
theorem BlockState.Reads.feedAll {state : BlockState} {text : List Char}
    {blocks : List (List UInt8)}
    (reads : state.Reads text blocks.flatten) (given : ∀ block ∈ blocks, block ≠ [])
    : (blocks.foldl BlockState.feed state).Reads text [] := by
  induction blocks generalizing state with
  | nil => simpa using reads
  | cons block blocks ih =>
      obtain ⟨here, later⟩ := List.forall_mem_cons.mp given
      exact ih (reads.feed fun none => (here none).elim) later

/-- All bytes are in blocks, none of which is empty. -/
theorem flatten_blocks {size count : Nat} {bytes : List UInt8} (positive : 0 < size)
    (enough : bytes.length ≤ count)
    : (blocks size count bytes).flatten = bytes
      ∧ ∀ block ∈ blocks size count bytes, block ≠ [] := by
  induction count generalizing bytes with
  | zero =>
      have none : bytes = [] := by simpa using enough
      simp [blocks, none]
  | succ count ih =>
      by_cases none : bytes = []
      · simp [blocks, none]
      · have left : (bytes.drop size).length ≤ count := by
          rw [List.length_drop]
          omega
        obtain ⟨all, full⟩ := ih left
        have some : bytes.take size ≠ [] := by
          simpa [List.take_eq_nil_iff, none] using Nat.ne_of_gt positive
        simp only [blocks, List.isEmpty_iff, none, if_false, List.flatten_cons, all,
          List.take_append_drop, List.forall_mem_cons, true_and]
        exact ⟨some, full⟩

/-- Bytes as a list are those that the array holds. -/
theorem toList_eq (bytes : ByteArray) : bytes.toList = bytes.data.toList := by
  have loop (place : Nat) (taken : List UInt8)
      : ByteArray.toList.loop bytes place taken
        = taken.reverse ++ bytes.data.toList.drop place := by
    induction place, taken using ByteArray.toList.loop.induct bytes with
    | case1 place taken inside ih =>
        have bound : place < bytes.data.toList.length := by simpa using inside
        rw [ByteArray.toList.loop, if_pos inside, ih, List.drop_eq_getElem_cons bound]
        simp [ByteArray.get!, inside]
    | case2 place taken outside =>
        rw [ByteArray.toList.loop, if_neg outside, List.drop_eq_nil_of_le]
        · simp
        · simpa using Nat.le_of_not_lt outside
  simp [ByteArray.toList, loop]

theorem toList_toUTF8 (text : String) : text.toUTF8.toList = encode text.toList := by
  have bytes := toByteArray_encode text.toList
  rw [String.ofList_toList] at bytes
  rw [toList_eq, String.toUTF8_eq_toByteArray, ← bytes]

/-- A text that was encoded is decoded whole, in blocks of any size. -/
theorem decodeBlocks_toUTF8 {size : Nat} (positive : 0 < size) (text : String)
    : decodeBlocks size text.toUTF8 = { text := text.toList } := by
  have enough : text.toUTF8.toList.length ≤ text.toUTF8.size := by
    rw [toList_eq, Array.length_toList]
    exact Nat.le_refl _
  obtain ⟨all, full⟩ := flatten_blocks positive enough
  have start : ({} : BlockState).Reads text.toList text.toUTF8.toList :=
    ⟨rfl, ⟨text.toList, rfl, (toList_toUTF8 text).symm⟩, fun _ => rfl⟩
  rw [← all] at start
  have last : BlockState.Reads _ text.toList ([] ++ []) := start.feedAll full
  obtain ⟨sound, ⟨rest, whole, encoded⟩, ended⟩ := last.feed fun _ => rfl
  rw [ended rfl, List.append_nil, encode_eq_nil_iff] at encoded
  rw [encoded, List.append_nil] at whole
  have pending := ended rfl
  rw [decodeBlocks, List.foldl_append, List.foldl_cons, List.foldl_nil]
  cases state : BlockState.feed _ [] with
  | mk decoded undecoded fault => simp_all

end ErrorTables.Text.Utf8
