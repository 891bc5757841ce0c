import ErrorTables.Proofs.Json.Spelling

/-! The encoder of this library writes JSON.
Its layout is white space between the parts of a value, and it takes all texts.
-/

namespace ErrorTables.Json

-----------------------------------------------------------------------------------------
-- Texts
-----------------------------------------------------------------------------------------

/-- The escape of a control character is spelled with the digits of its code. -/
theorem spellsChars_control {c : Char} {text spelling : List Char} (control : c.toNat < 0x20)
    (others : SpellsChars text spelling)
    : SpellsChars (c :: text)
        ('\\' :: 'u' :: '0' :: '0' :: hexDigit (c.toNat / 16) :: hexDigit (c.toNat % 16)
          :: spelling) := by
  have each : List.Forall₂ IsHexDigit [0, 0, c.toNat / 16, c.toNat % 16]
      ['0', '0', hexDigit (c.toNat / 16), hexDigit (c.toNat % 16)] :=
    .cons ⟨by decide, .inl rfl⟩ <| .cons ⟨by decide, .inl rfl⟩ <|
      .cons ⟨by omega, .inl rfl⟩ <| .cons ⟨by omega, .inl rfl⟩ .nil
  refine .code rfl each ?_ others
  simp only [List.foldl_cons, List.foldl_nil]
  omega

/-- Each character is written as it is, or as one of the escapes. -/
theorem spellsChars_escapeChar (c : Char) {text spelling : List Char}
    (others : SpellsChars text spelling)
    : SpellsChars (c :: text) (escapeChar c ++ spelling) := by
  unfold escapeChar
  split
  case h_8 c quote slash _ _ _ _ _ =>
    split
    · rename_i control
      exact spellsChars_control control others
    · rename_i visible
      exact .plain quote slash (Nat.le_of_not_lt visible) others
  all_goals exact .short (by simp [shortEscapes]) others

/-- A text is written character by character, by induction on it. -/
theorem spellsChars_escaped (text : List Char) : SpellsChars text (text.flatMap escapeChar) := by
  induction text with
  | nil => exact .nil
  | cons c text ih => exact spellsChars_escapeChar c ih

-----------------------------------------------------------------------------------------
-- Values
-----------------------------------------------------------------------------------------

theorem isGap_newLine (level : Nat) : IsGap (newLine level) := by
  intro c member
  rcases List.mem_cons.mp member with rfl | member
  · simp
  · simp [(List.mem_replicate.mp member).2]

/-- What is written for some values are items between commas, by induction on the values. -/
theorem exists_items_written (level outer : Nat) {item : Value} {rest : List Value}
    (each : ∀ value ∈ item :: rest, Spells value (writeValue level value))
    : ∃ items : List Item, items ≠ [] ∧ (∀ item ∈ items, Spells item.value item.spelling)
      ∧ items.map (·.value) = item :: rest
      ∧ [','].intercalate (items.map Item.chars)
        = newLine level ++ (writeValue level item ++ (writeItems level rest ++ newLine outer)) := by
  obtain ⟨first, others⟩ := List.forall_mem_cons.mp each
  induction rest generalizing item with
  | nil =>
      refine ⟨[⟨item, writeValue level item, newLine level, newLine outer, isGap_newLine level,
        isGap_newLine outer⟩], List.cons_ne_nil _ _, ?_, rfl, ?_⟩
      · simpa using first
      · simp [Item.chars, writeItems]
  | cons next rest ih =>
      obtain ⟨second, behind⟩ := List.forall_mem_cons.mp others
      obtain ⟨items, filled, spelled, values, written⟩ := ih others second behind
      obtain ⟨head, more, rfl⟩ := List.exists_cons_of_ne_nil filled
      refine ⟨⟨item, writeValue level item, newLine level, [], isGap_newLine level,
        List.forall_mem_nil _⟩ :: head :: more, List.cons_ne_nil _ _, ?_, ?_, ?_⟩
      · exact List.forall_mem_cons.mpr ⟨first, spelled⟩
      · rw [List.map_cons, values]
      · rw [List.map_cons, List.map_cons, List.intercalate_cons_cons, ← List.map_cons, written]
        simp [Item.chars, writeItems]

/-- What is written for some pairs are members between commas, by induction on the pairs. -/
theorem exists_members_written (level outer : Nat) {name : String} {value : Value}
    {rest : List (Value × Value)} (names : ∀ pair ∈ rest, ∃ name, pair.1 = .text name)
    (each : ∀ pair ∈ (.text name, value) :: rest, Spells pair.2 (writeValue level pair.2))
    : ∃ members : List Member, members ≠ []
      ∧ (∀ member ∈ members, Spells member.item.value member.item.spelling)
      ∧ members.map Member.pair = (.text name, value) :: rest
      ∧ [','].intercalate (members.map Member.chars)
        = newLine level ++ (writeText name ++ ':' :: ' ' :: (writeValue level value
          ++ (writePairs level rest ++ newLine outer))) := by
  have spaced : IsGap [' '] := by simp [IsGap]
  have none : IsGap [] := List.forall_mem_nil _
  obtain ⟨first, others⟩ := List.forall_mem_cons.mp each
  induction rest generalizing name value with
  | nil =>
      refine ⟨[{
        name, spelling := name.toList.flatMap escapeChar, before := newLine level, after := []
        item := ⟨value, writeValue level value, [' '], newLine outer, spaced, isGap_newLine outer⟩
        gaps := ⟨isGap_newLine level, none⟩
        spells := spellsChars_escaped name.toList }], List.cons_ne_nil _ _, ?_, rfl, ?_⟩
      · simpa using first
      · simp [Member.chars, Item.chars, writeText, writePairs]
  | cons next rest ih =>
      obtain ⟨_, second⟩ := next
      obtain ⟨⟨key, rfl⟩, named⟩ := List.forall_mem_cons.mp names
      obtain ⟨spelledSecond, behind⟩ := List.forall_mem_cons.mp others
      obtain ⟨members, filled, spelled, pairs, written⟩ := ih named others spelledSecond behind
      obtain ⟨head, more, rfl⟩ := List.exists_cons_of_ne_nil filled
      refine ⟨{
        name, spelling := name.toList.flatMap escapeChar, before := newLine level, after := []
        item := ⟨value, writeValue level value, [' '], [], spaced, none⟩
        gaps := ⟨isGap_newLine level, none⟩
        spells := spellsChars_escaped name.toList } :: head :: more, List.cons_ne_nil _ _, ?_, ?_,
        ?_⟩
      · exact List.forall_mem_cons.mpr ⟨first, spelled⟩
      · rw [List.map_cons, pairs]
        rfl
      · rw [List.map_cons, List.map_cons, List.intercalate_cons_cons, ← List.map_cons, written]
        simp [Member.chars, Item.chars, writeText, writePairs, keyText]

/-- A value is written as it may be spelled, whatever the level, by induction on the value. -/
theorem spells_writeValue {fits : Int → Prop} {takes : String → Prop} {depth : Nat}
    {value : Value} (storable : Storable fits takes depth value) (level : Nat)
    : Spells value (writeValue level value) := by
  induction storable generalizing level with
  | null => exact .null
  | boolean truth => cases truth <;> constructor
  | integer fit => exact .integer _
  | text taken => exact .text (spellsChars_escaped _)
  | @sequence depth items all ih =>
      cases items with
      | nil => exact .noItems (List.forall_mem_nil _)
      | cons item rest =>
          obtain ⟨items, filled, spelled, values, written⟩ :=
            exists_items_written (level + 1) level fun value member => ih value member (level + 1)
          have spells := Spells.items filled spelled
          rw [values, written] at spells
          simpa [writeValue] using spells
  | @mapping depth pairs names distinct all ih =>
      cases pairs with
      | nil => exact .noPairs (List.forall_mem_nil _)
      | cons pair rest =>
          obtain ⟨⟨name, named, -⟩, others⟩ := List.forall_mem_cons.mp names
          obtain ⟨key, value⟩ := pair
          obtain rfl : key = .text name := named
          obtain ⟨members, filled, spelled, pairs, written⟩ :=
            exists_members_written (level + 1) level
              (fun pair member => (others pair member).imp fun _ both => both.1)
              fun pair member => ih pair member (level + 1)
          have spells := Spells.members filled spelled
          rw [pairs, written] at spells
          simpa [writeValue, keyText] using spells

-----------------------------------------------------------------------------------------
-- The encoder
-----------------------------------------------------------------------------------------

theorem arePortable_iff {items : List Value}
    : arePortable items = true ↔ ∀ item ∈ items, isPortable item = true := by
  induction items with
  | nil => simp [arePortable]
  | cons item items ih => simp [arePortable, ih]

theorem havePortableValues_iff {pairs : List (Value × Value)}
    : havePortableValues pairs = true ↔ ∀ pair ∈ pairs, isPortable pair.2 = true := by
  induction pairs with
  | nil => simp [havePortableValues]
  | cons pair pairs ih => simp [havePortableValues, ih]

/-- The integers of a storable value have 64 bits exactly if it is portable, by induction on it. -/
theorem Storable.isPortable_iff {takes : String → Prop} {depth : Nat} {value : Value}
    (storable : Storable (fun _ => True) takes depth value)
    : isPortable value = true ↔ Storable IsPortable takes depth value := by
  induction storable with
  | null => exact iff_of_true rfl .null
  | boolean truth => exact iff_of_true rfl (.boolean truth)
  | text taken => exact iff_of_true rfl (.text taken)
  | integer fit => rw [isPortable, decide_eq_true_eq, storable_integer_iff]
  | sequence all ih =>
      rw [isPortable, arePortable_iff, storable_sequence_iff]
      exact forall₂_congr ih
  | mapping names distinct all ih =>
      rw [isPortable, havePortableValues_iff, storable_mapping_iff names distinct]
      exact forall₂_congr ih

/-- The conditions on integers and texts can be relaxed, by induction on the value. -/
theorem Storable.mono {fits fits' : Int → Prop} {takes takes' : String → Prop} {depth : Nat}
    {value : Value} (storable : Storable fits takes depth value)
    (fit : ∀ number, fits number → fits' number) (take : ∀ text, takes text → takes' text)
    : Storable fits' takes' depth value := by
  induction storable with
  | null => exact .null
  | boolean truth => exact .boolean truth
  | integer fits => exact .integer (fit _ fits)
  | text taken => exact .text (take _ taken)
  | sequence all ih => exact .sequence ih
  | mapping names distinct all ih =>
      refine .mapping (fun pair member => ?_) distinct ih
      obtain ⟨name, named, taken⟩ := names pair member
      exact ⟨name, named, take name taken⟩

/-- The encoder of this library takes all texts and refuses integers of more than 64 bits. -/
theorem isEncoder_encode : IsEncoder (fun _ => True) encode where
  ascii _ _ := trivial
  spelled {value} storable := by
    have relaxed := storable.mono (fun _ _ => trivial) fun _ taken => taken
    refine ⟨write value, if_pos (relaxed.isPortable_iff.mpr storable), ?_⟩
    rw [write, String.toList_ofList]
    exact spells_writeValue storable 0
  tooWide storable wide := if_neg fun portable => wide (storable.isPortable_iff.mp portable)
  refused storable untaken := absurd storable untaken

end ErrorTables.Json
