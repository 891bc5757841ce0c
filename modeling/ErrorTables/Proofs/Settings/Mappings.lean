import ErrorTables.Settings
import Mathlib.Data.List.Basic
import Mathlib.Tactic.Tauto

/-! Settings that cannot be taken from a mapping.
A mapping with unknown keys is refused and the keys are reported, if all of them are texts. Settings
are taken from known keys unless a single value stands in place of the lines of the banner, or a
value has no text. Everything else is a fault.
-/

namespace ErrorTables

namespace Value

/-- The value can be taken item by item. -/
def isIterable : Value → Bool
  | .text _ | .bytes _ | .sequence _ | .tuple _ | .set _ | .mapping _ => true
  | _ => false

end Value

namespace Settings

section Steps

variable {ε η α β : Type} {first : Except ε α}

/-- Two steps succeed together if each of them does, where it does not matter to the second what
the first one gives.
-/
theorem exists_bind_iff {next : α → Except ε β} {holds : Prop}
    (onward : ∀ result, first = .ok result → ((∃ last, next result = .ok last) ↔ holds))
    : (∃ last, (first >>= next) = .ok last) ↔ (∃ result, first = .ok result) ∧ holds := by
  cases first with
  | error error => simp [bind, Except.bind]
  | ok result => simpa [bind, Except.bind] using onward result rfl

/-- What is made of the result of a step does not matter to its success. -/
theorem exists_bind_pure_iff {finish : α → β}
    : (∃ last, (first >>= fun result => pure (finish result)) = .ok last)
      ↔ ∃ result, first = .ok result := by
  cases first <;> simp [bind, Except.bind, pure, Except.pure]

/-- Steps for all items succeed if each of them does, by induction on the items. -/
theorem exists_mapM_iff {step : α → Except ε β} {items : List α}
    : (∃ results, items.mapM step = .ok results)
      ↔ ∀ item ∈ items, ∃ result, step item = .ok result := by
  induction items with
  | nil => simp [pure, Except.pure]
  | cons item rest ih =>
      rw [List.mapM_cons, exists_bind_iff, List.forall_mem_cons]
      intro _ _
      rw [exists_bind_pure_iff, ih]

end Steps

section Keys

variable {keys : List Value} {pairs : List (Value × Value)} {plain : Value → Except Fault String}

/-- Texts can be put in order, by induction on them. -/
theorem orderFault?_texts (names : List String) : orderFault? (names.map .text) = none := by
  induction names with
  | nil => rfl
  | cons first rest ih =>
      cases rest with
      | nil => rfl
      | cons second rest => simpa [orderFault?, comparisonKind] using ih

/-- Unknown keys that are all texts are reported, all of them and in order. -/
theorem unknownKeysProblem_texts (names : List String)
    : unknownKeysProblem (names.map .text)
      = .refused (.unknownKeys (names.mergeSort fun first second => first ≤ second)) := by
  have picked (pick : Value → Option String) (picks : ∀ name, pick (.text name) = some name)
      : (names.map Value.text).filterMap pick = names := by
    simp [List.filterMap_map, picks]
  rw [unknownKeysProblem, orderFault?_texts]
  dsimp only
  rw [picked _ fun _ => rfl, List.length_map, if_pos rfl]

/-- Keys that are all texts are those of some names. -/
theorem exists_names (texts : ∀ key ∈ keys, ∃ name, key = .text name)
    : ∃ names : List String, keys = names.map .text := by
  induction keys with
  | nil => exact ⟨[], rfl⟩
  | cons key rest ih =>
      obtain ⟨⟨name, rfl⟩, others⟩ := List.forall_mem_cons.mp texts
      obtain ⟨names, rfl⟩ := ih others
      exact ⟨name :: names, rfl⟩

/-- Unknown keys are a fault exactly if one of them is no text. -/
theorem unknownKeysProblem_faults_iff
    : (∃ fault, unknownKeysProblem keys = .fault fault)
      ↔ ∃ key ∈ keys, ∀ name, key ≠ .text name := by
  constructor
  · rintro ⟨fault, faulty⟩
    by_contra texts
    obtain ⟨names, rfl⟩ := exists_names (by simpa using texts)
    rw [unknownKeysProblem_texts] at faulty
    contradiction
  · rintro ⟨key, member, other⟩
    rw [unknownKeysProblem]
    split
    · exact ⟨_, rfl⟩
    · rw [if_neg]
      · exact ⟨_, rfl⟩
      · intro whole
        have named := List.filterMap_length_eq_length.mp whole key member
        split at named
        · exact other _ rfl
        · contradiction

/-- Taking settings from a mapping is a fault exactly if one of its keys is no text, or all keys are
known and one of the settings cannot be taken.
-/
theorem ofMapping_faults_iff
    : (∃ fault, ofMappingWith plain pairs = .error (.fault fault))
      ↔ (∃ key ∈ pairs.map (·.1), ∀ name, key ≠ .text name)
        ∨ ((∀ key ∈ pairs.map (·.1), isKnown key = true)
          ∧ ¬ ∃ settings, ofKnown plain pairs = .ok settings) := by
  have unknown_of_other {key : Value} (other : ∀ name, key ≠ .text name) : isKnown key = false := by
    cases key with
    | text name => exact absurd rfl (other name)
    | _ => rfl
  rw [ofMappingWith]
  generalize pairs.map (·.1) = keys
  by_cases known : ∀ key ∈ keys, isKnown key = true
  · have nothing : keys.filter (fun key => !isKnown key) = [] := by simpa using known
    have texts : ¬ ∃ key ∈ keys, ∀ name, key ≠ .text name := by
      rintro ⟨key, member, other⟩
      have named := known key member
      rw [unknown_of_other other] at named
      contradiction
    have taken : (∃ fault, (ofKnown plain pairs).mapError SettingsProblem.fault
          = .error (.fault fault))
        ↔ ¬ ∃ settings, ofKnown plain pairs = .ok settings := by
      cases ofKnown plain pairs <;> simp [Except.mapError]
    simp only [nothing, List.isEmpty_nil, if_true, taken, texts, false_or]
    exact ⟨fun refused => ⟨known, refused⟩, fun both => both.2⟩
  · have some : (keys.filter fun key => !isKnown key).isEmpty = false := by simpa using known
    have refused
        : (∃ fault, unknownKeysProblem (keys.filter fun key => !isKnown key) = .fault fault)
        ↔ ∃ key ∈ keys, ∀ name, key ≠ .text name := by
      rw [unknownKeysProblem_faults_iff]
      constructor
      · rintro ⟨key, member, other⟩
        exact ⟨key, (List.mem_filter.mp member).1, other⟩
      · rintro ⟨key, member, other⟩
        exact ⟨key, List.mem_filter.mpr ⟨member, by simp [unknown_of_other other]⟩, other⟩
    simp only [some, Bool.false_eq_true, if_false, Except.error.injEq, refused, known, false_and,
      or_false]

end Keys

section Known

variable {pairs : List (Value × Value)} {plain : Value → Except Fault String}

/-- The keys of the settings that are plain texts. -/
def textKeys : List String :=
  ["extension", "info_type", "count_type", "sentinel", "program"]

/-- The values that make the lines of a banner, unless it is given as a text. -/
def bannerValues (pairs : List (Value × Value)) : List Value :=
  match Value.field? "banner_lines" pairs with
  | some (.bytes octets) => octets.map fun octet => .integer octet.toNat
  | some (.sequence items) | some (.tuple items) | some (.set items) => items
  | some (.mapping inner) => inner.map (·.1)
  | _ => []

/-- The values that a text is made of: those of textual settings, a timestamp that is set, and the
values of a banner.
-/
def textValues (pairs : List (Value × Value)) : List Value :=
  textKeys.filterMap (Value.field? · pairs)
    ++ ((Value.field? "timestamp" pairs).filter Value.truth).toList ++ bannerValues pairs

theorem textSetting_iff (key fallback : String)
    : (∃ text, textSetting plain pairs key fallback = .ok text)
      ↔ ∀ value, Value.field? key pairs = some value → ∃ text, plain value = .ok text := by
  unfold textSetting
  cases Value.field? key pairs <;> simp

theorem timestampSetting_iff
    : (∃ text, timestampSetting plain pairs = .ok text)
      ↔ ∀ value ∈ (Value.field? "timestamp" pairs).filter Value.truth,
        ∃ text, plain value = .ok text := by
  unfold timestampSetting
  cases Value.field? "timestamp" pairs with
  | none => simp
  | some value =>
      by_cases set : value.truth = true
      · cases taken : plain value <;> simp [set, taken, Except.map]
      · simp [set]

theorem bannerSetting_iff
    : (∃ lines, bannerSetting pairs = .ok lines)
      ↔ ∀ value, Value.field? "banner_lines" pairs = some value → value.truth = true
        → value.isIterable = true := by
  unfold bannerSetting
  cases Value.field? "banner_lines" pairs with
  | none => simp
  | some value =>
      by_cases set : value.truth = true
      · cases value <;> simp [set, Value.isIterable]
      · simp [set]

/-- What is neither empty nor false is taken item by item. What is left out adds no lines. -/
theorem bannerSetting_cases {lines : List Value} (given : bannerSetting pairs = .ok lines)
    : lines = bannerValues pairs
      ∨ bannerValues pairs = [] ∧ ∀ line ∈ lines, ∃ content, line = .text content := by
  unfold bannerSetting at given
  unfold bannerValues
  cases held : Value.field? "banner_lines" pairs with
  | none =>
      simp only [held, Except.ok.injEq] at given
      exact .inl given.symm
  | some value =>
      simp only [held] at given
      by_cases set : value.truth = true
      · rw [set] at given
        cases value with
        | text content =>
            right
            obtain rfl := Except.ok.inj given
            refine ⟨rfl, fun line member => ?_⟩
            obtain ⟨chars, -, rfl⟩ := List.mem_map.mp member
            exact ⟨_, rfl⟩
        | bytes | sequence | tuple | set | mapping => exact .inl (Except.ok.inj given).symm
        | null | boolean | integer | real | date | moment => contradiction
      · simp only [set, Bool.not_false, if_true, Except.ok.injEq] at given
        left
        cases value <;> simp_all [Value.truth]

/-- The lines of a banner have texts exactly if its values have, as texts have texts. -/
theorem bannerLines_iff (texts : ∀ content, plain (.text content) = .ok content)
    {lines : List Value} (given : bannerSetting pairs = .ok lines)
    : (∃ texts, lines.mapM plain = .ok texts)
      ↔ ∀ value ∈ bannerValues pairs, ∃ text, plain value = .ok text := by
  rw [exists_mapM_iff]
  rcases bannerSetting_cases given with rfl | ⟨none, written⟩
  · exact Iff.rfl
  · rw [none]
    refine iff_of_true (fun line member => ?_) (List.forall_mem_nil _)
    obtain ⟨content, rfl⟩ := written line member
    exact ⟨content, texts content⟩

/-- Settings are taken from known keys exactly if the banner, where it is set, can be taken item by
item, and all values that are taken by their text have one.
-/
theorem ofKnown_iff (texts : ∀ content, plain (.text content) = .ok content)
    : (∃ settings, ofKnown plain pairs = .ok settings)
      ↔ (∀ value, Value.field? "banner_lines" pairs = some value → value.truth = true
          → value.isIterable = true)
        ∧ ∀ value ∈ textValues pairs, ∃ text, plain value = .ok text := by
  have steps : (∃ settings, ofKnown plain pairs = .ok settings) ↔ _ :=
    exists_bind_iff fun _ _ => exists_bind_iff fun _ _ => exists_bind_iff fun _ _ =>
      exists_bind_iff fun _ _ => exists_bind_iff fun _ given =>
        (exists_bind_iff fun _ _ => exists_bind_iff fun _ _ => exists_bind_pure_iff).trans
          (and_congr_left' (bannerLines_iff texts given))
  rw [steps]
  simp only [textSetting_iff, bannerSetting_iff, timestampSetting_iff, textValues, textKeys,
    List.forall_mem_append, List.mem_filterMap, Option.mem_toList]
  simp only [List.mem_cons, List.not_mem_nil, or_false, exists_eq_or_imp, exists_eq_left]
  simp only [or_imp, forall_and, Option.mem_def]
  tauto

/-- A mapping is a fault exactly for a key, the banner or a value without a text. -/
theorem ofMapping_faults_causes (texts : ∀ content, plain (.text content) = .ok content)
    : (∃ fault, ofMappingWith plain pairs = .error (.fault fault))
      ↔ (∃ key ∈ pairs.map (·.1), ∀ name, key ≠ .text name)
        ∨ ((∀ key ∈ pairs.map (·.1), isKnown key = true)
          ∧ ((∃ value, Value.field? "banner_lines" pairs = some value ∧ value.truth = true
              ∧ value.isIterable = false)
            ∨ ∃ value ∈ textValues pairs, ∃ fault, plain value = .error fault)) := by
  have without (value : Value)
      : (¬ ∃ text, plain value = .ok text) ↔ ∃ fault, plain value = .error fault := by
    cases plain value <;> simp
  rw [ofMapping_faults_iff, ofKnown_iff texts, not_and_or]
  simp only [not_forall, exists_prop, Bool.not_eq_true, without]

end Known

end Settings

end ErrorTables
