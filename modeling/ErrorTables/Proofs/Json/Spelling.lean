import ErrorTables.Json.Writer
import Mathlib.Data.List.Basic

/-! JSON as it may be spelled.
The grammar leaves open what may differ from one encoder to another: the white space between the
parts of a value, and which characters of a text are escaped, and how. An encoder is described by
the values that it takes and by the spelling that it gives them.
-/

namespace ErrorTables.Json

-----------------------------------------------------------------------------------------
-- Texts
-----------------------------------------------------------------------------------------

/-- White space, as it may stand between the parts of a value. -/
def IsGap (gap : List Char) : Prop :=
  ∀ c ∈ gap, c ∈ [' ', '\t', '\n', '\r']

/-- Characters with the letters that stand for them behind a backslash. -/
def shortEscapes : List (Char × Char) :=
  [('"', '"'), ('\\', '\\'), ('/', '/'), ('\x08', 'b'), ('\x0c', 'f'), ('\n', 'n'), ('\r', 'r'),
    ('\t', 't')]

/-- The character is the hexadecimal digit of the number, small or capital. -/
def IsHexDigit (number : Nat) (digit : Char) : Prop :=
  number < 16 ∧ (digit = Nat.digitChar number ∨ digit = (Nat.digitChar number).toUpper)

/-- Characters as they may be spelled between quotes. Quotes, backslashes and control characters
have to be escaped, and any other character may be.
-/
inductive SpellsChars : List Char → List Char → Prop where
  | nil : SpellsChars [] []
  | plain {c : Char} {text spelling : List Char} (unquoted : c ≠ '"') (unescaped : c ≠ '\\')
      (visible : 0x20 ≤ c.toNat) (others : SpellsChars text spelling)
    : SpellsChars (c :: text) (c :: spelling)
  | short {c letter : Char} {text spelling : List Char} (escape : (c, letter) ∈ shortEscapes)
      (others : SpellsChars text spelling)
    : SpellsChars (c :: text) ('\\' :: letter :: spelling)
  | code {c : Char} {numbers : List Nat} {digits text spelling : List Char}
      (four : numbers.length = 4) (each : List.Forall₂ IsHexDigit numbers digits)
      (same : c.toNat = numbers.foldl (fun code number => code * 16 + number) 0)
      (others : SpellsChars text spelling)
    : SpellsChars (c :: text) ('\\' :: 'u' :: (digits ++ spelling))

-----------------------------------------------------------------------------------------
-- Values
-----------------------------------------------------------------------------------------

/-- A value with its spelling and the white space around it. -/
structure Item where
  value : Value
  spelling : List Char
  before : List Char
  after : List Char
  gaps : IsGap before ∧ IsGap after

/-- An item as it stands between commas. -/
def Item.chars (item : Item) : List Char :=
  item.before ++ (item.spelling ++ item.after)

/-- The name and the value of a pair, with the spelling of the name and the white space around it.
-/
structure Member where
  name : String
  spelling : List Char
  before : List Char
  after : List Char
  item : Item
  gaps : IsGap before ∧ IsGap after
  spells : SpellsChars name.toList spelling

/-- The pair of a member. -/
def Member.pair (member : Member) : Value × Value :=
  (.text member.name, member.item.value)

/-- A member as it stands between commas. -/
def Member.chars (member : Member) : List Char :=
  member.before ++ '"' :: (member.spelling ++ '"' :: (member.after ++ ':' :: member.item.chars))

/-- A value as it may be spelled. Values without a notation in JSON have no spelling. -/
inductive Spells : Value → List Char → Prop where
  | null : Spells .null "null".toList
  | true : Spells (.boolean true) "true".toList
  | false : Spells (.boolean false) "false".toList
  | integer (number : Int) : Spells (.integer number) (Numeral.decimal number).toList
  | text {content : String} {spelling : List Char} (chars : SpellsChars content.toList spelling)
    : Spells (.text content) ('"' :: (spelling ++ ['"']))
  | noItems {gap : List Char} (space : IsGap gap) : Spells (.sequence []) ('[' :: (gap ++ [']']))
  | items {items : List Item} (filled : items ≠ [])
      (each : ∀ item ∈ items, Spells item.value item.spelling)
    : Spells (.sequence (items.map (·.value)))
        ('[' :: ([','].intercalate (items.map Item.chars) ++ [']']))
  | noPairs {gap : List Char} (space : IsGap gap)
    : Spells (.mapping []) ('\x7b' :: (gap ++ ['\x7d']))
  | members {members : List Member} (filled : members ≠ [])
      (each : ∀ member ∈ members, Spells member.item.value member.item.spelling)
    : Spells (.mapping (members.map Member.pair))
        ('\x7b' :: ([','].intercalate (members.map Member.chars) ++ ['\x7d']))

-----------------------------------------------------------------------------------------
-- Encoders
-----------------------------------------------------------------------------------------

/-- The value is made of nothing, truth values, integers and texts, in sequences and in mappings
from distinct texts, which are nested up to the depth. Its integers and its texts, those of the keys
included, are as they are asked to be.
-/
inductive Storable (fits : Int → Prop) (takes : String → Prop) : Nat → Value → Prop where
  | null {depth : Nat} : Storable fits takes depth .null
  | boolean {depth : Nat} (truth : Bool) : Storable fits takes depth (.boolean truth)
  | integer {depth : Nat} {number : Int} (fit : fits number)
    : Storable fits takes depth (.integer number)
  | text {depth : Nat} {content : String} (taken : takes content)
    : Storable fits takes depth (.text content)
  | sequence {depth : Nat} {items : List Value}
      (all : ∀ item ∈ items, Storable fits takes depth item)
    : Storable fits takes (depth + 1) (.sequence items)
  | mapping {depth : Nat} {pairs : List (Value × Value)}
      (names : ∀ pair ∈ pairs, ∃ name, pair.1 = .text name ∧ takes name)
      (distinct : (pairs.map (·.1)).Nodup)
      (all : ∀ pair ∈ pairs, Storable fits takes depth pair.2)
    : Storable fits takes (depth + 1) (.mapping pairs)

section Storable

variable {fits : Int → Prop} {takes : String → Prop} {depth : Nat}

@[simp]
theorem storable_integer_iff {number : Int}
    : Storable fits takes depth (.integer number) ↔ fits number := by
  constructor
  · intro storable
    cases storable with
    | integer fit => exact fit
  · exact .integer

@[simp]
theorem storable_text_iff {content : String}
    : Storable fits takes depth (.text content) ↔ takes content := by
  constructor
  · intro storable
    cases storable with
    | text taken => exact taken
  · exact .text

@[simp]
theorem storable_sequence_iff {items : List Value}
    : Storable fits takes (depth + 1) (.sequence items)
      ↔ ∀ item ∈ items, Storable fits takes depth item := by
  constructor
  · intro storable
    cases storable with
    | sequence all => exact all
  · exact .sequence

/-- A mapping from distinct texts that are taken is stored if its values are. -/
theorem storable_mapping_iff {pairs : List (Value × Value)}
    (names : ∀ pair ∈ pairs, ∃ name, pair.1 = .text name ∧ takes name)
    (distinct : (pairs.map (·.1)).Nodup)
    : Storable fits takes (depth + 1) (.mapping pairs)
      ↔ ∀ pair ∈ pairs, Storable fits takes depth pair.2 := by
  constructor
  · intro storable
    cases storable with
    | mapping _ _ all => exact all
  · exact .mapping names distinct

end Storable

/-- A depth of nesting that no encoder refuses. -/
def maxDepth : Nat := 100

/-- What an encoder of JSON does with values of storable kinds. It takes all texts of ASCII, but it
may refuse others; a value of texts that it takes is spelled if its integers have 64 bits, and else
it is refused for an integer that is too wide.
-/
structure IsEncoder (takes : String → Prop) (encode : Value → Except ErrorTables.Fault ByteArray)
    : Prop where
  ascii : ∀ text : String, (∀ c ∈ text.toList, c.toNat < 0x80) → takes text
  spelled {value : Value} (storable : Storable IsPortable takes maxDepth value)
    : ∃ text : String, encode value = .ok text.toUTF8 ∧ Spells value text.toList
  tooWide {value : Value} (storable : Storable (fun _ => True) takes maxDepth value)
      (wide : ¬ Storable IsPortable takes maxDepth value)
    : encode value = .error .integerTooWide
  refused {value : Value} (storable : Storable (fun _ => True) (fun _ => True) maxDepth value)
      (untaken : ¬ Storable (fun _ => True) takes maxDepth value)
    : ∃ fault, encode value = .error fault

end ErrorTables.Json
