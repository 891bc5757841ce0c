import ErrorTables.Header.Artifact
import ErrorTables.Proofs.Definition.LineGrammar
import ErrorTables.Proofs.Digits
import ErrorTables.Proofs.Header.Literals
import ErrorTables.Proofs.Text.SolidText

/-! The rows of headers read back one at a time.
Each reader knows how its row is laid out and nothing of the group: symbols are found between the
marks around them, and numbers are computed from their digits.
-/

namespace ErrorTables.Header

open Text Definition

-----------------------------------------------------------------------------------------
-- Readers
-----------------------------------------------------------------------------------------

/-- The number that digits of the radix stand for, if there are any digits. -/
def readDigits? (radix : Radix) (digits : List Char) : Option Nat :=
  if digits = [] then none
  else (digits.mapM (Numeral.digit? radix)).map (Numeral.ofDigits radix)

/-- The integer of a hexadecimal literal, which may have a minus. -/
def readHex? : List Char → Option Int
  | '-' :: '0' :: 'x' :: digits =>
      (readDigits? .hexadecimal digits).map fun (number : Nat) => -(number : Int)
  | '0' :: 'x' :: digits =>
      (readDigits? .hexadecimal digits).map fun (number : Nat) => (number : Int)
  | _ => none

/-- What stands on the two sides of the last equals sign, which has a blank on each side. The left
side is trimmed.
-/
def readAssigned? (row : List Char) : Option (List Char × List Char) := do
  let (before, after) ← splitAtLast? '=' row
  let left ← before.dropSuffix? [' ']
  let right ← after.dropPrefix? [' ']
  return (trim left, right)

/-- The symbol and the code of an enumerator. -/
def readEnumerator? (row : List Char) : Option (String × Int) := do
  let (symbol, value) ← readAssigned? row
  let code ← readHex? value
  return (String.ofList symbol, code)

def readMacro? (row : List Char) : Option (String × Int) := do
  let definition ← row.dropPrefix? "#define ".toList
  let (symbol, value) ← splitAtLast? ' ' definition
  let code ← readHex? value
  return (String.ofList (trim symbol), code)

def readConstant? (row : List Char) : Option (String × Nat) := do
  let (declared, value) ← readAssigned? row
  let (type, name) ← splitAtLast? ' ' declared
  let _ ← type.dropPrefix? "const".toList
  let digits ← value.dropSuffix? [';']
  let number ← readDigits? .decimal digits
  return (String.ofList name, number)

/-- The symbol and the literal of a row: the symbol stands behind `front` and before the first
`stop`, the literal behind `stop` and `gap`, and the row ends in `back`.
-/
def readLabelled? (front : String) (stop : Char) (gap back : String) (row : List Char)
    : Option (String × String) := do
  let cells ← row.dropPrefix? front.toList
  let rest ← (cells.dropWhile (· ≠ stop)).dropPrefix? (stop :: gap.toList)
  let (text, ending) ← readLiteral? rest
  guard (ending = back.toList)
  return (String.ofList (trim (cells.takeWhile (· ≠ stop))), text)

/-- The text of a row that holds nothing but a literal. -/
def readSentinel? (row : List Char) : Option String := do
  let rest ← row.dropPrefix? ['\t']
  let (text, ending) ← readLiteral? rest
  guard (ending = [])
  return text

-----------------------------------------------------------------------------------------
-- Pieces of rows
-----------------------------------------------------------------------------------------

@[simp]
theorem dropPrefix?_append {α : Type} [BEq α] [ReflBEq α] (front rest : List α)
    : (front ++ rest).dropPrefix? front = some rest :=
  List.dropPrefix?_append_of_beq rest BEq.rfl

@[simp]
theorem dropSuffix?_append (rest back : List Char)
    : (rest ++ back).dropSuffix? back = some rest :=
  List.dropSuffix?_eq_some_iff.mpr ⟨back, rfl, beq_self_eq_true back⟩

/-- The blanks that fill up a column. -/
def padding (symbol : String) : List Char :=
  List.replicate (symbolWidth - symbol.length) ' '

theorem allBlank_padding (symbol : String) : AllBlank (padding symbol) := by
  intro c member
  rw [List.eq_of_mem_replicate member]
  decide

theorem toList_column (symbol : String)
    : (column symbol).toList = symbol.toList ++ padding symbol := by
  simp [column, padding]

theorem readDigits?_toDigits (radix : Radix) (number : Nat)
    : readDigits? radix (Nat.toDigits radix.size number) = some number := by
  have digits : ∀ c ∈ Nat.toDigits radix.size number, (Numeral.digit? radix c).isSome = true := by
    intro c member
    obtain ⟨digit, small, same⟩ :=
      Numeral.exists_digit_of_mem_toDigits (Numeral.one_lt_size radix) member
    rw [same, Numeral.digit?_digitChar small]
    rfl
  have values : ∀ text : List Char, (∀ c ∈ text, (Numeral.digit? radix c).isSome = true)
      → text.mapM (Numeral.digit? radix) = some (text.filterMap (Numeral.digit? radix)) := by
    intro text
    induction text with
    | nil => simp
    | cons c rest ih =>
        intro digits
        obtain ⟨here, others⟩ := List.forall_mem_cons.mp digits
        obtain ⟨digit, eq⟩ := Option.isSome_iff_exists.mp here
        simp [List.mapM_cons, eq, ih others]
  rw [readDigits?, if_neg Nat.toDigits_ne_nil, values _ digits, Option.map_some,
    Numeral.ofDigits_toDigits]

/-- A hexadecimal numeral consists of word characters and perhaps a minus. -/
theorem not_mem_hex {c : Char} (number : Int) (apart : isWord c = false) (minus : c ≠ '-')
    : c ∉ (Numeral.hex number).toList := by
  have digits : c ∉ Nat.toDigits 16 number.natAbs := by
    intro member
    simp [(Numeral.hexDigit_spec member).1] at apart
  have marker : c ≠ '0' ∧ c ≠ 'x' := by
    constructor <;>
    · intro same
      subst same
      contradiction
  rw [Numeral.toList_hex]
  split <;> simp [digits, marker, minus]

theorem readHex?_hex (number : Int) : readHex? (Numeral.hex number).toList = some number := by
  have digits := readDigits?_toDigits .hexadecimal number.natAbs
  simp only [Radix.size] at digits
  rw [Numeral.toList_hex]
  split
  · rename_i negative
    have value : -(number.natAbs : Int) = number := by omega
    rw [List.singleton_append, readHex?, digits, Option.map_some, value]
  · rename_i positive
    have value : (number.natAbs : Int) = number := by omega
    rw [List.nil_append, readHex?, digits, Option.map_some, value]

theorem readDigits?_toString (number : Nat)
    : readDigits? .decimal (toString number).toList = some number := by
  simpa [Radix.size] using readDigits?_toDigits .decimal number

-----------------------------------------------------------------------------------------
-- Rows
-----------------------------------------------------------------------------------------

/-- The sides of an equals sign between blanks, if the right side holds no equals sign. -/
theorem readAssigned?_append {right : List Char} (left : List Char) (single : '=' ∉ right)
    : readAssigned? (left ++ ' ' :: '=' :: ' ' :: right) = some (trim left, right) := by
  have split : splitAtLast? '=' (left ++ ' ' :: '=' :: ' ' :: right)
      = some (left ++ [' '], [' '] ++ right) := by
    rw [splitAtLast?_eq_some_iff]
    simpa using single
  simp only [readAssigned?, split, Option.bind_eq_bind, Option.bind_some, dropSuffix?_append,
    dropPrefix?_append, pure]

section Rows

variable {symbol : String} (solid : Solid symbol.toList)
include solid

theorem readEnumerator?_row (code : Int)
    : readEnumerator? (s!"    {column symbol} = {Numeral.hex code}").toList
      = some (symbol, code) := by
  have row : (s!"    {column symbol} = {Numeral.hex code}").toList
      = ([' ', ' ', ' ', ' '] ++ symbol.toList ++ padding symbol)
        ++ ' ' :: '=' :: ' ' :: (Numeral.hex code).toList := by
    simp [toString, toList_column]
  have front : AllBlank [' ', ' ', ' ', ' '] := by simp [AllBlank, isBlank, blanks]
  rw [row, readEnumerator?,
    readAssigned?_append _ (not_mem_hex code (by decide) (by decide))]
  simp only [Option.bind_eq_bind, Option.bind_some, readHex?_hex,
    solid.trim_append front (allBlank_padding symbol), String.ofList_toList, pure]

theorem readMacro?_row (code : Int)
    : readMacro? (s!"#define {column symbol} {Numeral.hex code}").toList
      = some (symbol, code) := by
  have row : (s!"#define {column symbol} {Numeral.hex code}").toList
      = "#define ".toList
        ++ (([] ++ symbol.toList ++ padding symbol) ++ ' ' :: (Numeral.hex code).toList) := by
    simp [toString, toList_column]
  have split : splitAtLast? ' '
      (([] ++ symbol.toList ++ padding symbol) ++ ' ' :: (Numeral.hex code).toList)
      = some ([] ++ symbol.toList ++ padding symbol, (Numeral.hex code).toList) :=
    splitAtLast?_eq_some_iff.mpr ⟨rfl, not_mem_hex code (by decide) (by decide)⟩
  rw [row, readMacro?]
  simp only [dropPrefix?_append, split, Option.bind_eq_bind, Option.bind_some, readHex?_hex,
    solid.trim_append allBlank_nil (allBlank_padding symbol), String.ofList_toList, pure]

/-- A constant is read as its name and its value, whatever its type is and however many blanks fill
up the name.
-/
theorem readConstant?_row {written : String} {back : List Char} (named : symbol.toList ≠ [])
    (filled : AllBlank back) (eq : written.toList = symbol.toList ++ back) (type : String)
    (number : Nat)
    : readConstant? (s!"const {type} {written} = {number};").toList = some (symbol, number) := by
  have row : (s!"const {type} {written} = {number};").toList
      = ([] ++ ("const ".toList ++ type.toList ++ ' ' :: symbol.toList) ++ back)
        ++ ' ' :: '=' :: ' ' :: ((toString number).toList ++ [';']) := by
    simp [toString, eq]
  have single : '=' ∉ (toString number).toList ++ [';'] := by
    simpa using Numeral.not_mem_decimal number (show isWord '=' = false by decide)
  have declared : trim ([] ++ ("const ".toList ++ type.toList ++ ' ' :: symbol.toList) ++ back)
      = "const ".toList ++ type.toList ++ ' ' :: symbol.toList := by
    apply trim_append allBlank_nil filled
    · intro c first
      have same : 'c' = c := by simpa using first
      exact same ▸ rfl
    · intro c last
      apply solid.isBlank
      rw [List.getLast?_append_of_ne_nil _ (by simp), List.getLast?_cons_of_ne_nil named] at last
      exact List.mem_of_getLast? last
  -- The last blank is the one in front of the name, whatever the type holds.
  have split : splitAtLast? ' ' ("const ".toList ++ type.toList ++ ' ' :: symbol.toList)
      = some ("const".toList ++ (' ' :: type.toList), symbol.toList) := by
    rw [splitAtLast?_eq_some_iff]
    exact ⟨by simp, solid.not_mem (by decide)⟩
  rw [row, readConstant?, readAssigned?_append _ single]
  simp only [Option.bind_eq_bind, Option.bind_some, declared, split, dropPrefix?_append,
    dropSuffix?_append, readDigits?_toString, String.ofList_toList, pure]

/-- A row with a symbol and a literal is read as both, even if blanks fill up the symbol. -/
theorem readLabelled?_row {front gap back text : String} {stop : Char} {filling row : List Char}
    (filled : AllBlank filling) (apart : isSolid stop = false) (mark : isBlank stop = false)
    (eq : row = front.toList ++ (symbol.toList ++ (filling ++ stop :: (gap.toList
      ++ ((literal text).toList ++ back.toList)))))
    : readLabelled? front stop gap back row = some (symbol, text) := by
  have inside : ∀ c ∈ symbol.toList ++ filling, decide (c ≠ stop) = true := by
    intro c member
    rw [decide_eq_true_iff]
    intro same
    subst same
    rcases List.mem_append.mp member with member | member
    · exact solid.not_mem apart member
    · simp [filled c member] at mark
  have stops : ∀ c rest, (stop :: rest).head? = some c → decide (c ≠ stop) = false := by
    intro c rest first
    simpa using first.symm
  have cell : trim (symbol.toList ++ filling) = symbol.toList := by
    simpa using solid.trim_append allBlank_nil filled
  rw [eq, ← List.append_assoc symbol.toList, readLabelled?]
  simp only [dropPrefix?_append, Option.bind_eq_bind, Option.bind_some,
    takeWhile_run inside (fun c => stops c _), dropWhile_run inside (fun c => stops c _)]
  rw [← List.cons_append]
  simp only [dropPrefix?_append, Option.bind_some, readLiteral?_literal, cell, guard_true, pure,
    String.ofList_toList]

end Rows

end ErrorTables.Header
