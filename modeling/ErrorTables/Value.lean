import ErrorTables.Binary64.Shortest
import ErrorTables.Calendar
import ErrorTables.Numeral

/-!
Values of structured documents: scalars, sequences and mappings whose keys may be any scalars. A
value has a truth value, the name of its kind, and two texts, one plain and one as a literal.
-/

namespace ErrorTables

/-- A value of a structured document. Bytes, sets and tuples are kinds that a document has to ask
for. -/
inductive Value where
  | null
  | boolean (truth : Bool)
  | integer (number : Int)
  | real (number : Binary64)
  | text (content : String)
  | bytes (octets : List UInt8)
  | date (date : Date)
  | moment (moment : Moment)
  | sequence (items : List Value)
  | tuple (items : List Value)
  | set (items : List Value)
  | mapping (pairs : List (Value × Value))
  deriving Repr

namespace Value

/-- The name of the kind of a value. -/
def kind : Value → String
  | .null => "NoneType"
  | .boolean _ => "bool"
  | .integer _ => "int"
  | .real _ => "float"
  | .text _ => "str"
  | .bytes _ => "bytes"
  | .date _ => "datetime.date"
  | .moment _ => "datetime.datetime"
  | .sequence _ => "list"
  | .tuple _ => "tuple"
  | .set _ => "set"
  | .mapping _ => "dict"

/-- Nothing, zero and what is empty are not true, and all else is. -/
def truth : Value → Bool
  | .null => false
  | .boolean truth => truth
  | .integer number => number ≠ 0
  | .real number => !number.isZero
  | .text content => !content.isEmpty
  | .bytes octets => !octets.isEmpty
  | .date _ | .moment _ => true
  | .sequence items | .tuple items | .set items => !items.isEmpty
  | .mapping pairs => !pairs.isEmpty

/-- The number that a value counts as when it is a key. -/
def asInteger? : Value → Option Int
  | .boolean truth => some (if truth then 1 else 0)
  | .integer number => some number
  | _ => none

/-- The minutes of a moment since the first day of year one, in universal time. -/
def universalMinutes (moment : Moment) (offset : Int) : Int :=
  let days := Calendar.daysBeforeYear moment.date.year +
    Calendar.daysBeforeMonth moment.date.year moment.date.month + moment.date.day
  ((days * 24 + moment.hour) * 60 + moment.minute : Nat) - offset

/-- Two moments are the same: as they are written if neither says how far it is from universal
time, and in universal time if both do. -/
def sameMoment (first second : Moment) : Bool :=
  match first.offset, second.offset with
  | none, none => first = second
  | some offset, some other =>
      universalMinutes first offset = universalMinutes second other &&
        first.second = second.second && first.microsecond = second.microsecond
  | _, _ => false

/-- Two scalars are the same key. Truth values count as numbers, and numbers are compared by their
size; what is not a number is one key only. -/
def sameKey (first second : Value) : Bool :=
  match first.asInteger?, second.asInteger?, first, second with
  | some number, some other, _, _ => number = other
  | some number, none, _, .real other => other.isInteger number
  | none, some other, .real number, _ => number.isInteger other
  | _, _, .real .nan, .real .nan => true
  | _, _, .real number, .real other => number.equal other
  | _, _, .null, .null => true
  | _, _, .text content, .text other => content = other
  | _, _, .bytes octets, .bytes other => octets = other
  | _, _, .date day, .date other => day = other
  | _, _, .moment time, .moment other => sameMoment time other
  | _, _, _, _ => false

/-- The size of a number as a quotient. Infinities have the denominator zero. -/
def quotient : Value → Int × Nat
  | .real (.finite negative mantissa exponent) =>
      let (numerator, denominator) := Binary64.quotient mantissa exponent
      (if negative then -numerator else numerator, denominator)
  | .real (.infinite negative) => (if negative then -1 else 1, 0)
  | value => (value.asInteger?.getD 0, 1)

/-- The first number is less than the second one. -/
def numberLess (first second : Value) : Bool :=
  let (numerator, denominator) := first.quotient
  let (other, scale) := second.quotient
  numerator * scale < other * denominator

/-- The value of a key among the pairs of a mapping. -/
def find? (key : Value) (pairs : List (Value × Value)) : Option Value :=
  (pairs.find? fun pair => sameKey pair.1 key).map (·.2)

/-- The value of a textual key among the pairs of a mapping. -/
def field? (name : String) (pairs : List (Value × Value)) : Option Value :=
  find? (.text name) pairs

/-- The pairs of a mapping with a value given to a key, which keeps its place if it has one. -/
def assign (key value : Value) : List (Value × Value) → List (Value × Value)
  | [] => [(key, value)]
  | pair :: pairs =>
      if sameKey pair.1 key then (pair.1, value) :: pairs else pair :: assign key value pairs

/-- The pairs of a mapping that is written pair by pair: of two values of a key the last counts. -/
def ofPairs (pairs : List (Value × Value)) : List (Value × Value) :=
  pairs.foldl (fun gathered pair => assign pair.1 pair.2 gathered) []

/-- Floating-point numbers are written without an exponent from `0.0001` up to sixteen digits. -/
def realLayout : Binary64.Layout := ⟨-3, 16, 2⟩

/-- A distance from universal time as a literal. -/
def offsetLiteral (offset : Int) : String :=
  if offset = 0 then "datetime.timezone.utc"
  else
    let interval := Calendar.intervalText (offset.fdiv (24 * 60)) (offset.fmod (24 * 60) * 60)
    s!"datetime.timezone({interval})"

/-- A moment as a literal. Seconds are left out if they and their fraction are zero. -/
def momentLiteral (moment : Moment) : String :=
  let fraction := if moment.microsecond = 0 then [] else [moment.microsecond]
  let seconds := if moment.second = 0 && fraction.isEmpty then [] else [moment.second]
  let fields := [moment.date.year, moment.date.month, moment.date.day, moment.hour, moment.minute]
  let numbers := (fields ++ seconds ++ fraction).map toString
  let offset := moment.offset.toList.map fun offset => "tzinfo=" ++ offsetLiteral offset
  let arguments := ", ".intercalate (numbers ++ offset)
  s!"datetime.datetime({arguments})"

/-- Bytes as a literal: a text that holds them between quotes, with a letter in front. -/
def bytesLiteral (octets : List UInt8) : String :=
  let chars := octets.map fun octet => Char.ofNat octet.toNat
  let quote := Text.Quoted.quoteFor chars
  let escaped := chars.flatMap fun c =>
    if c.toNat < 0x7f then Text.Quoted.quoteChar quote c else Text.Quoted.escapeCode c.toNat
  String.ofList ('b' :: quote :: escaped ++ [quote])

/-- Items between parentheses. A comma follows a single item. -/
def tupleLiteral : List String → String
  | [item] => s!"({item},)"
  | items =>
      let items := ", ".intercalate items
      s!"({items})"

/-- Items between braces. A set without items is named. -/
def setLiteral (items : List String) : String :=
  if items.isEmpty then "set()"
  else
    let items := ", ".intercalate items
    s!"\x7b{items}\x7d"

mutual

/-- The value as a literal. -/
def literal : Value → Except Numeral.Fault String
  | .null => .ok "None"
  | .boolean truth => .ok (if truth then "True" else "False")
  | .integer number => Numeral.decimal? number
  | .real number => .ok (number.text realLayout)
  | .text content => .ok (Text.quoted content)
  | .bytes octets => .ok (bytesLiteral octets)
  | .date day => .ok s!"datetime.date({day.year}, {day.month}, {day.day})"
  | .moment time => .ok (momentLiteral time)
  | .sequence items => do
      let items := ", ".intercalate (← itemLiterals items)
      return s!"[{items}]"
  | .tuple items => (itemLiterals items).map tupleLiteral
  | .set items => (itemLiterals items).map setLiteral
  | .mapping pairs => do
      let pairs := ", ".intercalate (← pairLiterals pairs)
      return s!"\x7b{pairs}\x7d"

/-- The items of a sequence as literals. -/
def itemLiterals : List Value → Except Numeral.Fault (List String)
  | [] => .ok []
  | item :: items => do return (← literal item) :: (← itemLiterals items)

/-- The pairs of a mapping as literals. -/
def pairLiterals : List (Value × Value) → Except Numeral.Fault (List String)
  | [] => .ok []
  | (key, value) :: pairs => do
      let first := (← literal key) ++ ": " ++ (← literal value)
      return first :: (← pairLiterals pairs)

end

/-- The value as plain text: texts and times as they are, all else as a literal. -/
def plain : Value → Except Numeral.Fault String
  | .text content => .ok content
  | .date day => .ok (Calendar.dateText day)
  | .moment time => .ok (Calendar.momentText time)
  | value => literal value

end Value

end ErrorTables
