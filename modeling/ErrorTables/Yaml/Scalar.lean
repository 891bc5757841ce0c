import ErrorTables.Fault
import ErrorTables.Value

/-!
The values of plain YAML scalars. The text of a scalar decides its kind: nothing, a truth value, an
integer in one of several notations, a floating-point number, a date or a time; any other text
stands for itself.
-/

namespace ErrorTables.Yaml.Scalar

/-- The spellings of nothing. -/
def nullNames : List String :=
  ["", "~", "null", "Null", "NULL"]

/-- The spellings of a truth value. -/
def truthNames (truth : Bool) : List String :=
  if truth then ["yes", "Yes", "YES", "true", "True", "TRUE", "on", "On", "ON"]
  else ["no", "No", "NO", "false", "False", "FALSE", "off", "Off", "OFF"]

/-- The truth value that a text spells. -/
def truth? (text : String) : Option Bool :=
  if (truthNames true).contains text then some true
  else if (truthNames false).contains text then some false
  else none

/-- A digit or an underscore, which groups digits. -/
def isGrouped (isDigit : Char → Bool) (c : Char) : Bool :=
  isDigit c || c == '_'

/-- The digits that are not underscores. -/
def ungrouped (digits : List Char) : List Char :=
  digits.filter (· ≠ '_')

/-- The number that decimal digits stand for. -/
def digitsValue (digits : List Char) : Nat :=
  Numeral.ofDigits .decimal (digits.filterMap (Numeral.digit? .decimal))

/-- A part of a number in sixties behind the first one: one or two digits below sixty. -/
def isSixtieth (part : List Char) : Bool :=
  match part with
  | [ones] => ones.isDigit
  | [tens, ones] => '0' ≤ tens && tens ≤ '5' && ones.isDigit
  | _ => false

/-- The first part of a number in sixties or of a decimal number. -/
def isLeading (digits : List Char) : Bool :=
  digits.head?.any Char.isDigit && digits.all (isGrouped Char.isDigit)

/-- The value of digits in a radix, which may be missing behind a marker. -/
def inRadix (radix : Radix) (digits : List Char) : Except Fault Nat :=
  ((Numeral.read radix (String.ofList (ungrouped digits))).map Int.toNat).mapError .numeral

/-- The natural number that a text spells: binary behind `0b`, hexadecimal behind `0x`, octal behind
another zero, in sixties with colons, and decimal otherwise. -/
def natural? (text : List Char) : Option (Except Fault Nat) :=
  match text with
  | '0' :: 'b' :: digits =>
      if !digits.isEmpty && digits.all (isGrouped fun c => c == '0' || c == '1') then
        some (inRadix .binary digits)
      else none
  | '0' :: 'x' :: digits =>
      let isDigit := fun c : Char => c.toNat < 0x80 && (Numeral.digit? .hexadecimal c).isSome
      if !digits.isEmpty && digits.all (isGrouped isDigit) then some (inRadix .hexadecimal digits)
      else none
  | '0' :: digits =>
      if digits.all (isGrouped fun c => '0' ≤ c && c ≤ '7') then
        some (inRadix .octal ('0' :: digits))
      else none
  | _ =>
      match text.splitOn ':' with
      | [digits] => if isLeading digits then some (inRadix .decimal digits) else none
      | first :: rest =>
          if isLeading first && rest.all isSixtieth then
            some do
              let first ← inRadix .decimal first
              return rest.foldl (fun sum part => sum * 60 + digitsValue part) first
          else none
      | [] => none

/-- The integer that a text spells. -/
def integer? (text : List Char) : Option (Except Fault Int) :=
  let (negative, unsigned) := Numeral.splitSign text
  (natural? unsigned).map fun number =>
    number.map fun number => if negative then -(number : Int) else number

/-- The power of ten at the end of a floating-point number: nothing, or a letter, a sign that must
not be missing, and digits. -/
def power? (text : List Char) : Option Int :=
  match text with
  | [] => some 0
  | letter :: sign :: digits =>
      if (letter = 'e' || letter = 'E') && !digits.isEmpty && digits.all Char.isDigit then
        if sign = '+' then some (digitsValue digits)
        else if sign = '-' then some (-(digitsValue digits : Int))
        else none
      else none
  | [_] => none

/-- The floating-point number of digits before and behind the point, times a power of ten. -/
def decimalReal (whole fraction : List Char) (power : Int) : Binary64 :=
  let digits := ungrouped (whole ++ fraction)
  Binary64.ofDecimal false (digitsValue digits) (power - (ungrouped fraction).length)

/-- The sum of parts in sixties, the last part first; each product and each sum is rounded. The
weight of a part must not be too large for a floating-point number. -/
def sixtiesReal (sum : Binary64) (weight : Nat) : List Binary64 → Except Fault Binary64
  | [] => .ok sum
  | part :: rest =>
      match Binary64.ofNat weight with
      | .finite negative mantissa exponent =>
          let product := part.mulMagnitudes (.finite negative mantissa exponent)
          sixtiesReal (sum.addMagnitudes product) (weight * 60) rest
      | _ => .error .oversizedWeight

/-- The magnitude of a floating-point number that a text with a point spells. -/
def magnitude? (text : List Char) : Option (Except Fault Binary64) :=
  let whole := text.takeWhile (· ≠ '.')
  let behind := text.drop (whole.length + 1)
  let fraction := behind.takeWhile (isGrouped Char.isDigit)
  if whole.length = text.length then none
  else
    match whole.splitOn ':', power? (behind.drop fraction.length) with
    | [digits], some power =>
        if isLeading digits then some (.ok (decimalReal digits fraction power)) else none
    | first :: rest, some 0 =>
        if isLeading first && rest.all isSixtieth && fraction.length = behind.length then
          let reversed := (first :: rest).reverse
          let last := decimalReal (reversed.head?.getD []) fraction 0
          let parts := last :: reversed.tail.map fun part => decimalReal part [] 0
          some (sixtiesReal Binary64.zero 1 parts)
        else none
    | _, _ => none

/-- The floating-point number without digits before its point that a text spells. -/
def fractionReal? (text : List Char) : Option Binary64 :=
  match text with
  | '.' :: behind =>
      let fraction := behind.takeWhile (isGrouped Char.isDigit)
      if behind.head?.any Char.isDigit then
        (power? (behind.drop fraction.length)).map (decimalReal [] fraction)
      else none
  | _ => none

/-- The spellings of infinity. -/
def infinityNames : List String :=
  [".inf", ".Inf", ".INF"]

/-- The spellings of what is not a number. -/
def nanNames : List String :=
  [".nan", ".NaN", ".NAN"]

/-- The floating-point number that a text spells. -/
def real? (text : List Char) : Option (Except Fault Binary64) :=
  let (negative, unsigned) := Numeral.splitSign text
  let signed := fun number : Binary64 => if negative then number.negate else number
  if nanNames.contains (String.ofList text) then some (.ok .nan)
  else if infinityNames.contains (String.ofList unsigned) then some (.ok (.infinite negative))
  else ((fractionReal? text).map .ok).or ((magnitude? unsigned).map (·.map signed))

/-- The digits at the start of a text, at least and at most so many, and what follows them. -/
def digits? (least most : Nat) (text : List Char) : Option (Nat × List Char) :=
  let digits := (text.take most).takeWhile Char.isDigit
  if least ≤ digits.length then some (digitsValue digits, text.drop digits.length) else none

/-- What follows a character at the start of a text. -/
def after? (c : Char) (text : List Char) : Option (List Char) :=
  match text with
  | first :: rest => if first = c then some rest else none
  | [] => none

/-- The distance from universal time that ends a time, in minutes; `some none` if there is none. -/
def offset? (text : List Char) : Option (Option Int) :=
  match text.dropWhile fun c => c = ' ' || c = '\t' with
  | [] => if text.isEmpty then some none else none
  | ['Z'] => some (some 0)
  | sign :: rest => do
      if sign ≠ '+' && sign ≠ '-' then none
      let (hours, rest) ← digits? 1 2 rest
      let (minutes, rest) ← if rest.isEmpty then some (0, []) else
        (after? ':' rest).bind (digits? 2 2)
      let minutes : Int := hours * 60 + minutes
      if rest.isEmpty then some (some (if sign = '-' then -minutes else minutes)) else none

/-- The millionths of a second that the digits behind a point stand for; further digits are
dropped. -/
def microseconds (digits : List Char) : Nat :=
  digitsValue (digits.take 6 ++ List.replicate (6 - digits.length) '0')

/-- The time of day on a date that a text spells. -/
def timeOn? (date : Date) (text : List Char) : Option Moment := do
  let (hour, rest) ← digits? 1 2 text
  let (minute, rest) ← digits? 2 2 (← after? ':' rest)
  let (second, rest) ← digits? 2 2 (← after? ':' rest)
  let fraction := ((after? '.' rest).getD []).takeWhile Char.isDigit
  let rest := if rest.head? = some '.' then rest.drop (fraction.length + 1) else rest
  let offset ← offset? rest
  some { date, hour, minute, second, microsecond := microseconds fraction, offset }

/-- The text behind a date, if what separates the time from it is there. -/
def afterSeparator? (text : List Char) : Option (List Char) :=
  let isSpace := fun c : Char => c = ' ' || c = '\t'
  match text with
  | c :: rest =>
      if c = 'T' || c = 't' then some rest
      else if isSpace c then some (rest.dropWhile isSpace)
      else none
  | [] => none

/-- The date, or the date and time, that a text spells. A date alone has two digits for its month
and its day. -/
def time? (text : List Char) : Option Value := do
  let (year, rest) ← digits? 4 4 text
  let (month, afterMonth) ← digits? 1 2 (← after? '-' rest)
  let (day, rest) ← digits? 1 2 (← after? '-' afterMonth)
  if rest.isEmpty then
    if text.length = 10 then some (.date ⟨year, month, day⟩) else none
  else (timeOn? ⟨year, month, day⟩ (← afterSeparator? rest)).map .moment

/-- The value of a date or time, which must be a real one. -/
def checkedTime (value : Value) : Except Fault Value :=
  let fault? := match value with
    | .date day => Calendar.dateFault? day
    | .moment time => Calendar.momentFault? time
    | _ => none
  match fault? with
  | some fault => .error (.calendar fault)
  | none => .ok value

/-- The value of a plain scalar; `none` for the two marks of keys that have no value of their
own. -/
def value? (text : String) : Option (Except Fault Value) :=
  let chars := text.toList
  if text = "<<" || text = "=" then none
  else if nullNames.contains text then some (.ok .null)
  else
    match truth? text, real? chars, integer? chars, time? chars with
    | some truth, _, _, _ => some (.ok (.boolean truth))
    | _, some number, _, _ => some (number.map .real)
    | _, _, some number, _ => some (number.map .integer)
    | _, _, _, some time => some (checkedTime time)
    | none, none, none, none => some (.ok (.text text))

end ErrorTables.Yaml.Scalar
