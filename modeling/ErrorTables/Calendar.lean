/-!
Dates and times of the proleptic Gregorian calendar: which fields name a real date or time, the day
of the week, and the two forms in which they are written.
-/

namespace ErrorTables

/-- A calendar date. -/
structure Date where
  year : Nat
  month : Nat
  day : Nat
  deriving DecidableEq, Repr

/-- A date with a time of day and, if known, the distance from universal time in minutes. -/
structure Moment where
  date : Date
  hour : Nat := 0
  minute : Nat := 0
  second : Nat := 0
  microsecond : Nat := 0
  offset : Option Int := none
  deriving DecidableEq, Repr

namespace Calendar

/-- The first field that keeps a date or time from being a real one. -/
inductive Fault where
  | year (number : Nat)
  | month
  | day
  | hour
  | minute
  | second
  | offset (days seconds : Int)
  deriving DecidableEq, Repr

/-- The wording of an interval as days and seconds. -/
def intervalText (days seconds : Int) : String :=
  let days := if days = 0 then [] else [s!"days={days}"]
  let seconds := if seconds = 0 then [] else [s!"seconds={seconds}"]
  let parts := ", ".intercalate (days ++ seconds)
  s!"datetime.timedelta({parts})"

/-- The wording of a fault. -/
def Fault.message : Fault → String
  | .year number => s!"year {number} is out of range"
  | .month => "month must be in 1..12"
  | .day => "day is out of range for month"
  | .hour => "hour must be in 0..23"
  | .minute => "minute must be in 0..59"
  | .second => "second must be in 0..59"
  | .offset days seconds =>
      "offset must be a timedelta strictly between -timedelta(hours=24) and " ++
        s!"timedelta(hours=24), not {intervalText days seconds}."

/-- A year with a thirtieth day more than others in its shortest month. -/
def isLeapYear (year : Nat) : Bool :=
  year % 4 = 0 && (year % 100 ≠ 0 || year % 400 = 0)

/-- The number of days of a month. -/
def daysInMonth (year month : Nat) : Nat :=
  if month = 2 then if isLeapYear year then 29 else 28
  else if month ∈ [4, 6, 9, 11] then 30
  else 31

/-- The number of days before the first day of a year, counted from the first day of year one. -/
def daysBeforeYear (year : Nat) : Nat :=
  let past := year - 1
  past * 365 + past / 4 - past / 100 + past / 400

/-- The number of days in a year before the first day of a month. -/
def daysBeforeMonth (year month : Nat) : Nat :=
  (List.range (month - 1)).foldr (fun index days => daysInMonth year (index + 1) + days) 0

/-- The day of the week, Monday being zero. -/
def weekday (date : Date) : Nat :=
  (daysBeforeYear date.year + daysBeforeMonth date.year date.month + date.day + 6) % 7

/-- The fault of a date, if it is not a real one. -/
def dateFault? (date : Date) : Option Fault :=
  if date.year = 0 || 9999 < date.year then some (.year date.year)
  else if date.month = 0 || 12 < date.month then some .month
  else if date.day = 0 || daysInMonth date.year date.month < date.day then some .day
  else none

/-- The fault of a distance from universal time, which must be less than a day. -/
def offsetFault? (offset : Int) : Option Fault :=
  if offset.natAbs < 24 * 60 then none
  else some (.offset (offset.fdiv (24 * 60)) (offset.fmod (24 * 60) * 60))

/-- The fault of a moment, if it is not a real one. -/
def momentFault? (moment : Moment) : Option Fault :=
  ((moment.offset.bind offsetFault?).or (dateFault? moment.date)).or <|
    if 23 < moment.hour then some .hour
    else if 59 < moment.minute then some .minute
    else if 59 < moment.second then some .second
    else none

/-- The number with zeros in front up to the width. -/
def padded (width number : Nat) : String :=
  let digits := toString number
  String.ofList (List.replicate (width - digits.length) '0') ++ digits

/-- The date as year, month and day. -/
def dateText (date : Date) : String :=
  s!"{padded 4 date.year}-{padded 2 date.month}-{padded 2 date.day}"

/-- A distance from universal time as a sign, hours and minutes. -/
def offsetText (offset : Int) : String :=
  let sign := if offset < 0 then "-" else "+"
  s!"{sign}{padded 2 (offset.natAbs / 60)}:{padded 2 (offset.natAbs % 60)}"

/-- The moment as a date, a time and, if known, the distance from universal time. -/
def momentText (moment : Moment) : String :=
  let time := s!"{padded 2 moment.hour}:{padded 2 moment.minute}:{padded 2 moment.second}"
  let fraction := if moment.microsecond = 0 then "" else "." ++ padded 6 moment.microsecond
  let offset := (moment.offset.map offsetText).getD ""
  s!"{dateText moment.date} {time}{fraction}{offset}"

/-- The short names of the days of the week. -/
def weekdayNames : List String :=
  ["Mon", "Tue", "Wed", "Thu", "Fri", "Sat", "Sun"]

/-- The short names of the months. -/
def monthNames : List String :=
  ["Jan", "Feb", "Mar", "Apr", "May", "Jun", "Jul", "Aug", "Sep", "Oct", "Nov", "Dec"]

/-- The moment as it is stamped on generated files: day of the week, month, day, time and year. -/
def stamp (moment : Moment) : String :=
  let day := weekdayNames.getD (weekday moment.date) ""
  let month := monthNames.getD (moment.date.month - 1) ""
  let time := s!"{padded 2 moment.hour}:{padded 2 moment.minute}:{padded 2 moment.second}"
  s!"{day} {month} {padded 2 moment.date.day} {time} {moment.date.year}"

end Calendar

end ErrorTables
