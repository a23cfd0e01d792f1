/-!
# Dates and times

Moments of the Gregorian calendar in the years 1 to 9999, with an offset to universal time or without
one, and the text by which requests name a moment: weekday, date and time in universal time.
-/

namespace PageScript.Calendar

/-- A leap year. -/
def isLeap (year : Nat) : Bool := year % 4 = 0 && (year % 100 ≠ 0 || year % 400 = 0)

/-- The number of days of a month. -/
def daysInMonth (year month : Nat) : Nat :=
  if month = 2 then if isLeap year then 29 else 28
  else if month = 4 || month = 6 || month = 9 || month = 11 then 30
  else 31

/-- A date. -/
structure Date where
  year : Nat
  month : Nat
  day : Nat
deriving DecidableEq, Repr

/-- The last year of the calendar. -/
def lastYear : Nat := 9999

/-- The next day; nothing at the end of the calendar. -/
def Date.next? (date : Date) : Option Date :=
  if date.day < daysInMonth date.year date.month then some { date with day := date.day + 1 }
  else if date.month < 12 then some { date with month := date.month + 1, day := 1 }
  else if date.year < lastYear then some ⟨date.year + 1, 1, 1⟩
  else none

/-- The day before; nothing at the start of the calendar. -/
def Date.previous? (date : Date) : Option Date :=
  if 1 < date.day then some { date with day := date.day - 1 }
  else if 1 < date.month then
    some { date with month := date.month - 1, day := daysInMonth date.year (date.month - 1) }
  else if 1 < date.year then some ⟨date.year - 1, 12, 31⟩
  else none

/-- The date `n` steps away. -/
def Date.steps? (step? : Date → Option Date) : Nat → Date → Option Date
  | 0, date => some date
  | n + 1, date => (step? date).bind (Date.steps? step? n)

/-- The date `days` days later, or earlier if negative. -/
def Date.shift? (date : Date) : (days : Int) → Option Date
  | .ofNat n => Date.steps? Date.next? n date
  | .negSucc n => Date.steps? Date.previous? (n + 1) date

/-- The days of a year before a month. -/
def daysBeforeMonth (year : Nat) : Nat → Nat
  | 0 => 0
  | 1 => 0
  | month + 1 => daysBeforeMonth year month + daysInMonth year month

/-- The number of a day, counted from the first day of the year 1. -/
def Date.number (date : Date) : Nat :=
  let years := date.year - 1
  365 * years + years / 4 - years / 100 + years / 400 + daysBeforeMonth date.year date.month +
    date.day

/-- The abbreviated weekdays, starting from the first day of the year 1. -/
def weekdays : List String := ["Mon", "Tue", "Wed", "Thu", "Fri", "Sat", "Sun"]

def months : List String :=
  ["Jan", "Feb", "Mar", "Apr", "May", "Jun", "Jul", "Aug", "Sep", "Oct", "Nov", "Dec"]

def Date.weekday (date : Date) : String := (weekdays[(date.number - 1) % 7]?).getD ""

/-- A date and a time, with the minutes that its place is ahead of universal time; without them the
moment is in universal time. -/
structure Moment where
  year : Int
  month : Int
  day : Int
  hour : Int
  minute : Int
  second : Int
  microsecond : Int := 0
  offset : Option Int := none
deriving DecidableEq, Repr

/-- Why there is no such moment. -/
inductive Fault where
  | year (n : Int)
  | month
  | day
  | hour
  | minute
  | second
  | microsecond
  /-- In universal time the moment is outside of the calendar. -/
  | outOfRange
  /-- An offset of a day or more. -/
  | offset (minutes : Int)
  /-- An offset of more days than can be counted. -/
  | offsetDays (days : Int)
deriving DecidableEq, Repr

/-- The most days that an offset is counted in. -/
def dayLimit : Int := 999999999

/-- A span of minutes as messages name it: its days and the seconds beyond them. -/
def spanText (minutes : Int) : String :=
  let days := minutes / 1440
  let seconds := minutes % 1440 * 60
  let parts := (if days = 0 then [] else [s!"days={days}"]) ++
    (if seconds = 0 then [] else [s!"seconds={seconds}"])
  "datetime.timedelta(" ++ (if parts.isEmpty then "0" else ", ".intercalate parts) ++ ")"

def Fault.message : Fault → String
  | .offset minutes =>
    "offset must be a timedelta strictly between -timedelta(hours=24) and timedelta(hours=24), not " ++
      spanText minutes ++ "."
  | .offsetDays days => s!"days={days}; must have magnitude <= {dayLimit}"
  | .year n => s!"year {n} is out of range"
  | .month => "month must be in 1..12"
  | .day => "day is out of range for month"
  | .hour => "hour must be in 0..23"
  | .minute => "minute must be in 0..59"
  | .second => "second must be in 0..59"
  | .microsecond => "microsecond must be in 0..999999"
  | .outOfRange => "date value out of range"

/-- What is wrong with an offset: it is less than a day. -/
def offsetFault? (minutes : Int) : Option Fault :=
  let days := minutes / 1440
  if days < -dayLimit ∨ dayLimit < days then some (.offsetDays days)
  else if minutes.natAbs < 1440 then none
  else some (.offset minutes)

/-- The first part of a moment that is wrong, the offset before the others. -/
def Moment.fault? (m : Moment) : Option Fault :=
  (m.offset.bind offsetFault?).or <|
  if m.year < 1 ∨ lastYear < m.year then some (.year m.year)
  else if m.month < 1 ∨ 12 < m.month then some .month
  else if m.day < 1 ∨ daysInMonth m.year.toNat m.month.toNat < m.day then some .day
  else if m.hour < 0 ∨ 23 < m.hour then some .hour
  else if m.minute < 0 ∨ 59 < m.minute then some .minute
  else if m.second < 0 ∨ 59 < m.second then some .second
  else if m.microsecond < 0 ∨ 999999 < m.microsecond then some .microsecond
  else none

/-- A date and a time of the day in universal time. -/
structure Utc where
  date : Date
  hour : Nat
  minute : Nat
  second : Nat
deriving DecidableEq, Repr

/-- The moment in universal time. -/
def Moment.toUtc (m : Moment) : Except Fault Utc :=
  match m.fault? with
  | some fault => .error fault
  | none =>
    let minutes := m.hour * 60 + m.minute - m.offset.getD 0
    let ofDay := (minutes % 1440).toNat
    match Date.shift? ⟨m.year.toNat, m.month.toNat, m.day.toNat⟩ (minutes / 1440) with
    | some date =>
      .ok { date, hour := ofDay / 60, minute := ofDay % 60, second := m.second.toNat }
    | none => .error .outOfRange

/-- The digits of a number, at least `width` of them. -/
def digits (width n : Nat) : String :=
  let text := (toString n).toList
  String.ofList (List.replicate (width - text.length) '0' ++ text)

/-- The text of a moment in universal time. -/
def Utc.format (utc : Utc) : String :=
  utc.date.weekday ++ ", " ++ digits 2 utc.date.day ++ " " ++
    (months[utc.date.month - 1]?).getD "" ++ " " ++ digits 4 utc.date.year ++ " " ++
    digits 2 utc.hour ++ ":" ++ digits 2 utc.minute ++ ":" ++ digits 2 utc.second ++ " GMT"

/-- The text by which a request names a moment. -/
def httpDate (m : Moment) : Except Fault String := m.toUtc.map Utc.format

end PageScript.Calendar
