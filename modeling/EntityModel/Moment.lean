/-!
# Dates and times of day

A *moment* is a date of the calendar, or a date with a time of day. It has the parts that were written;
`Moment.fault?` tells the first of them that is out of its range.
-/

namespace EntityModel

/-- A time of day. -/
structure Clock where
  hour : Nat
  minute : Nat
  second : Nat
  /-- Millionths of a second. -/
  millionth : Nat
  /-- How far the place is ahead of universal time, in minutes, if that is known. -/
  offset : Option Int
  deriving DecidableEq, Repr

/-- A date, or a date with a time of day. -/
structure Moment where
  year : Nat
  month : Nat
  day : Nat
  /-- The time of day, if it is given. -/
  clock : Option Clock := none
  deriving DecidableEq, Repr

/-- Which part of a moment is out of its range. -/
inductive MomentFault where
  | year (year : Nat)
  | month
  | day
  | hour
  | minute
  | second
  /-- The offset: a day or more, here in minutes. -/
  | offset (minutes : Int)
  deriving DecidableEq, Repr

namespace MomentFault

/-- How many minutes a day has. -/
def minutesOfDay : Int := 1440

/-- A span of time as days and seconds of a day. Parts that are zero are not written. -/
def spanText (minutes : Int) : String :=
  let days := minutes / minutesOfDay
  let seconds := minutes % minutesOfDay * 60
  let parts := (if days = 0 then [] else ["days=" ++ toString days]) ++
    (if seconds = 0 then [] else ["seconds=" ++ toString seconds])
  "datetime.timedelta(" ++ (if parts.isEmpty then "0" else ", ".intercalate parts) ++ ")"

/-- The wording of a fault. -/
def message : MomentFault → String
  | year n => "year " ++ toString n ++ " is out of range"
  | month => "month must be in 1..12"
  | day => "day is out of range for month"
  | hour => "hour must be in 0..23"
  | minute => "minute must be in 0..59"
  | second => "second must be in 0..59"
  | offset m =>
      "offset must be a timedelta strictly between -timedelta(hours=24) and timedelta(hours=24), not " ++
        spanText m ++ "."

end MomentFault

namespace Moment

/-- A year with a day more. -/
def isLeapYear (year : Nat) : Bool := year % 4 = 0 && (year % 100 ≠ 0 || year % 400 = 0)

/-- The number of days of a month. -/
def daysOf (year month : Nat) : Nat :=
  if month = 2 then if isLeapYear year then 29 else 28
  else if [4, 6, 9, 11].contains month then 30 else 31

/-- The first part of the date that is out of its range. -/
def dateFault? (m : Moment) : Option MomentFault :=
  if m.year < 1 || 9999 < m.year then some (.year m.year)
  else if m.month < 1 || 12 < m.month then some .month
  else if m.day < 1 || daysOf m.year m.month < m.day then some .day
  else none

/-- The first part of a time of day that is out of its range. -/
def clockFault? (c : Clock) : Option MomentFault :=
  if 23 < c.hour then some .hour
  else if 59 < c.minute then some .minute
  else if 59 < c.second then some .second
  else none

/-- An offset of a day or more. -/
def offsetFault? (c : Clock) : Option MomentFault :=
  match c.offset with
  | some m => if m.natAbs < MomentFault.minutesOfDay.natAbs then none else some (.offset m)
  | none => none

/-- The first part that is out of its range: the offset, then the date, then the time of day. -/
def fault? (m : Moment) : Option MomentFault :=
  match m.clock with
  | none => m.dateFault?
  | some c => (offsetFault? c).or (m.dateFault?.or (clockFault? c))

end Moment

end EntityModel
