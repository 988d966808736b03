/-!
# Dates and times

A date is a day of a year from 1 to 9999.  A moment is a date, or a date with a time of day to the
microsecond, perhaps with the distance of its zone from universal time, which is less than a day.
Two times with zones are the same moment if they are at the same universal time.
-/

namespace SchemaDecl

/-- Why there is no date or time with some parts. -/
inductive CalendarFault where
  | year (value : Nat)
  | month
  | day
  | hour
  | minute
  | second
  /-- A zone is a day or more away from universal time. -/
  | offset (seconds : Int)
  deriving DecidableEq, Repr

/-- A distance of time in whole seconds, written as days and seconds that are not negative. -/
def durationText (seconds : Int) : String :=
  let days := Int.fdiv seconds 86400
  let rest := Int.fmod seconds 86400
  let parts :=
    (if days = 0 then [] else ["days=" ++ toString days]) ++
      (if rest = 0 then [] else ["seconds=" ++ toString rest])
  "datetime.timedelta(" ++ (if parts = [] then "0" else ", ".intercalate parts) ++ ")"

namespace CalendarFault

/-- The message of a fault. -/
def message : CalendarFault → String
  | year value => "year " ++ toString value ++ " is out of range"
  | month => "month must be in 1..12"
  | day => "day is out of range for month"
  | hour => "hour must be in 0..23"
  | minute => "minute must be in 0..59"
  | second => "second must be in 0..59"
  | offset seconds =>
      "offset must be a timedelta strictly between -timedelta(hours=24) and " ++
        "timedelta(hours=24), not " ++ durationText seconds ++ "."

end CalendarFault

/-- A day of a year. -/
structure Date where
  year : Nat
  month : Nat
  day : Nat
  deriving DecidableEq, Repr

/-- Whether a year has a day more than others. -/
def isLeapYear (year : Nat) : Bool :=
  year % 4 == 0 && (year % 100 != 0 || year % 400 == 0)

/-- The number of days of a month. -/
def daysInMonth (year month : Nat) : Nat :=
  if month = 2 then (if isLeapYear year then 29 else 28)
  else if month = 4 ∨ month = 6 ∨ month = 9 ∨ month = 11 then 30
  else 31

namespace Date

/-- The date with the given parts.  The first part that is out of its range is the fault. -/
def ofParts (year month day : Nat) : Except CalendarFault Date :=
  if year < 1 ∨ 9999 < year then .error (.year year)
  else if month < 1 ∨ 12 < month then .error .month
  else if day < 1 ∨ daysInMonth year month < day then .error .day
  else .ok ⟨year, month, day⟩

/-- The number of days before the first of a month in its year. -/
def daysBeforeMonth (year : Nat) : Nat → Nat
  | 0 => 0
  | month + 1 => daysBeforeMonth year month + (if month = 0 then 0 else daysInMonth year month)

/-- The number of a date among all dates. -/
def ordinal (date : Date) : Nat :=
  let years := date.year - 1
  365 * years + years / 4 - years / 100 + years / 400 + daysBeforeMonth date.year date.month +
    date.day

/-- The parts of a date in a text. -/
def parts (date : Date) : List Nat :=
  [date.year, date.month, date.day]

end Date

/-- A time of day. -/
structure Time where
  hour : Nat
  minute : Nat
  second : Nat
  microsecond : Nat
  deriving DecidableEq, Repr

namespace Time

/-- The time with the given parts.  The first part that is out of its range is the fault. -/
def ofParts (hour minute second microsecond : Nat) : Except CalendarFault Time :=
  if 24 ≤ hour then .error .hour
  else if 60 ≤ minute then .error .minute
  else if 60 ≤ second then .error .second
  else .ok ⟨hour, minute, second, microsecond⟩

/-- The number of seconds of a day before a time. -/
def seconds (time : Time) : Nat :=
  (time.hour * 60 + time.minute) * 60 + time.second

/-- The parts of a time in a text.  Seconds and microseconds are left out if there are none. -/
def parts (time : Time) : List Nat :=
  [time.hour, time.minute] ++
    (if time.microsecond ≠ 0 then [time.second, time.microsecond]
     else if time.second ≠ 0 then [time.second]
     else [])

end Time

/-- A date, or a date and a time. -/
inductive Moment where
  | date (day : Date)
  /-- A date and a time, and the seconds by which the zone is ahead of universal time. -/
  | time (day : Date) (clock : Time) (offset : Option Int)
  deriving DecidableEq, Repr

namespace Moment

/-- The offset of a zone, which must be less than a day. -/
def checkOffset (seconds : Int) : Except CalendarFault Int :=
  if seconds.natAbs < 86400 then .ok seconds else .error (.offset seconds)

/-- Numbers with commas between them. -/
def listing (numbers : List Nat) : String :=
  ", ".intercalate (numbers.map toString)

/-- The text of a zone. -/
def zoneText (offset : Int) : String :=
  if offset = 0 then "datetime.timezone.utc"
  else "datetime.timezone(" ++ durationText offset ++ ")"

/-- The text of a moment. -/
def text : Moment → String
  | .date day => "datetime.date(" ++ listing day.parts ++ ")"
  | .time day clock offset =>
      let zone := (offset.map fun offset => ", tzinfo=" ++ zoneText offset).getD ""
      "datetime.datetime(" ++ listing (day.parts ++ clock.parts) ++ zone ++ ")"

/-- The seconds from the first date to a date and time of a zone. -/
def instant (day : Date) (clock : Time) (offset : Int) : Int :=
  (day.ordinal * 86400 + clock.seconds : Nat) - offset

/-- Whether two moments are the same. -/
def same : Moment → Moment → Bool
  | .date left, .date right => left == right
  | .time leftDay leftClock none, .time rightDay rightClock none =>
      leftDay == rightDay && leftClock == rightClock
  | .time leftDay leftClock (some leftOffset), .time rightDay rightClock (some rightOffset) =>
      instant leftDay leftClock leftOffset == instant rightDay rightClock rightOffset &&
        leftClock.microsecond == rightClock.microsecond
  | _, _ => false

end Moment

end SchemaDecl
