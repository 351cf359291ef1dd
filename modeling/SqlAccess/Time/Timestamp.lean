/-
  This file defines timestamps without a time zone: a day of
  the proleptic Gregorian calendar and a time of that day.
  A leap second is a second with a thousand million
  nanoseconds or more.  It may follow any second: a place
  that is off by some seconds has it in the middle of a
  minute.

  Key definitions include:
    * `Date`
    * `Date.of?`
    * `Date.daysFromCivil`
    * `TimeOfDay`
    * `TimeOfDay.of?`
    * `Timestamp`
    * `Timestamp.text`
    * `Timestamp.inspect`
    * `Timestamp.microsSince2000`
-/

namespace SqlAccess

------------------------------------------------------------
-- Dates
------------------------------------------------------------

namespace Calendar

/- Whether a year has a 29th of February. -/
def isLeapYear (year : Int) : Bool :=
  year % 4 = 0 && (year % 100 ≠ 0 || year % 400 = 0)

/- The number of days of a month. -/
def daysInMonth
    (year : Int)
    (month : Nat) : Nat :=
  if month = 2 then
    if isLeapYear year then 29 else 28
  else if month ∈ [4, 6, 9, 11] then 30
  else 31

/- Whether three numbers name a day of the calendar. -/
def IsDate
    (year : Int)
    (month day : Nat) : Prop :=
  (-262143 ≤ year ∧ year ≤ 262142) ∧
  (1 ≤ month ∧ month ≤ 12) ∧
  (1 ≤ day ∧ day ≤ daysInMonth year month)

instance
    (year : Int)
    (month day : Nat) :
    Decidable (IsDate year month day) := by
  unfold IsDate
  infer_instance

/- Whether four numbers name a time of day. -/
def IsTime
    (hour minute second nano : Nat) : Prop :=
  hour < 24 ∧ minute < 60 ∧ second < 60 ∧
  nano < 2 * Nat.pow 10 9

instance
    (hour minute second nano : Nat) :
    Decidable (IsTime hour minute second nano) := by
  unfold IsTime
  infer_instance

end Calendar

/- A day. -/
structure Date where
  year : Int
  month : Nat
  day : Nat
  isDate : Calendar.IsDate year month day
deriving DecidableEq

namespace Date

/- The day that three numbers name. -/
def of?
    (year : Int)
    (month day : Nat) : Option Date :=
  if h : Calendar.IsDate year month day then
    some ⟨year, month, day, h⟩
  else
    none

/-
  The number of days from the first of March of the year
  zero to a day.  A year is counted from March, so that a
  leap day comes last and the months before it have the
  pattern 31, 30, 31, 30, 31 over and over.
-/
def daysFromCivil (d : Date) : Int :=
  let year := if d.month ≤ 2 then d.year - 1 else d.year
  let month := (d.month + 9) % 12
  let dayOfYear := (153 * month + 2) / 5 + (d.day - 1)
  365 * year + year / 4 - year / 100 + year / 400 +
    dayOfYear

end Date

------------------------------------------------------------
-- Times and Timestamps
------------------------------------------------------------

/- A time of day. -/
structure TimeOfDay where
  hour : Nat
  minute : Nat
  second : Nat
  nano : Nat
  isTime : Calendar.IsTime hour minute second nano
deriving DecidableEq

namespace TimeOfDay

/- The time that four numbers name. -/
def of?
    (hour minute second nano : Nat) : Option TimeOfDay :=
  if h : Calendar.IsTime hour minute second nano then
    some ⟨hour, minute, second, nano, h⟩
  else
    none

/-
  The second as a clock shows it: the next one in a leap
  second, which may be the sixtieth.
-/
def shownSecond (t : TimeOfDay) : Nat :=
  t.second + t.nano / Nat.pow 10 9

/- The nanoseconds past the shown second. -/
def fraction (t : TimeOfDay) : Nat :=
  t.nano % Nat.pow 10 9

end TimeOfDay

/- A day and a time of it. -/
structure Timestamp where
  date : Date
  time : TimeOfDay
deriving DecidableEq

namespace Timestamp

/- The timestamp that seven numbers name. -/
def of?
    (year : Int)
    (month day hour minute second nano : Nat) :
    Option Timestamp :=
  match Date.of? year month day,
    TimeOfDay.of? hour minute second nano
  with
  | some date, some time => some ⟨date, time⟩
  | _, _ => none

/-
  The microseconds from the start of the year 2000, without
  the part of a microsecond that is left.
-/
def microsSince2000 (t : Timestamp) : Int :=
  let days := t.date.daysFromCivil - 730425
  let seconds :=
    days * 86400 + t.time.hour * 3600 + t.time.minute * 60
      + t.time.second
  (seconds * Nat.pow 10 9 + t.time.nano).tdiv 1000

------------------------------------------------------------
-- Text
------------------------------------------------------------

/- A number in decimal digits, zeros before them. -/
def padded
    (width n : Nat) : String :=
  let digits := Nat.toDigits 10 n
  String.ofList
    (List.replicate (width - digits.length) '0' ++ digits)

/-
  A year has four digits; outside the years 0 to 9999 it has
  a sign and at least four digits.
-/
def yearText (year : Int) : String :=
  if 0 ≤ year && year ≤ 9999 then padded 4 year.toNat
  else
    (if year < 0 then "-" else "+") ++ padded 4 year.natAbs

/-
  The fraction of a second in three, six or nine places, the
  fewest that are exact; nothing if it is zero.
-/
def fractionText (nanos : Nat) : String :=
  if nanos = 0 then ""
  else if nanos % Nat.pow 10 6 = 0 then
    "." ++ padded 3 (nanos / Nat.pow 10 6)
  else if nanos % Nat.pow 10 3 = 0 then
    "." ++ padded 6 (nanos / Nat.pow 10 3)
  else
    "." ++ padded 9 nanos

/- The text of a timestamp, day and time parted as given. -/
def textWith
    (separator : String)
    (t : Timestamp) : String :=
  yearText t.date.year ++ "-" ++
    padded 2 t.date.month ++ "-" ++
    padded 2 t.date.day ++ separator ++
    padded 2 t.time.hour ++ ":" ++
    padded 2 t.time.minute ++ ":" ++
    padded 2 t.time.shownSecond ++
    fractionText t.time.fraction

/- The text that is stored and bound. -/
def text (t : Timestamp) : String :=
  t.textWith " "

/- The text in error messages. -/
def inspect (t : Timestamp) : String :=
  t.textWith "T"

end Timestamp

end SqlAccess
