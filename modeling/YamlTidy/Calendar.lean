import YamlTidy.Text.Blank

/-!
# Dates and times of day

Dates of the Gregorian calendar in the years 1 to 9999 and moments on them, to the microsecond and
without a zone.  `Moment.shift?` moves a moment by seconds through day numbers.
-/

namespace YamlTidy

/-- A day of the calendar. -/
structure Date where
  year : Nat
  month : Nat
  day : Nat
  deriving Repr, DecidableEq, Inhabited

/-- A moment without a zone. -/
structure Moment where
  date : Date
  hour : Nat
  minute : Nat
  second : Nat
  microsecond : Nat
  deriving Repr, DecidableEq, Inhabited

/-- Why numbers make no date or moment. -/
inductive CalendarFault where
  | year (year : Nat)
  | month
  | day
  | hour
  | minute
  | second
  deriving Repr, DecidableEq

/-- The wording of a calendar fault. -/
def CalendarFault.message : CalendarFault → List Char
  | .year n => "year ".toList ++ (toString n).toList ++ " is out of range".toList
  | .month => "month must be in 1..12".toList
  | .day => "day is out of range for month".toList
  | .hour => "hour must be in 0..23".toList
  | .minute => "minute must be in 0..59".toList
  | .second => "second must be in 0..59".toList

namespace Date

/-- Whether a year has a 29th of February. -/
def isLeap (year : Nat) : Bool :=
  year % 4 == 0 && (year % 100 != 0 || year % 400 == 0)

/-- The number of days of a month. -/
def monthLength (year month : Nat) : Nat :=
  if month == 2 then if isLeap year then 29 else 28
  else if month == 4 || month == 6 || month == 9 || month == 11 then 30
  else 31

/-- The fault of numbers that make no date. -/
def fault? (d : Date) : Option CalendarFault :=
  if d.year == 0 || 9999 < d.year then some (.year d.year)
  else if d.month == 0 || 12 < d.month then some .month
  else if d.day == 0 || monthLength d.year d.month < d.day then some .day
  else none

/-- The days before a year, from the first day of year 1. -/
def daysBeforeYear (year : Nat) : Nat :=
  let y := year - 1
  365 * y + y / 4 - y / 100 + y / 400

/-- The days of a year before a month. -/
def daysBeforeMonth (year : Nat) : Nat → Nat
  | 0 => 0
  | 1 => 0
  | month + 1 => daysBeforeMonth year month + monthLength year month

/-- The number of a day; 1 January of year 1 has number 0. -/
def number (d : Date) : Nat :=
  daysBeforeYear d.year + daysBeforeMonth d.year d.month + (d.day - 1)

/-- The month that holds a day of a year, tried from `month` on, and the day in it. -/
def monthOf (year : Nat) : Nat → Nat → Nat → Nat × Nat
  | 0, month, rest => (month, rest + 1)
  | tries + 1, month, rest =>
      let length := monthLength year month
      if rest < length then (month, rest + 1) else monthOf year tries (month + 1) (rest - length)

/-- The date with a number. -/
def ofNumber (n : Nat) : Date :=
  -- A year has at most 366 days, so the guess is at most a few years late.
  let late := n / 365 + 1
  let year := late - ((List.range 32).takeWhile fun k => n < daysBeforeYear (late - k)).length
  let (month, day) := monthOf year 11 1 (n - daysBeforeYear year)
  { year, month, day }

/-- A number with at least `width` digits. -/
def digits (width n : Nat) : List Char :=
  let ds := (toString n).toList
  List.replicate (width - ds.length) '0' ++ ds

/-- A date as year, month and day with dashes between. -/
def iso (d : Date) : List Char :=
  digits 4 d.year ++ '-' :: digits 2 d.month ++ '-' :: digits 2 d.day

end Date

namespace Moment

/-- The fault of numbers that make no moment. -/
def fault? (m : Moment) : Option CalendarFault :=
  match m.date.fault? with
  | some f => some f
  | none =>
      if 23 < m.hour then some .hour
      else if 59 < m.minute then some .minute
      else if 59 < m.second then some .second
      else none

/-- The moment some seconds later, if it lies in the years 1 to 9999. -/
def shift? (m : Moment) (seconds : Int) : Option Moment :=
  let total : Int := m.date.number * 86400 + m.hour * 3600 + m.minute * 60 + m.second + seconds
  if total < 0 then none
  else
    let t := total.toNat
    let date := Date.ofNumber (t / 86400)
    if 9999 < date.year then none
    else
      some { m with
        date, hour := t / 3600 % 24, minute := t / 60 % 60, second := t % 60 }

/-- Date and time with `between` between them; a fraction has six digits. -/
def iso (between : Char) (m : Moment) : List Char :=
  m.date.iso ++ between :: Date.digits 2 m.hour ++ ':' :: Date.digits 2 m.minute ++
    ':' :: Date.digits 2 m.second ++
    (if m.microsecond == 0 then [] else '.' :: Date.digits 6 m.microsecond)

end Moment
end YamlTidy
