/-
# Dates and times

Days of the proleptic Gregorian calendar in the years 1 to 9999, times of a day
to the microsecond, and offsets from universal time. Texts are in the extended
form: `2024-01-02T03:04:05.000006+01:00`, without the fraction if it is zero.

Key definitions: `CalendarDate`, `ClockTime`, `DateTime`, `Offset`,
`CalendarDate.text`, `ClockTime.text`, `DateTime.text`.
-/
namespace TableGate

/-- A day of the calendar. -/
structure CalendarDate where
  year : Nat
  month : Nat
  day : Nat
deriving DecidableEq, Repr, Inhabited

/-- An offset from universal time in microseconds, positive to the east. -/
structure Offset where
  microseconds : Int
deriving DecidableEq, Repr, Inhabited

/-- A time of day, with an offset if one is known. -/
structure ClockTime where
  hour : Nat
  minute : Nat
  second : Nat
  microsecond : Nat
  offset : Option Offset
deriving DecidableEq, Repr, Inhabited

/-- A day and a time of day. -/
structure DateTime where
  date : CalendarDate
  time : ClockTime
deriving DecidableEq, Repr, Inhabited

namespace CalendarDate

/-- A year with a 29th of February. -/
def isLeap (year : Nat) : Bool := year % 4 = 0 && (year % 100 ≠ 0 || year % 400 = 0)

/-- The number of days of a month. -/
def daysIn (year month : Nat) : Nat :=
  if month = 2 then (if isLeap year then 29 else 28)
  else if month = 4 ∨ month = 6 ∨ month = 9 ∨ month = 11 then 30 else 31

def isValid (d : CalendarDate) : Bool :=
  1 ≤ d.year && d.year ≤ 9999 && 1 ≤ d.month && d.month ≤ 12 && 1 ≤ d.day &&
    d.day ≤ daysIn d.year d.month

/-- The days before the first of January of a year, counted from the year 1. -/
def daysBeforeYear (year : Nat) : Nat :=
  (year - 1) * 365 + (year - 1) / 4 - (year - 1) / 100 + (year - 1) / 400

/-- The days of the months before the given one. -/
def daysBeforeMonth (year : Nat) : Nat → Nat
  | 0 => 0
  | 1 => 0
  | month + 2 => daysBeforeMonth year (month + 1) + daysIn year (month + 1)

/-- The number of the day, the first of January of the year 1 being day 1. -/
def ordinal (d : CalendarDate) : Nat :=
  daysBeforeYear d.year + daysBeforeMonth d.year d.month + d.day

/-- The day with a number within a year, looked for from `month` on. -/
def ofDayOfYear (year day : Nat) : Nat → Nat → CalendarDate
  | 0, month => ⟨year, month, day⟩
  | fuel + 1, month =>
    if day ≤ daysIn year month then ⟨year, month, day⟩
    else ofDayOfYear year (day - daysIn year month) fuel (month + 1)

/-- The day with the given number, looked for in `year` and the one after. -/
def ofOrdinalNear (year : Nat) (n : Int) : CalendarDate :=
  let inYear := n - daysBeforeYear year
  if inYear ≤ 0 then
    ofDayOfYear (year - 1) (n - daysBeforeYear (year - 1)).toNat 11 1
  else
    let length := if isLeap year then 366 else 365
    if inYear > length then ofDayOfYear (year + 1) (inYear - length).toNat 11 1
    else ofDayOfYear year inYear.toNat 11 1

/-- The day with the given number; 400 years have 146097 days. -/
def ofOrdinal (n : Nat) : CalendarDate :=
  let r := (n - 1) % 146097
  let century := min (r / 36524) 3
  let r := r - century * 36524
  let four := r / 1461
  let r := r % 1461
  let one := min (r / 365) 3
  let year := (n - 1) / 146097 * 400 + century * 100 + four * 4 + one + 1
  ofDayOfYear year (r - one * 365 + 1) 11 1

/-- The weekday of the first of January, Monday being 0. -/
def newYearWeekday (year : Nat) : Nat := (daysBeforeYear year + 7) % 7

/-- The day of a week of a year; weeks run from Monday, and the first one holds
the first Thursday of the year. -/
def ofWeek? (year week day : Nat) : Option CalendarDate :=
  if year < 1 ∨ year > 9999 then none
  else
    let first := newYearWeekday year
    let long := first = 3 ∨ (first = 2 ∧ isLeap year)
    if week < 1 ∨ week > 53 ∨ (week = 53 ∧ ¬ long) then none
    else if day < 1 ∨ day > 7 then none
    else
      let january : Int := daysBeforeYear year + 1
      let monday := january - first + (if first > 3 then 7 else 0)
      some (ofOrdinalNear year (monday + (week - 1) * 7 + (day - 1)))

end CalendarDate

/-- The last `width` decimal digits of a number. -/
def paddedDigits : Nat → Nat → List Char
  | 0, _ => []
  | width + 1, n => paddedDigits width (n / 10) ++ [Char.ofNat (48 + n % 10)]

/-- A number in decimal digits with zeros in front. -/
def padded (width n : Nat) : String := String.ofList (paddedDigits width n)

def CalendarDate.text (d : CalendarDate) : String :=
  padded 4 d.year ++ "-" ++ padded 2 d.month ++ "-" ++ padded 2 d.day

/-- The seconds and microseconds that end a time, shown as far as they are not
zero. -/
def Offset.text (o : Offset) : String :=
  let size := o.microseconds.natAbs
  let seconds := size / 1000000
  (if o.microseconds < 0 then "-" else "+") ++ padded 2 (seconds / 3600) ++ ":" ++
    padded 2 (seconds / 60 % 60) ++
    (if seconds % 60 = 0 ∧ size % 1000000 = 0 then "" else ":" ++ padded 2 (seconds % 60)) ++
    (if size % 1000000 = 0 then "" else "." ++ padded 6 (size % 1000000))

/-- The text of a time of day. -/
def ClockTime.text (t : ClockTime) : String :=
  padded 2 t.hour ++ ":" ++ padded 2 t.minute ++ ":" ++ padded 2 t.second ++
    (if t.microsecond = 0 then "" else "." ++ padded 6 t.microsecond) ++
    (match t.offset with
    | some o => o.text
    | none => "")

/-- The text of a day and a time of day with `separator` between them. -/
def DateTime.textWith (separator : String) (t : DateTime) : String :=
  t.date.text ++ separator ++ t.time.text

/-- The text of a day and a time of day. -/
def DateTime.text (t : DateTime) : String := t.textWith "T"

end TableGate
