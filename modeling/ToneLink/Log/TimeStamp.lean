/-!
# Time stamps

A shown line starts with the moment at which it was logged, in universal time: date and time of day,
with six decimals of a second.

- `CalendarDate.ofDay`: the date of a day counted from the first day of 1970;
- `timeStamp`: a moment as text.
-/

namespace ToneLink.Log

/-- A date of the calendar that is in use. -/
structure CalendarDate where
  year : Nat
  month : Nat
  day : Nat
  deriving DecidableEq, Repr

/-- Days in four hundred years, after which the calendar repeats. -/
def daysPerEra : Nat := 146097

/-- Days from the first of March of year zero to the first day of 1970. -/
def daysBefore1970 : Nat := 719468

/-- The date of a day counted from the first day of 1970. Years are taken to begin in March, so that
a leap day is the last day of its year. -/
def CalendarDate.ofDay (day : Nat) : CalendarDate :=
  let d := day + daysBefore1970
  let ofEra := d % daysPerEra
  let yearOfEra := (ofEra - ofEra / 1460 + ofEra / 36524 - ofEra / (daysPerEra - 1)) / 365
  let ofYear := ofEra - (365 * yearOfEra + yearOfEra / 4 - yearOfEra / 100)
  let fromMarch := (5 * ofYear + 2) / 153
  let month := if fromMarch < 10 then fromMarch + 3 else fromMarch - 9
  { year := yearOfEra + d / daysPerEra * 400 + (if month ≤ 2 then 1 else 0)
    month
    day := ofYear - (153 * fromMarch + 2) / 5 + 1 }

/-- A number in at least `width` digits. -/
def zeroPadded (width n : Nat) : String :=
  let digits := Nat.toDigits 10 n
  String.ofList (List.replicate (width - digits.length) '0' ++ digits)

/-- A moment, in microseconds from the start of 1970, as text. -/
def timeStamp (micros : Nat) : String :=
  let second := micros / 1_000_000
  let date := CalendarDate.ofDay (second / 86400)
  let ofDay := second % 86400
  zeroPadded 4 date.year ++ "-" ++ zeroPadded 2 date.month ++ "-" ++ zeroPadded 2 date.day
    ++ "T" ++ zeroPadded 2 (ofDay / 3600) ++ ":" ++ zeroPadded 2 (ofDay / 60 % 60)
    ++ ":" ++ zeroPadded 2 (ofDay % 60) ++ "." ++ zeroPadded 6 (micros % 1_000_000) ++ "Z"

end ToneLink.Log
