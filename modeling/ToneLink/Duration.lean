import ToneLink.Number.Binary64

/-!
# Durations and instants

Time is counted in whole nanoseconds: a `Duration` is a length of time, an `Instant` a point on the
monotonic clock. Nothing in this library reads a clock; instants are arguments.

- `Duration.ofMillis?`: the duration nearest to a number of milliseconds;
- `Duration.text`: a duration in its largest whole unit;
- `Instant.add?`: a later instant, unless the clock ends before it;
- `Instant.since`: the time elapsed between two instants, none if they are out of order.
-/

namespace ToneLink

open Number

/-- A length of time. -/
structure Duration where
  nanos : Nat
  deriving DecidableEq, Repr

namespace Duration

/-- Nanoseconds in a second. -/
def nanosPerSecond : Nat := 1_000_000_000

/-- A duration of seconds and the nanoseconds past them. -/
def ofParts (seconds subsecond : Nat) : Duration := ⟨seconds * nanosPerSecond + subsecond⟩

/-- A whole number of seconds. -/
def seconds (n : Nat) : Duration := ofParts n 0

/-- A whole number of milliseconds. -/
def millis (n : Nat) : Duration := ⟨n * 1_000_000⟩

/-- Whole seconds of a duration. -/
def wholeSeconds (d : Duration) : Nat := d.nanos / nanosPerSecond

/-- Nanoseconds past the whole seconds. -/
def subsecond (d : Duration) : Nat := d.nanos % nanosPerSecond

/-- One more than the longest duration: seconds are counted in 64 bits. -/
def limit : Nat := UInt64.size * nanosPerSecond

/-- A duration as a real number of seconds: whole seconds plus the fraction, each rounded. -/
def toSeconds (d : Duration) : Float :=
  d.wholeSeconds.toUInt64.toFloat + d.subsecond.toUInt64.toFloat / 1e9

/-- The duration nearest to a number of seconds, a half going to the even nanosecond; `none` if
the number is negative, not a number or too long a time. -/
def ofSeconds? (seconds : Float) : Option Duration :=
  match Binary64.ofFloat seconds with
  | .finite negative m e =>
    if negative ∧ m ≠ 0 then none
    else
      let (num, den) := Binary64.scaled m e
      let nanos := roundDiv (num * nanosPerSecond) den .toEven
      if nanos < limit then some ⟨nanos⟩ else none
  | _ => none

/-- The duration nearest to a number of milliseconds. A number below zero, or no number at all,
counts as zero; `none` if the time is too long. -/
def ofMillis? (ms : Float) : Option Duration :=
  ofSeconds? ((if 0 < ms then ms else 0) / 1000)

/-- What is reported when a number is no duration. -/
def outOfRangeMessage : String :=
  "cannot convert float seconds to Duration: value is either too big or NaN"

/-- A quotient of units in decimal, without zeros at the end. -/
def unitsText (value perUnit places : Nat) (unit : String) : String :=
  let fraction := Nat.toDigits 10 (value % perUnit)
  let padded := List.replicate (places - fraction.length) '0' ++ fraction
  let kept := (padded.reverse.dropWhile (· = '0')).reverse
  let whole := String.ofList (Nat.toDigits 10 (value / perUnit))
  (if kept.isEmpty then whole else whole ++ "." ++ String.ofList kept) ++ unit

/-- A duration in the largest unit of which it holds at least one. -/
def text (d : Duration) : String :=
  if nanosPerSecond ≤ d.nanos then unitsText d.nanos nanosPerSecond 9 "s"
  else if 1_000_000 ≤ d.nanos then unitsText d.nanos 1_000_000 6 "ms"
  else if 1_000 ≤ d.nanos then unitsText d.nanos 1_000 3 "µs"
  else unitsText d.nanos 1 0 "ns"

end Duration

/-- A point on the monotonic clock, in nanoseconds from a fixed origin. -/
structure Instant where
  nanos : Int
  deriving DecidableEq, Repr

namespace Instant

/-- The first instant the clock cannot show: it counts signed 64-bit seconds. -/
def limit : Int := 0x8000000000000000 * Duration.nanosPerSecond

/-- The instant a duration later, if the clock still shows it. -/
def add? (t : Instant) (d : Duration) : Option Instant :=
  if t.nanos + d.nanos < limit then some ⟨t.nanos + d.nanos⟩ else none

/-- What is reported when the clock ends before the wanted instant. -/
def overflowMessage : String := "overflow when adding duration to instant"

/-- The time from `earlier` to `now`; nothing if `now` comes first. -/
def since (now earlier : Instant) : Duration := ⟨(now.nanos - earlier.nanos).toNat⟩

end Instant

end ToneLink
