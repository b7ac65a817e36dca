import ToneLink.Duration

/-!
# Pacing

Packets are due at fixed intervals. Each deadline follows from the one before it and never from the
present moment, so being late with one packet does not delay the ones after it.

- `Schedule.advance`: the deadline that is due, and the schedule after it.
-/

namespace ToneLink

/-- The clock ends before the next deadline. -/
inductive ClockOverflow
  | deadline
  deriving DecidableEq, Repr

/-- What is reported when the clock ends. -/
def ClockOverflow.message (_ : ClockOverflow) : String := Instant.overflowMessage

/-- A fixed interval and the next deadline. -/
structure Schedule where
  interval : Duration
  next : Instant
  deriving DecidableEq, Repr

namespace Schedule

/-- A schedule whose first deadline is `start`. -/
def startingAt (interval : Duration) (start : Instant) : Schedule := ⟨interval, start⟩

/-- Takes the deadline that is due and schedules the one after it. Waiting until a deadline advances
the schedule in the same way. -/
def advance (s : Schedule) : Except ClockOverflow (Instant × Schedule) :=
  match s.next.add? s.interval with
  | some later => .ok (s.next, { s with next := later })
  | none => .error .deadline

end Schedule

end ToneLink
