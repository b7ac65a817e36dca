import Mathlib.Algebra.Ring.Int.Defs
import Mathlib.Data.Int.Cast.Lemmas
import Mathlib.Tactic.Positivity
import Mathlib.Tactic.Ring
import ToneLink.Schedule

/-!
# Pacing without drift

A pacer adds its interval to the last deadline again and again. It looks at no clock, so nothing
that happens between two calls can move a deadline, and the deadlines are those of one
multiplication, up to the end of the clock. A clock that keeps seconds and nanoseconds apart carries
at many of these additions, and that changes nothing either.

- `Schedule.Call`, `Schedule.call`: the two ways to take a deadline, at any time;
- `ClockReading`, `ClockReading.add?`: a clock in parts, and its addition with carry;
- `ClockReading.map_add?`, `ClockReading.map_addMany?`: to add in parts is to add nanoseconds;
- `Schedule.Paced`: the invariant. The schedule stands at the deadline of the next call, or has
  stopped before one that the clock cannot show;
- `Schedule.calls_do_not_drift`: the law of all calls.
-/

namespace ToneLink

/-! ## Calls -/

namespace Schedule

/-- A call on a schedule. The clock may show anything when it is made. -/
inductive Call
  /-- Takes the deadline that is due and returns. -/
  | advance (now : Instant)
  /-- Takes the deadline that is due and sleeps until then; the sleep may end late. -/
  | wait (now : Instant) (late : Duration)
  deriving DecidableEq, Repr

/-- When a call returns that has taken a deadline. A wait that comes late does not sleep. -/
def Call.returns (due : Instant) : Call → Instant
  | .advance now => now
  | .wait now late => if due.nanos ≤ now.nanos then now else ⟨due.nanos + late.nanos⟩

/-- No wait returns before its deadline. -/
theorem Call.le_returns_wait (due now : Instant) (late : Duration) :
    due.nanos ≤ ((wait now late).returns due).nanos := by
  simp only [returns]
  by_cases hcame : due.nanos ≤ now.nanos
  · rw [if_pos hcame]
    exact hcame
  · rw [if_neg hcame]
    exact Int.le_add_of_nonneg_right (Int.natCast_nonneg _)

/-- What a call came to. -/
structure Turn where
  /-- The deadline that was due. -/
  due : Instant
  returned : Instant
  deriving DecidableEq, Repr

/-- Makes a call. One that finds no further deadline fails and changes nothing. -/
def call (s : Schedule) (c : Call) : Except ClockOverflow Turn × Schedule :=
  match s.advance with
  | .ok (due, later) => (.ok ⟨due, c.returns due⟩, later)
  | .error e => (.error e, s)

/-- The schedule after some calls. -/
def after (s : Schedule) (calls : List Call) : Schedule :=
  calls.foldl (fun s c => (s.call c).2) s

/-- The schedule at the next deadline. -/
def later (s : Schedule) : Schedule := { s with next := ⟨s.next.nanos + s.interval.nanos⟩ }

theorem call_of_lt {s : Schedule} (h : s.later.next.nanos < Instant.limit) (c : Call) :
    s.call c = (.ok ⟨s.next, c.returns s.next⟩, s.later) := by
  have hadd : s.next.add? s.interval = some s.later.next := if_pos h
  simp only [call, advance, hadd]
  rfl

theorem call_of_le {s : Schedule} (h : Instant.limit ≤ s.later.next.nanos) (c : Call) :
    s.call c = (.error .deadline, s) := by
  have hadd : s.next.add? s.interval = none := if_neg (Int.not_lt.mpr h)
  simp only [call, advance, hadd]

end Schedule

/-! ## A clock in parts -/

/-- A reading of the clock as it is kept: seconds in a signed 64-bit word, and the nanoseconds past
them. -/
structure ClockReading where
  seconds : Int64
  subsecond : Nat
  subsecond_lt : subsecond < Duration.nanosPerSecond
  deriving DecidableEq, Repr

namespace ClockReading

/-- The instant that a reading shows. -/
def instant (r : ClockReading) : Instant :=
  ⟨r.seconds.toInt * Duration.nanosPerSecond + r.subsecond⟩

/-- A reading of some seconds and nanoseconds, if a word holds the seconds. -/
def ofParts? (seconds : Int) (subsecond : Nat) (h : subsecond < Duration.nanosPerSecond) :
    Option ClockReading :=
  if -2 ^ 63 ≤ seconds ∧ seconds < 2 ^ 63 then some ⟨Int64.ofInt seconds, subsecond, h⟩ else none

/-- Nanoseconds past the second that two parts come to. -/
theorem carried_lt (r : ClockReading) (d : Duration) :
    r.subsecond + d.subsecond - Duration.nanosPerSecond < Duration.nanosPerSecond := by
  have hr := r.subsecond_lt
  have hd : d.subsecond < Duration.nanosPerSecond := Nat.mod_lt _ (by decide)
  omega

/-- Adds seconds to seconds and nanoseconds to nanoseconds. If the latter come to a second it is
carried over. There is no reading as soon as the seconds do not fit, before the carry or after. -/
def add? (r : ClockReading) (d : Duration) : Option ClockReading :=
  let seconds := r.seconds.toInt + d.wholeSeconds
  if h : r.subsecond + d.subsecond < Duration.nanosPerSecond then
    ofParts? seconds (r.subsecond + d.subsecond) h
  else
    (ofParts? seconds (r.subsecond + d.subsecond - Duration.nanosPerSecond)
      (carried_lt r d)).bind fun r => ofParts? (r.seconds.toInt + 1) r.subsecond r.subsecond_lt

/-- Adds a duration `count` times. -/
def addMany? (r : ClockReading) (d : Duration) : Nat → Option ClockReading
  | 0 => some r
  | count + 1 => (r.add? d).bind fun r => r.addMany? d count

/-- Before the end of the clock is where the seconds fit. -/
theorem lt_limit_iff {seconds : Int} {subsecond : Nat} (h : subsecond < Duration.nanosPerSecond) :
    seconds * Duration.nanosPerSecond + subsecond < Instant.limit ↔ seconds < 2 ^ 63 := by
  simp only [Instant.limit, Duration.nanosPerSecond] at *
  omega

/-- Every reading is before the end of the clock. -/
theorem instant_lt (r : ClockReading) : r.instant.nanos < Instant.limit :=
  (lt_limit_iff r.subsecond_lt).mpr r.seconds.toInt_lt

/-- The parts of an instant that is not too early make a reading exactly before the end of the
clock. -/
theorem map_ofParts? {seconds : Int} (hlow : -2 ^ 63 ≤ seconds) {subsecond : Nat}
    (h : subsecond < Duration.nanosPerSecond) :
    (ofParts? seconds subsecond h).map instant
      = if seconds * Duration.nanosPerSecond + subsecond < Instant.limit
        then some ⟨seconds * Duration.nanosPerSecond + subsecond⟩ else none := by
  by_cases hfits : seconds < 2 ^ 63
  · rw [ofParts?, if_pos ⟨hlow, hfits⟩, if_pos ((lt_limit_iff h).mpr hfits), Option.map_some,
      instant, Int64.toInt_ofInt_of_le hlow hfits]
  · rw [ofParts?, if_neg fun hboth => hfits hboth.2,
      if_neg fun hlt => hfits ((lt_limit_iff h).mp hlt)]
    rfl

/-- A duration is its whole seconds and the nanoseconds past them. -/
theorem nanos_eq_parts (d : Duration) :
    (d.nanos : Int) = d.wholeSeconds * Duration.nanosPerSecond + d.subsecond := by
  have hsplit := Nat.div_add_mod' d.nanos Duration.nanosPerSecond
  exact_mod_cast hsplit.symm

/-- **To add in parts is to add nanoseconds**, and the parts fail just at the end of the clock. -/
theorem map_add? (r : ClockReading) (d : Duration) :
    (r.add? d).map instant = r.instant.add? d := by
  have hlow := r.seconds.le_toInt
  have hparts := nanos_eq_parts d
  by_cases hcarry : r.subsecond + d.subsecond < Duration.nanosPerSecond
  · have hsum : r.instant.nanos + d.nanos = (r.seconds.toInt + d.wholeSeconds)
        * Duration.nanosPerSecond + (r.subsecond + d.subsecond : Nat) := by
      rw [instant, hparts]
      push_cast
      ring
    rw [add?, dif_pos hcarry, map_ofParts? (by omega), ← hsum]
    rfl
  · have hsum : r.instant.nanos + d.nanos = (r.seconds.toInt + d.wholeSeconds + 1)
        * Duration.nanosPerSecond
          + (r.subsecond + d.subsecond - Duration.nanosPerSecond : Nat) := by
      rw [instant, hparts, Nat.cast_sub (Nat.le_of_not_lt hcarry)]
      push_cast
      ring
    by_cases hfits : r.seconds.toInt + d.wholeSeconds < 2 ^ 63
    · rw [add?, dif_neg hcarry, ofParts?, if_pos ⟨by omega, hfits⟩, Option.bind_some]
      show (ofParts? ((Int64.ofInt _).toInt + 1) _ _).map instant = _
      rw [map_ofParts?, Int64.toInt_ofInt_of_le (by omega) hfits, ← hsum]
      · rfl
      · rw [Int64.toInt_ofInt_of_le (by omega) hfits]
        omega
    · -- seconds that do not fit before the carry do not fit after it
      rw [add?, dif_neg hcarry, ofParts?, if_neg fun hboth => hfits hboth.2]
      have hend : ¬ r.instant.nanos + d.nanos < Instant.limit := by
        rw [hsum, lt_limit_iff (carried_lt r d)]
        omega
      exact (if_neg hend).symm

/-- To add a duration in parts many times is to add a multiple of it. -/
theorem map_addMany? (r : ClockReading) (d : Duration) (count : Nat) :
    (r.addMany? d count).map instant
      = if r.instant.nanos + count * d.nanos < Instant.limit
        then some ⟨r.instant.nanos + count * d.nanos⟩ else none := by
  induction count generalizing r with
  | zero =>
    have hstay : r.instant.nanos + (0 : Nat) * d.nanos = r.instant.nanos := by simp
    rw [hstay, if_pos r.instant_lt]
    rfl
  | succ count ih =>
    have hmultiple : r.instant.nanos + (count + 1 : Nat) * d.nanos
        = r.instant.nanos + d.nanos + count * d.nanos := by
      push_cast
      ring
    have hadd := map_add? r d
    rw [hmultiple, addMany?]
    cases hnext : r.add? d with
    | none =>
      rw [hnext, Instant.add?] at hadd
      have hend : ¬ r.instant.nanos + d.nanos < Instant.limit := by
        intro hlt
        rw [if_pos hlt] at hadd
        cases hadd
      have hmore : 0 ≤ (count : Int) * d.nanos := by positivity
      rw [if_neg (by omega)]
      rfl
    | some next =>
      rw [hnext, Instant.add?] at hadd
      have hinstant : next.instant.nanos = r.instant.nanos + d.nanos := by
        split at hadd
        · exact congrArg Instant.nanos (Option.some.inj hadd)
        · cases hadd
      rw [Option.bind_some, ih next, hinstant]

end ClockReading

/-! ## Runs of calls -/

namespace Schedule

/-- The deadline at a place of a schedule, as an exact number. -/
def deadlineAt (start : Instant) (interval : Duration) (place : Nat) : Int :=
  start.nanos + place * interval.nanos

section Runs

variable {start : Instant} {interval : Duration} {place : Nat}

theorem deadlineAt_succ : deadlineAt start interval (place + 1)
    = deadlineAt start interval place + interval.nanos := by
  unfold deadlineAt
  push_cast
  ring

/-- The invariant of a pacer: it stands at the deadline of its place, or it has stopped before one
that the clock cannot show. -/
structure Paced (start : Instant) (interval : Duration) (place : Nat) (s : Schedule) : Prop where
  interval_eq : s.interval = interval
  next_eq : deadlineAt start interval place < Instant.limit →
    s.next.nanos = deadlineAt start interval place
  stopped : Instant.limit ≤ deadlineAt start interval place → Instant.limit ≤ s.later.next.nanos

/-- A pacer can go on exactly as long as the clock shows the deadline after the one that is due. -/
theorem Paced.call_cases {s : Schedule} (h : Paced start interval place s) (c : Call) :
    (deadlineAt start interval (place + 1) < Instant.limit ∧
        s.next.nanos = deadlineAt start interval place ∧
        s.call c = (.ok ⟨s.next, c.returns s.next⟩, s.later)) ∨
      (Instant.limit ≤ deadlineAt start interval (place + 1) ∧
        s.call c = (.error .deadline, s)) := by
  have hlater : s.later.next.nanos = s.next.nanos + interval.nanos := by
    rw [later, h.interval_eq]
  rw [deadlineAt_succ]
  rcases Int.lt_or_le (deadlineAt start interval place) Instant.limit with hshown | hend
  · have hdue := h.next_eq hshown
    rcases Int.lt_or_le s.later.next.nanos Instant.limit with hlt | hle
    · left
      exact ⟨by omega, hdue, call_of_lt hlt c⟩
    · right
      exact ⟨by omega, call_of_le hle c⟩
  · right
    exact ⟨by omega, call_of_le (h.stopped hend) c⟩

/-- Whatever call is made and whenever, the pacer stands at the next place. -/
theorem Paced.call {s : Schedule} (h : Paced start interval place s) (c : Call) :
    Paced start interval (place + 1) (s.call c).2 := by
  have hlater : s.later.next.nanos = s.next.nanos + interval.nanos := by
    rw [later, h.interval_eq]
  rcases h.call_cases c with ⟨hnext, hdue, hcall⟩ | ⟨hend, hcall⟩
  · rw [hcall]
    refine { interval_eq := h.interval_eq, next_eq := ?_, stopped := ?_ }
    · intro _
      rw [deadlineAt_succ, ← hdue]
      exact hlater
    · intro hend
      exact absurd hnext (Int.not_lt.mpr hend)
  · rw [hcall]
    refine { interval_eq := h.interval_eq, next_eq := ?_, stopped := ?_ }
    · intro hnext
      exact absurd hnext (Int.not_lt.mpr hend)
    · intro _
      -- either it had stopped before, or it stops here
      rcases Int.lt_or_le (deadlineAt start interval place) Instant.limit with hshown | hbefore
      · rw [deadlineAt_succ, ← h.next_eq hshown] at hend
        rw [hlater]
        exact hend
      · exact h.stopped hbefore

theorem Paced.after {s : Schedule} (h : Paced start interval place s) (calls : List Call) :
    Paced start interval (place + calls.length) (s.after calls) := by
  induction calls generalizing s place with
  | nil => exact h
  | cons c rest ih =>
    rw [List.length_cons, Nat.add_comm rest.length, ← Nat.add_assoc]
    exact ih (h.call c)

theorem startingAt_paced (hstart : start.nanos < Instant.limit) :
    Paced start interval 0 (startingAt interval start) := by
  have hzero : deadlineAt start interval 0 = start.nanos := by simp [deadlineAt]
  refine { interval_eq := rfl, next_eq := fun _ => hzero.symm, stopped := ?_ }
  intro hend
  omega

end Runs

/-- **Pacing does not drift.** For every start, every interval and every mix of calls made at any
times, the `k`-th call is due `k` intervals after the start and leaves a deadline one interval
later; a wait returns no sooner than it is due, and at once if it comes late. The call succeeds
exactly if the clock still shows the deadline it is to leave. Otherwise it reports the end of the
clock, although the deadline it was to take may be shown, and leaves the schedule as it was. A clock
that keeps seconds and nanoseconds apart, and carries at every addition, shows the same deadlines
and ends at the same one. -/
theorem calls_do_not_drift (start : ClockReading) (interval : Duration) (calls : List Call)
    (k : Nat) (hk : k < calls.length) :
    let deadline (i : Nat) : Int := start.instant.nanos + i * interval.nanos
    let before := (startingAt interval start.instant).after (calls.take k)
    let result := (before.call calls[k]).1
    let later := (before.call calls[k]).2
    later = (startingAt interval start.instant).after (calls.take (k + 1)) ∧
    (deadline k < 2 ^ 63 * 10 ^ 9 → before.next.nanos = deadline k) ∧
    ((∃ turn, result = .ok turn) ↔ deadline (k + 1) < 2 ^ 63 * 10 ^ 9) ∧
    (∀ turn, result = .ok turn → turn.due.nanos = deadline k ∧
      later.next.nanos = deadline (k + 1) ∧
      ∀ now late, calls[k] = .wait now late → deadline k ≤ turn.returned.nanos ∧
        (deadline k ≤ now.nanos → turn.returned = now)) ∧
    (∀ e, result = .error e → e.message = "overflow when adding duration to instant" ∧
      later = before) ∧
    (start.addMany? interval (k + 1)).map (fun r => r.instant.nanos)
      = if deadline (k + 1) < 2 ^ 63 * 10 ^ 9 then some (deadline (k + 1)) else none := by
  intro deadline before result later
  have hlimit : Instant.limit = 2 ^ 63 * 10 ^ 9 := rfl
  have hbefore : Paced start.instant interval k before := by
    have hstart : Paced start.instant interval 0 (startingAt interval start.instant) :=
      startingAt_paced start.instant_lt
    have hpaced := hstart.after (calls.take k)
    rwa [Nat.zero_add, List.length_take, Nat.min_eq_left (Nat.le_of_lt hk)] at hpaced
  have hlater : later = (startingAt interval start.instant).after (calls.take (k + 1)) := by
    show _ = List.foldl _ _ (calls.take (k + 1))
    rw [List.take_succ_eq_append_getElem hk, List.foldl_append]
    rfl
  have hparts : (start.addMany? interval (k + 1)).map (fun r => r.instant.nanos)
      = if deadline (k + 1) < Instant.limit then some (deadline (k + 1)) else none := by
    have hinstants := congrArg (Option.map Instant.nanos) (start.map_addMany? interval (k + 1))
    rw [Option.map_map] at hinstants
    refine hinstants.trans ?_
    split <;> rfl
  rw [← hlimit]
  refine ⟨hlater, hbefore.next_eq, ?_⟩
  rcases hbefore.call_cases calls[k] with ⟨hnext, hdue, hcall⟩ | ⟨hend, hcall⟩
  · have hresult : result = .ok ⟨before.next, calls[k].returns before.next⟩ :=
      congrArg Prod.fst hcall
    refine ⟨?_, ?_, ?_, hparts⟩
    · exact iff_of_true ⟨_, hresult⟩ hnext
    · intro turn hok
      rw [hresult] at hok
      cases hok
      refine ⟨hdue, (hbefore.call calls[k]).next_eq hnext, ?_⟩
      intro now late hwait
      rw [hwait]
      constructor
      · exact Int.le_trans (Int.le_of_eq hdue.symm) (Call.le_returns_wait before.next now late)
      · intro hcame
        exact if_pos (Int.le_trans (Int.le_of_eq hdue) hcame)
    · intro e herror
      rw [hresult] at herror
      cases herror
  · have hresult : result = .error .deadline := congrArg Prod.fst hcall
    refine ⟨?_, ?_, ?_, hparts⟩
    · refine iff_of_false ?_ (Int.not_lt.mpr hend)
      rintro ⟨turn, hok⟩
      rw [hresult] at hok
      cases hok
    · intro turn hok
      rw [hresult] at hok
      cases hok
    · intro e _
      exact ⟨rfl, congrArg Prod.snd hcall⟩

/-- Three seconds before the end of the clock, with an interval of a second and a half: the first
call leaves the last deadline that the clock shows, and the second one, which is due then, fails. -/
theorem calls_do_not_drift_at_end_of_clock :
    let start : ClockReading := ⟨0x7FFFFFFFFFFFFFFD, 0, by decide⟩
    let calls : List Call := [.wait ⟨0⟩ ⟨7⟩, .advance ⟨5⟩]
    let first := (startingAt (.ofParts 1 500_000_000) start.instant).after (calls.take 1)
    1 < calls.length ∧ first.next.nanos = 9223372036854775806_500_000_000 ∧
      (first.call (.advance ⟨5⟩)).2 = first ∧
      ¬ ∃ turn, (first.call (.advance ⟨5⟩)).1 = .ok turn := by
  intro start calls first
  have hk : 1 < calls.length := by decide
  obtain ⟨-, hdue, hgoes, -, -, -⟩ :=
    calls_do_not_drift start (.ofParts 1 500_000_000) calls 1 hk
  refine ⟨hk, ?_, by decide, ?_⟩
  · rw [hdue (by decide)]
    decide
  · intro hok
    exact absurd (hgoes.mp hok) (by decide)

end Schedule

end ToneLink
