import ToneLink.Schedule
import ToneLink.Proofs.PlanChecks

/-!
# The interval between packets

The frames of a packet and the interval between packets are rounded each on its own. What is checked
is the frames, and one frame of a fast stream lasts less than a nanosecond.

- `Schedule.deadlines`: the deadlines that are taken one after another;
- `SendPlan.seconds`: how long a packet lasts, as it is computed;
- `SendPlan.interval_of_checked`: every checked plan has an interval, and which intervals are zero;
- `SendPlan.interval_zero_at_highest_rate`: a checked plan that sends without a pause.
-/

namespace ToneLink

open Number

/-! ## Deadlines -/

namespace Schedule

/-- Takes deadlines one after another, `count` of them or up to the end of the clock. -/
def deadlines (s : Schedule) : Nat → List Instant
  | 0 => []
  | count + 1 =>
    match s.advance with
    | .ok (due, later) => due :: later.deadlines count
    | .error _ => []

/-- An advance takes the deadline that is due, and leaves one an interval later. -/
theorem advance_eq_ok {s later : Schedule} {due : Instant} (h : s.advance = .ok (due, later)) :
    due = s.next ∧ later.interval = s.interval ∧
      later.next.nanos = s.next.nanos + s.interval.nanos := by
  unfold advance Instant.add? at h
  split at h
  · rename_i next hnext
    cases h
    split at hnext
    · cases hnext
      exact ⟨rfl, rfl, rfl⟩
    · cases hnext
  · cases h

theorem le_of_mem_deadlines {s : Schedule} {count : Nat} {t : Instant} (h : t ∈ s.deadlines count) :
    s.next.nanos ≤ t.nanos := by
  induction count generalizing s with
  | zero => cases h
  | succ count ih =>
    unfold deadlines at h
    split at h
    · rename_i due later hadvance
      obtain ⟨rfl, -, hnext⟩ := advance_eq_ok hadvance
      rcases List.mem_cons.mp h with rfl | hlater
      · exact Int.le_refl _
      · have := ih hlater
        omega
    · cases h

/-- As long as the clock goes on there are deadlines. -/
theorem length_deadlines {s : Schedule} {count : Nat}
    (hclock : s.next.nanos + count * s.interval.nanos < Instant.limit) :
    (s.deadlines count).length = count := by
  induction count generalizing s with
  | zero => rfl
  | succ count ih =>
    have hsplit : ((count + 1 : Nat) : Int) * s.interval.nanos
        = count * s.interval.nanos + s.interval.nanos := by
      rw [Nat.cast_succ, Int.add_mul, Int.one_mul]
    have hmore : 0 ≤ (count : Int) * s.interval.nanos := by positivity
    have hadvance : s.advance
        = .ok (s.next, { s with next := ⟨s.next.nanos + s.interval.nanos⟩ }) := by
      rw [advance, Instant.add?, if_pos (by omega)]
    rw [deadlines, hadvance]
    refine congrArg Nat.succ (ih ?_)
    show s.next.nanos + s.interval.nanos + count * s.interval.nanos < Instant.limit
    omega

/-- With an interval the deadlines come one after another. -/
theorem pairwise_deadlines {s : Schedule} (hinterval : 0 < s.interval.nanos) (count : Nat) :
    (s.deadlines count).Pairwise fun a b => a.nanos < b.nanos := by
  induction count generalizing s with
  | zero => exact List.Pairwise.nil
  | succ count ih =>
    unfold deadlines
    split
    · rename_i due later hadvance
      obtain ⟨rfl, hsame, hnext⟩ := advance_eq_ok hadvance
      refine List.Pairwise.cons (fun t ht => ?_) (ih (hsame ▸ hinterval))
      have := le_of_mem_deadlines ht
      omega
    · exact List.Pairwise.nil

/-- Without an interval there is but one deadline. -/
theorem deadlines_of_interval_eq_zero {s : Schedule} (hinterval : s.interval.nanos = 0)
    (hclock : s.next.nanos < Instant.limit) (count : Nat) :
    s.deadlines count = List.replicate count s.next := by
  have hadvance : s.advance = .ok (s.next, s) := by
    have hstay : s.next.nanos + s.interval.nanos = s.next.nanos := by omega
    rw [advance, Instant.add?, hstay, if_pos hclock]
  induction count with
  | zero => rfl
  | succ count ih =>
    rw [deadlines, hadvance, List.replicate_succ]
    exact congrArg (List.cons s.next) ih

end Schedule

/-! ## Roundings -/

namespace Number

/-- A rounded quotient errs by at most one half. -/
theorem abs_roundDiv_sub_le (num : Nat) {den : Nat} (tie : Tie) (h : 0 < den) :
    |(roundDiv num den tie : ℚ) - num / den| ≤ 1 / 2 := by
  have hden : (0 : ℚ) < den := Nat.cast_pos.mpr h
  have hupper : (2 * den * roundDiv num den tie : ℚ) ≤ 2 * num + den := by
    exact_mod_cast roundDiv_le num den tie h
  have hlower : (2 * num : ℚ) ≤ 2 * den * roundDiv num den tie + den := by
    exact_mod_cast le_roundDiv num den tie h
  have hquotient : (num : ℚ) = num / den * den := (div_mul_cancel₀ _ hden.ne').symm
  generalize (num : ℚ) / den = q at hquotient ⊢
  rw [hquotient] at hupper hlower
  rw [abs_le]
  constructor
  · nlinarith
  · nlinarith

namespace Binary64

theorem scaled_eq (m : Nat) (e : Int) : ((scaled m e).1 : ℚ) / (scaled m e).2 = magnitude m e := by
  cases e with
  | ofNat k =>
    show ((m * 2 ^ k : Nat) : ℚ) / (1 : Nat) = m * 2 ^ (Int.ofNat k)
    rw [Nat.cast_one, div_one, Nat.cast_mul, Nat.cast_pow, Int.ofNat_eq_natCast, zpow_natCast]
    rfl
  | negSucc k =>
    show (m : ℚ) / (2 ^ (k + 1) : Nat) = m * 2 ^ (Int.negSucc k)
    rw [zpow_negSucc, Nat.cast_pow, div_eq_mul_inv]
    rfl

/-- A count that is not cut off is the nearest one. -/
theorem abs_wholeCount_sub_le {m : Nat} {e : Int}
    (h : (finite false m e).wholeCount < maxWord) :
    |((finite false m e).wholeCount : ℚ) - magnitude m e| ≤ 1 / 2 := by
  have hcount : (finite false m e).wholeCount
      = min maxWord (roundDiv (scaled m e).1 (scaled m e).2 .up) := rfl
  have hround : (finite false m e).wholeCount = roundDiv (scaled m e).1 (scaled m e).2 .up := by
    omega
  rw [hround, ← scaled_eq]
  exact abs_roundDiv_sub_le _ _ (scaled_den_pos m e)

end Binary64

end Number

/-! ## Durations -/

/-- A number of seconds that is neither negative nor too large makes a duration, and the duration is
zero if half a nanosecond is not exceeded. -/
theorem Duration.ofSeconds?_eq_some {seconds : Float} {m : Nat} {e : Int}
    (h : Binary64.ofFloat seconds = .finite false m e)
    (hsmall : Binary64.magnitude m e ≤ 2 ^ 63) :
    ∃ d, Duration.ofSeconds? seconds = some d ∧
      (0 < d.nanos ↔ 1 < 2 * (Binary64.magnitude m e * 10 ^ 9)) := by
  have hden := Binary64.scaled_den_pos m e
  have hvalue := Binary64.scaled_eq m e
  cases hscaled : Binary64.scaled m e with
  | mk num den =>
    rw [hscaled] at hden hvalue
    dsimp only at hden hvalue
    have hseconds : (nanosPerSecond : ℚ) = 10 ^ 9 := by
      rw [nanosPerSecond]
      norm_num
    have hlimit : (limit : ℚ) = 2 ^ 64 * 10 ^ 9 := by
      rw [limit, nanosPerSecond, UInt64.size]
      norm_num
    have hnear := abs_roundDiv_sub_le (num * nanosPerSecond) .toEven hden
    have hzero : roundDiv (num * nanosPerSecond) den .toEven = 0 ↔ _ :=
      roundDiv_toEven_eq_zero_iff hden
    rw [Nat.cast_mul, hseconds, mul_div_right_comm, hvalue] at hnear
    -- half a nanosecond more than the exact number is still in range
    have hfits : roundDiv (num * nanosPerSecond) den .toEven < limit := by
      have hupper := (abs_le.mp hnear).2
      have hcast : (roundDiv (num * nanosPerSecond) den .toEven : ℚ) < limit := by
        rw [hlimit]
        linarith
      exact_mod_cast hcast
    refine ⟨⟨roundDiv (num * nanosPerSecond) den .toEven⟩, ?_, ?_⟩
    · simp only [ofSeconds?, h, hscaled, Bool.false_eq_true, false_and, if_false, if_pos hfits]
    · have hhalf : (1 : ℚ) < 2 * (Binary64.magnitude m e * 10 ^ 9)
          ↔ (den : ℚ) < 2 * (num * nanosPerSecond) := by
        rw [← hvalue, hseconds, div_mul_eq_mul_div, mul_div_assoc',
          one_lt_div (Nat.cast_pos.mpr hden)]
      rw [hhalf]
      have hpos := Nat.pos_iff_ne_zero.trans ((not_congr hzero).trans Nat.not_le)
      exact hpos.trans (by exact_mod_cast Iff.rfl)

/-! ## Frames -/

/-- The frames of some time are near the exact product of rate and seconds. -/
theorem PcmFormat.framesForMillis_near {f : PcmFormat} (hrate : 0 < f.sampleRate.toNat)
    {ms : Float} (hfinite : ms.isFinite) (hpos : 0 < ms)
    (hcount : f.framesForMillis ms < Binary64.maxWord) :
    ∃ m e, Binary64.ofFloat (ms / 1000) = .finite false m e ∧
      |(f.framesForMillis ms : ℚ) - f.sampleRate.toNat * Binary64.magnitude m e|
        ≤ 1 / 2 + Binary64.lastPlace (f.sampleRate.toNat * Binary64.magnitude m e) := by
  obtain ⟨negative, n, d, hms⟩ := Binary64.exists_of_isFinite hfinite
  obtain ⟨rfl, hn⟩ := (Binary64.pos_iff hms).mp hpos
  have hthousand : Binary64.ofFloat 1000 = .finite false 8796093022208000 (-43) := rfl
  obtain ⟨a, b, ha, hfloat, hexact⟩ := Binary64.ofFloat_toFloat hrate
  -- what is infinite counts as the largest number
  have hnot : Binary64.ofFloat (f.sampleRate.toFloat * (ms / 1000)) ≠ .infinite false := by
    intro h
    rw [framesForMillis, h] at hcount
    exact Nat.lt_irrefl _ hcount
  rcases Binary64.ofFloat_div hms hn hthousand (by decide) with hinfinite | ⟨m, e, hseconds⟩
  · exact absurd (Binary64.ofFloat_mul_infinite hfloat ha hinfinite) hnot
  · refine ⟨m, e, hseconds, ?_⟩
    rcases Binary64.ofFloat_mul hfloat hseconds with hinfinite | ⟨r, t, hproduct, hnear⟩
    · exact absurd hinfinite hnot
    · rw [hexact] at hnear
      have hframes : f.framesForMillis ms = (Binary64.finite false r t).wholeCount := by
        rw [framesForMillis, hproduct]
      rw [hframes] at hcount ⊢
      exact (abs_sub_le _ (Binary64.magnitude r t) _).trans
        (add_le_add (Binary64.abs_wholeCount_sub_le hcount) hnear)

/-! ## The interval of a sender -/

namespace SendPlan

/-- The seconds that a packet lasts, as they are computed. -/
def seconds (p : SendPlan) : ℚ := (Binary64.ofFloat (p.packetMillis / 1000)).value

section Bounds

variable {frames rate : Nat} {q : ℚ}

/-- So few frames do not last too long. -/
theorem seconds_le (hrate : 0 < rate) (hq : 0 ≤ q) (hframes : frames ≤ 32747)
    (hnear : |(frames : ℚ) - rate * q| ≤ 1 / 2 + Binary64.lastPlace (rate * q)) : q ≤ 2 ^ 63 := by
  have hone : (1 : ℚ) ≤ rate := by exact_mod_cast hrate
  have hmore : q ≤ rate * q := le_mul_of_one_le_left hq hone
  -- rounding hides but a small part of the product
  have hplace := Binary64.lastPlace_le (hq.trans hmore)
  have hcount : (frames : ℚ) ≤ 32747 := by exact_mod_cast hframes
  have hlow := (abs_le.mp hnear).1
  linarith

/-- Below a gigahertz, even half a frame is more than half a nanosecond. -/
theorem half_nano_lt (hrate : rate < 10 ^ 9) (hq : 0 ≤ q) (hframes : 1 ≤ frames)
    (hnear : |(frames : ℚ) - rate * q| ≤ 1 / 2 + Binary64.lastPlace (rate * q)) :
    1 < 2 * (q * 10 ^ 9) := by
  have hslow : (rate : ℚ) ≤ 10 ^ 9 - 1 := by
    have hsucc : rate + 1 ≤ 10 ^ 9 := hrate
    have hcast : (rate : ℚ) + 1 ≤ 10 ^ 9 := by exact_mod_cast hsucc
    linarith
  have hfew : rate * q ≤ (10 ^ 9 - 1) * q := mul_le_mul_of_nonneg_right hslow hq
  -- what the rate is short of a gigahertz outweighs the rounding
  have hplace := Binary64.lastPlace_le (mul_nonneg (Nat.cast_nonneg rate) hq)
  have hcount : (1 : ℚ) ≤ frames := by exact_mod_cast hframes
  have hhigh := (abs_le.mp hnear).2
  linarith

end Bounds

/-- **Every sender has an interval**, and which intervals are zero. No number that passes the checks
makes too long a time. The interval is positive if the seconds exceed half a nanosecond, which they
always do below a gigahertz. Up to the end of the clock there are deadlines; they are strictly
increasing if the interval is positive, and otherwise all the same. -/
theorem interval_of_checked {frequency amplitude : Float} {sampleRate channels : Int}
    {packetMillis : Float} {p : SendPlan}
    (h : check frequency amplitude sampleRate channels packetMillis = .ok p) :
    ∃ d, p.interval? = some d ∧ (0 < d.nanos ↔ 1 < 2 * (p.seconds * 10 ^ 9)) ∧
      (sampleRate < 10 ^ 9 → 0 < d.nanos) ∧
      (∀ start (count : Nat), start.nanos + count * d.nanos < Instant.limit →
        ((Schedule.startingAt d start).deadlines count).length = count) ∧
      (0 < d.nanos → ∀ start count,
        ((Schedule.startingAt d start).deadlines count).Pairwise fun a b => a.nanos < b.nanos) ∧
      (d.nanos = 0 → ∀ start count, start.nanos < Instant.limit →
        (Schedule.startingAt d start).deadlines count = List.replicate count start) := by
  have hchecked := checked_of_ok h
  have hcount := hchecked.framesPerPacket_le
  have hrate := hchecked.format.sampleRate_pos
  rw [check_eq] at h
  obtain ⟨haccepted, rfl⟩ := decideBy_eq_ok_iff.mp h
  obtain ⟨hrange, hfinite, hpos, hframes, -⟩ := firstRefusal_refusals.mp haccepted
  have hword : (PcmFormat.ofNumbers sampleRate channels).framesForMillis packetMillis
      < Binary64.maxWord := Nat.lt_of_le_of_lt hcount (by decide)
  obtain ⟨m, e, hseconds, hnear⟩ := PcmFormat.framesForMillis_near hrate hfinite hpos hword
  have hq := Binary64.magnitude_nonneg m e
  obtain ⟨d, hd, hnanos⟩ := Duration.ofSeconds?_eq_some hseconds (seconds_le hrate hq hcount hnear)
  refine ⟨d, ?_, ?_, ?_, ?_, ?_, ?_⟩
  · -- a positive duration is divided as it is
    rw [interval?, Duration.ofMillis?, if_pos hpos]
    exact hd
  · rw [hnanos, seconds, hseconds]
    rfl
  · intro hslow
    have hrate_eq := hrange.sampleRate_eq
    have hrate_lt : (PcmFormat.ofNumbers sampleRate channels).sampleRate.toNat < 10 ^ 9 := by omega
    exact hnanos.mpr (half_nano_lt hrate_lt hq hframes hnear)
  · intro start count hclock
    exact Schedule.length_deadlines hclock
  · intro hinterval start count
    exact Schedule.pairwise_deadlines hinterval count
  · intro hinterval start count hclock
    exact Schedule.deadlines_of_interval_eq_zero hinterval hclock count

/-- The default tone has an interval, and its deadlines never fall together. -/
theorem interval_of_checked_default :
    ∃ p d, check 1000 0.8 44100 1 20 = .ok p ∧ p.interval? = some d ∧ 0 < d.nanos ∧
      ∀ count, ((Schedule.startingAt d ⟨0⟩).deadlines count).Pairwise
        fun a b => a.nanos < b.nanos := by
  have hmade : (check 1000 0.8 44100 1 20).isOk = true := by decide +kernel
  cases hok : check 1000 0.8 44100 1 20 with
  | error e =>
    rw [hok] at hmade
    cases hmade
  | ok p =>
    obtain ⟨d, hinterval, -, hslow, -, hincreasing, -⟩ := interval_of_checked hok
    have hpos := hslow (by decide)
    exact ⟨p, d, rfl, hinterval, hpos, hincreasing hpos ⟨0⟩⟩

/-- One frame at the highest rate is made, and its packets are sent without a pause. -/
theorem interval_zero_at_highest_rate :
    ∃ p, check 1000 0.8 4294967295 1 1.2e-7 = .ok p ∧ p.framesPerPacket = 1 ∧
      p.interval? = some ⟨0⟩ ∧ ∀ start count, start.nanos < Instant.limit →
        (Schedule.startingAt ⟨0⟩ start).deadlines count = List.replicate count start := by
  have hplan : (check 1000 0.8 4294967295 1 1.2e-7).toOption.map
      (fun p => (p.framesPerPacket, p.interval?)) = some (1, some ⟨0⟩) := by decide +kernel
  cases hok : check 1000 0.8 4294967295 1 1.2e-7 with
  | error e =>
    rw [hok] at hplan
    cases hplan
  | ok p =>
    rw [hok] at hplan
    obtain ⟨hframes, hinterval⟩ := Prod.mk.inj (Option.some.inj hplan)
    exact ⟨p, rfl, hframes, hinterval, fun start count hclock =>
      Schedule.deadlines_of_interval_eq_zero rfl hclock count⟩

end SendPlan

end ToneLink
