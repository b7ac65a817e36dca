/-!
# Rounding a quotient to a whole number

One function rounds every exact quotient of this library: durations to nanoseconds, frame counts
to whole frames, decimal text to a fixed number of places.

- `roundDiv n d tie`: the whole number nearest to `n / d`, a half going where `tie` says;
- `roundDiv_le`, `le_roundDiv`: the answer is never more than half a unit away.
-/

namespace ToneLink.Number

/-- Where a quotient goes that lies exactly halfway between two whole numbers. -/
inductive Tie
  /-- To the larger neighbour. -/
  | up
  /-- To the even neighbour. -/
  | toEven
  deriving DecidableEq, Repr

/-- The whole number nearest to `num / den`. -/
def roundDiv (num den : Nat) (tie : Tie) : Nat :=
  let quotient := num / den
  let twice := 2 * (num % den)
  if twice < den then quotient
  else if den < twice then quotient + 1
  else match tie with
    | .up => quotient + 1
    | .toEven => if quotient % 2 = 0 then quotient else quotient + 1

/-- The rounded quotient exceeds the exact one by at most one half. -/
theorem roundDiv_le (num den : Nat) (tie : Tie) (h : 0 < den) :
    2 * den * roundDiv num den tie ≤ 2 * num + den := by
  have hd : den * (num / den) + num % den = num := Nat.div_add_mod num den
  have hs : 2 * den * (num / den) = 2 * (den * (num / den)) := by rw [Nat.mul_assoc]
  have hu : 2 * den * (num / den + 1) = 2 * (den * (num / den)) + 2 * den := by
    rw [Nat.mul_add, hs, Nat.mul_one]
  simp only [roundDiv]
  split
  · omega
  · split
    · omega
    · cases tie with
      | up => simp only; omega
      | toEven => simp only; split <;> omega

/-- The rounded quotient falls short of the exact one by at most one half. -/
theorem le_roundDiv (num den : Nat) (tie : Tie) (h : 0 < den) :
    2 * num ≤ 2 * den * roundDiv num den tie + den := by
  have hd : den * (num / den) + num % den = num := Nat.div_add_mod num den
  have hm : num % den < den := Nat.mod_lt _ h
  have hs : 2 * den * (num / den) = 2 * (den * (num / den)) := by rw [Nat.mul_assoc]
  have hu : 2 * den * (num / den + 1) = 2 * (den * (num / den)) + 2 * den := by
    rw [Nat.mul_add, hs, Nat.mul_one]
  simp only [roundDiv]
  split
  · omega
  · split
    · omega
    · cases tie with
      | up => simp only; omega
      | toEven => simp only; split <;> omega

/-- Nothing is left of at most a half. -/
theorem roundDiv_toEven_eq_zero_iff {num den : Nat} (h : 0 < den) :
    roundDiv num den .toEven = 0 ↔ 2 * num ≤ den := by
  have hupper := roundDiv_le num den .toEven h
  have hlower := le_roundDiv num den .toEven h
  constructor
  · intro hzero
    rw [hzero] at hlower
    omega
  · intro hhalf
    rcases Nat.lt_or_ge num den with hless | hmore
    · rw [roundDiv, Nat.div_eq_of_lt hless, Nat.mod_eq_of_lt hless]
      simp only
      split
      · rfl
      · rw [if_neg (by omega)]
        rfl
    · omega

end ToneLink.Number
