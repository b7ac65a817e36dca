import ToneLink.Number.Rounding

/-!
# The exact value of a binary64 number

A `Float` is taken apart into sign, whole mantissa and power of two, so that rounding, sizing and
printing are exact arithmetic on `Nat` and nothing hangs on how a float happens to be printed.

- `Binary64`: not a number, an infinity, or `± mantissa · 2 ^ exponent`;
- `Binary64.ofFloat`: the decoding;
- `Binary64.scaled`: a magnitude as a quotient of whole numbers;
- `Binary64.wholeCount`: the count nearest to a value, clamped into 64 bits.
-/

namespace ToneLink.Number

/-- What a binary64 number stands for. -/
inductive Binary64
  | notANumber
  | infinite (negative : Bool)
  /-- The number `± mantissa · 2 ^ exponent`. -/
  | finite (negative : Bool) (mantissa : Nat) (exponent : Int)
  deriving DecidableEq, Repr

namespace Binary64

/-- Largest number that fits in an unsigned 64-bit word. -/
def maxWord : Nat := UInt64.size - 1

/-- The leading bit of a mantissa. It is one, except in the smallest numbers, and is not stored. -/
def leadingBit : Nat := 0x10000000000000

/-- Takes a float apart along the fields of its 64 bits. -/
def ofFloat (x : Float) : Binary64 :=
  let bits := x.toBits.toNat
  let negative := decide (0x8000000000000000 ≤ bits)
  let biased : Nat := bits / leadingBit % 0x800
  let fraction := bits % leadingBit
  if biased = 2047 then
    if fraction = 0 then .infinite negative else .notANumber
  else if biased = 0 then .finite negative fraction (-1074)
  else .finite negative (leadingBit + fraction) ((biased : Int) - 1075)

/-- `mantissa · 2 ^ exponent` as a quotient; the divisor is never zero. -/
def scaled (mantissa : Nat) : Int → Nat × Nat
  | .ofNat k => (mantissa * Nat.pow 2 k, 1)
  | .negSucc k => (mantissa, Nat.pow 2 (k + 1))

theorem scaled_den_pos (m : Nat) (e : Int) : 0 < (scaled m e).2 := by
  cases e with
  | ofNat k => exact Nat.one_pos
  | negSucc k => exact Nat.two_pow_pos (k + 1)

/-- The whole number nearest to a value, a half going up. What is negative or not a number counts
as nothing, and what does not fit in 64 bits as the largest count that does. -/
def wholeCount : Binary64 → Nat
  | .notANumber => 0
  | .infinite negative => if negative then 0 else maxWord
  | .finite negative m e =>
    if negative then 0
    else
      let (num, den) := scaled m e
      min maxWord (roundDiv num den .up)

end Binary64

end ToneLink.Number
