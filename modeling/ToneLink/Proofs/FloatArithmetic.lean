import Mathlib
import ToneLink.Number.Binary64

/-!
# Arithmetic on binary64 numbers

Floats are computed with as unpacked numbers: an exact mantissa is cut off and rounded, and the
result is packed into 64 bits. Here the outcome is read as a rational number again.

- `Binary64.ofFloat_eq`: decoding a float comes to unpacking it;
- `Binary64.store`: what is left of an unpacked number once it is packed;
- `Binary64.roundWithAccuracy_eq`: rounding errs by one unit in the last place at most;
- `Binary64.ofFloat_mul`: a product of floats against the product of their values;
- `Binary64.le_zero_iff`: a finite number is positive, or not greater than zero.
-/

namespace ToneLink.Number.Binary64

open Float.Model (UnpackedFloat Format totalExponent)
open Float.Model.UnpackedFloat (Sign Accuracy ExtendedMantissa roundWithAccuracy
  shiftToTargetExponent)

/-! ## Unpacked numbers -/

/-- The number that an unpacked float stands for. -/
def ofUnpacked : UnpackedFloat → Binary64
  | .notANumber => .notANumber
  | .infinity s => .infinite (s == .negative)
  | .zero s => .finite (s == .negative) 0 (-1074)
  | .finite s m e _ => .finite (s == .negative) m e

/-- The sign of a number. -/
def sign (negative : Bool) : Sign := if negative then .negative else .positive

/-- The unpacked float that stands for a number. -/
def toUnpacked : Binary64 → UnpackedFloat
  | .notANumber => .notANumber
  | .infinite negative => .infinity (sign negative)
  | .finite negative m e =>
    if h : 0 < m then .finite (sign negative) m e h else .zero (sign negative)

theorem toUnpacked_ofUnpacked (u : UnpackedFloat) : toUnpacked (ofUnpacked u) = u := by
  cases u with
  | notANumber => rfl
  | infinity s => cases s <;> rfl
  | zero s => cases s <;> rfl
  | finite s m e hpos =>
    rw [ofUnpacked, toUnpacked, dif_pos hpos]
    cases s <;> rfl

/-! ## The fields of 64 bits -/

/-- The number with a sign, an exponent and a fraction as they are packed. -/
def ofFields (negative : Bool) (biased fraction : Nat) : Binary64 :=
  if biased = 2047 then
    if fraction = 0 then .infinite negative else .notANumber
  else if biased = 0 then .finite negative fraction (-1074)
  else .finite negative (leadingBit + fraction) ((biased : Int) - 1075)

theorem ofFloat_eq_ofFields (x : Float) :
    ofFloat x = ofFields (decide (0x8000000000000000 ≤ x.toBits.toNat))
      (x.toBits.toNat / leadingBit % 0x800) (x.toBits.toNat % leadingBit) := rfl

theorem exists_ofFields_eq_finite (negative : Bool) {biased : Nat} (h : biased ≠ 2047)
    (fraction : Nat) : ∃ m e, ofFields negative biased fraction = .finite negative m e := by
  rw [ofFields, if_neg h]
  split
  · exact ⟨_, _, rfl⟩
  · exact ⟨_, _, rfl⟩

theorem ofUnpacked_unpack (b : BitVec 64) :
    ofUnpacked (UnpackedFloat.unpack .binary64 b)
      = ofFields (Sign.ofBitVec (@UnpackedFloat.unpackSign .binary64 b) == .negative)
          (@UnpackedFloat.unpackExponent .binary64 b).toNat
          (@UnpackedFloat.unpackMantissa .binary64 b).toNat := by
  have hleading : ∀ mantissa : BitVec 52,
      (1#1 ++ mantissa).toNat = leadingBit + mantissa.toNat := by
    intro mantissa
    rw [BitVec.toNat_append, ← Nat.shiftLeft_add_eq_or_of_lt mantissa.isLt]
    rfl
  have hlargest : ∀ exponent : BitVec 11, exponent = -1#11 ↔ exponent.toNat = 2047 :=
    fun _ => BitVec.toNat_inj.symm
  have hsmallest : ∀ exponent : BitVec 11, exponent = 0#11 ↔ exponent.toNat = 0 :=
    fun _ => BitVec.toNat_inj.symm
  have hnone : ∀ mantissa : BitVec 52, mantissa = 0#52 ↔ mantissa.toNat = 0 :=
    fun _ => BitVec.toNat_inj.symm
  simp only [UnpackedFloat.unpack, ofFields, hlargest, hsmallest, hnone, hleading]
  split
  · split <;> rfl
  · split
    · rename_i hzero
      split
      · rename_i hempty
        rw [hempty]
        rfl
      · rw [hzero]
        rfl
    · rfl

theorem unpackSign_eq (b : BitVec 64) :
    (Sign.ofBitVec (@UnpackedFloat.unpackSign .binary64 b) == .negative)
      = decide (0x8000000000000000 ≤ b.toNat) := by
  have hlt := b.isLt
  have hbit : (@UnpackedFloat.unpackSign .binary64 b).toNat
      = b.toNat / 0x8000000000000000 := by
    rw [UnpackedFloat.unpackSign_def, BitVec.extractLsb'_toNat, Nat.shiftRight_eq_div_pow]
    show b.toNat / 0x8000000000000000 % 2 = _
    omega
  unfold Sign.ofBitVec
  by_cases hle : 0x8000000000000000 ≤ b.toNat
  · have hset : @UnpackedFloat.unpackSign .binary64 b ≠ 0#1 := by
      intro h
      rw [h] at hbit
      have hnone : 0 = b.toNat / 0x8000000000000000 := hbit
      omega
    rw [if_neg hset, decide_eq_true hle]
    rfl
  · have hclear : @UnpackedFloat.unpackSign .binary64 b = 0#1 := by
      refine BitVec.eq_of_toNat_eq ?_
      rw [hbit]
      show _ = 0
      omega
    rw [if_pos hclear, decide_eq_false hle]
    rfl

/-- Decoding a float comes to unpacking it. -/
theorem ofFloat_eq (x : Float) : ofFloat x = ofUnpacked x.toModel.unpack := by
  have hmantissa : (@UnpackedFloat.unpackMantissa .binary64 x.toBits.toBitVec).toNat
      = x.toBits.toNat % leadingBit := by
    rw [UnpackedFloat.unpackMantissa_def, BitVec.extractLsb'_toNat, Nat.shiftRight_zero]
    rfl
  have hexponent : (@UnpackedFloat.unpackExponent .binary64 x.toBits.toBitVec).toNat
      = x.toBits.toNat / leadingBit % 0x800 := by
    rw [UnpackedFloat.unpackExponent_def, BitVec.extractLsb'_toNat, Nat.shiftRight_eq_div_pow]
    rfl
  show _ = ofUnpacked (UnpackedFloat.unpack .binary64 x.toBits.toBitVec)
  rw [ofUnpacked_unpack, unpackSign_eq, hmantissa, hexponent]
  rfl

theorem unpack_eq (x : Float) : x.toModel.unpack = toUnpacked (ofFloat x) := by
  rw [ofFloat_eq, toUnpacked_ofUnpacked]

/-! ## Packing -/

/-- What is left of an unpacked number once it is packed. -/
def store (u : UnpackedFloat) : Binary64 :=
  ofUnpacked (UnpackedFloat.unpack .binary64 (UnpackedFloat.pack .binary64 u))

theorem ofUnpacked_packComponents (s : Sign) (exponent : BitVec 11) (mantissa : BitVec 52) :
    ofUnpacked (UnpackedFloat.unpack .binary64
      (UnpackedFloat.packComponents .binary64 s exponent mantissa))
      = ofFields (s == .negative) exponent.toNat mantissa.toNat := by
  rw [ofUnpacked_unpack, UnpackedFloat.unpackSign_packComponents, Sign.ofBitVec_toBitVec,
    UnpackedFloat.unpackMantissa_packComponents, UnpackedFloat.unpackExponent_packComponents]

theorem store_zero (s : Sign) : store (.zero s) = .finite (s == .negative) 0 (-1074) :=
  ofUnpacked_packComponents s 0 0

theorem store_infinity (s : Sign) : store (.infinity s) = .infinite (s == .negative) :=
  ofUnpacked_packComponents s (-1#_) 0

theorem store_finite (s : Sign) (m : Nat) (e : Int) (hpos : 0 < m) :
    store (.finite s m e hpos)
      = if 972 ≤ e then .infinite (s == .negative)
        else ofFields (s == .negative) (if m.log2 = 52 then (e + 1075).toNat else 0)
          (m % leadingBit) := by
  have hbias : (e + Format.exponentBias .binary64 + (52 : Nat)).toNat = (e + 1075).toNat := by
    show (e + (1023 : Nat) + (52 : Nat)).toNat = _
    omega
  have hlog : m.log2 + 1 = Format.mantissaBits .binary64 ↔ m.log2 = 52 := by
    show m.log2 + 1 = 53 ↔ _
    omega
  have hlarge : 2 ^ 11 ≤ (e + 1075).toNat + 1 ↔ 972 ≤ e := by omega
  simp only [store, UnpackedFloat.pack, hbias, hlog, hlarge]
  by_cases hinfinite : 972 ≤ e
  · simp only [if_pos hinfinite]
    exact ofUnpacked_packComponents s _ _
  · simp only [if_neg hinfinite]
    by_cases hnormal : m.log2 = 52
    · simp only [if_pos hnormal]
      rw [ofUnpacked_packComponents, BitVec.toNat_ofNat, BitVec.toNat_ofNat, Nat.mod_eq_of_lt]
      · rfl
      · omega
    · simp only [if_neg hnormal]
      rw [ofUnpacked_packComponents, BitVec.toNat_ofNat]
      rfl

/-- A positive mantissa that can be packed as it is: it has 53 bits, or fewer at the smallest
exponent. -/
structure Packable (m : Nat) (e : Int) : Prop where
  pos : 0 < m
  lt : m < 2 * leadingBit
  le : -1074 ≤ e
  leading : leadingBit ≤ m ∨ e = -1074

theorem Packable.store_eq {m : Nat} {e : Int} (h : Packable m e) (s : Sign) :
    store (.finite s m e h.pos)
      = if 972 ≤ e then .infinite (s == .negative) else .finite (s == .negative) m e := by
  obtain ⟨hpos, hlt, hle, hleading⟩ := h
  have hlog : m.log2 = 52 ↔ leadingBit ≤ m :=
    (Nat.log2_eq_iff (Nat.ne_of_gt hpos)).trans ⟨And.left, fun h => ⟨h, hlt⟩⟩
  rw [store_finite]
  simp only [hlog]
  by_cases hlarge : 972 ≤ e
  · rw [if_pos hlarge, if_pos hlarge]
  · rw [if_neg hlarge, if_neg hlarge, ofFields]
    by_cases hnormal : leadingBit ≤ m
    · have hfraction : leadingBit + m % leadingBit = m := by
        rw [Nat.mod_eq_sub_mod hnormal, Nat.mod_eq_of_lt (by omega)]
        omega
      have hback : (((e + 1075).toNat : Nat) : Int) - 1075 = e := by omega
      rw [if_pos hnormal, if_neg (by omega), if_neg (by omega), hfraction, hback]
    · have hsmall : e = -1074 := hleading.resolve_left hnormal
      rw [if_neg hnormal, if_neg (by omega), if_pos rfl, Nat.mod_eq_of_lt (by omega), hsmall]

/-- What was packed can be packed. -/
theorem packable_of_ofFloat {x : Float} {negative : Bool} {m : Nat} {e : Int}
    (h : ofFloat x = .finite negative m e) (hpos : 0 < m) : Packable m e := by
  rw [ofFloat_eq_ofFields, ofFields] at h
  have hfraction := Nat.mod_lt x.toBits.toNat (show 0 < leadingBit by decide)
  split at h
  · split at h <;> cases h
  · split at h
    · cases h
      exact ⟨hpos, by omega, Int.le_refl _, .inr rfl⟩
    · cases h
      exact ⟨hpos, by omega, by omega, .inl (Nat.le_add_right _ _)⟩

/-! ## Rounding -/

/-- The number `m · 2 ^ e`. -/
def magnitude (m : Nat) (e : Int) : ℚ := m * 2 ^ e

/-- At least the unit in the last place of a number: a part in `2 ^ 52` of it, or the smallest
positive number. -/
def lastPlace (q : ℚ) : ℚ := max (2 ^ (-1074 : Int)) (q * 2 ^ (-52 : Int))

/-- The number that a finite float stands for. -/
def value : Binary64 → ℚ
  | .finite negative m e => if negative then -magnitude m e else magnitude m e
  | _ => 0

theorem magnitude_zero (e : Int) : magnitude 0 e = 0 := by
  rw [magnitude, Nat.cast_zero, zero_mul]

theorem magnitude_nonneg (m : Nat) (e : Int) : 0 ≤ magnitude m e :=
  mul_nonneg (Nat.cast_nonneg m) (zpow_pos two_pos e).le

theorem magnitude_mul (m n : Nat) (d e : Int) :
    magnitude (m * n) (d + e) = magnitude m d * magnitude n e := by
  rw [magnitude, magnitude, magnitude, zpow_add₀ two_ne_zero, Nat.cast_mul]
  ring

theorem lastPlace_pos (q : ℚ) : 0 < lastPlace q := lt_max_of_lt_left (zpow_pos two_pos _)

/-- A unit in the last place is a small part of a number, or smaller than any. -/
theorem lastPlace_le {q : ℚ} (h : 0 ≤ q) : lastPlace q ≤ (1 + q) / 4503599627370496 := by
  have hsmallest : (2 : ℚ) ^ (-1074 : Int) ≤ 2 ^ (-52 : Int) :=
    zpow_le_zpow_right₀ one_le_two (by decide)
  have hunit : (2 : ℚ) ^ (-52 : Int) = 1 / 4503599627370496 := by norm_num
  rw [hunit] at hsmallest
  rw [lastPlace, hunit]
  refine max_le ?_ ?_
  · linarith
  · linarith

/-- A mantissa of 53 bits counts units in the last place. -/
theorem two_zpow_le_lastPlace {m : Nat} (hpos : 0 < m) (e : Int) :
    (2 : ℚ) ^ max ((m.log2 : Int) + e - 52) (-1074) ≤ lastPlace (magnitude m e) := by
  rcases le_total ((m.log2 : Int) + e - 52) (-1074) with hsmall | hlarge
  · rw [max_eq_right hsmall]
    exact le_max_left _ _
  · have hlog : (2 : ℚ) ^ (m.log2 : Int) ≤ m := by
      rw [zpow_natCast]
      exact_mod_cast Nat.log2_self_le (Nat.ne_of_gt hpos)
    rw [max_eq_left hlarge]
    refine le_trans ?_ (le_max_right _ _)
    calc (2 : ℚ) ^ ((m.log2 : Int) + e - 52)
        = 2 ^ (m.log2 : Int) * 2 ^ e * 2 ^ (-52 : Int) := by
          rw [sub_eq_add_neg, zpow_add₀ two_ne_zero, zpow_add₀ two_ne_zero]
      _ ≤ m * 2 ^ e * 2 ^ (-52 : Int) := by gcongr

theorem mantissa_shiftRight (em : ExtendedMantissa) (k : Nat) :
    (em >>> k).mantissa = em.mantissa / 2 ^ k := by
  induction k with
  | zero => exact (Nat.div_one _).symm
  | succ k ih =>
    show (em >>> k).mantissa / 2 = _
    rw [ih, Nat.div_div_eq_div_mul]
    rfl

theorem roundedMantissa_bounds (em : ExtendedMantissa) :
    em.mantissa ≤ em.roundedMantissa ∧ em.roundedMantissa ≤ em.mantissa + 1 := by
  obtain ⟨m, roundBit, stickyBit⟩ := em
  cases roundBit <;> cases stickyBit
  · exact ⟨Nat.le_refl _, Nat.le_succ _⟩
  · exact ⟨Nat.le_refl _, Nat.le_succ _⟩
  · -- a tie goes to the even neighbour
    show m ≤ m + m % 2 ∧ m + m % 2 ≤ m + 1
    omega
  · exact ⟨Nat.le_succ _, Nat.le_refl _⟩

/-- Cutting off bits and rounding errs by one unit at most. -/
theorem abs_rounded_sub_le {m r k : Nat} (hlow : m / 2 ^ k ≤ r) (hhigh : r ≤ m / 2 ^ k + 1)
    (e : Int) : |magnitude r (e + k) - magnitude m e| ≤ 2 ^ (e + (k : Int)) := by
  have hle : r * 2 ^ k ≤ m + 2 ^ k := by
    calc r * 2 ^ k ≤ (m / 2 ^ k + 1) * 2 ^ k := Nat.mul_le_mul_right _ hhigh
      _ = m / 2 ^ k * 2 ^ k + 2 ^ k := Nat.succ_mul _ _
      _ ≤ m + 2 ^ k := Nat.add_le_add_right (Nat.div_mul_le_self m _) _
  have hge : m ≤ r * 2 ^ k + 2 ^ k := by
    calc m ≤ m / 2 ^ k * 2 ^ k + 2 ^ k := Nat.le_of_lt (Nat.lt_div_mul_add (Nat.two_pow_pos k))
      _ ≤ r * 2 ^ k + 2 ^ k := Nat.add_le_add_right (Nat.mul_le_mul_right _ hlow) _
  have hle' : (r : ℚ) * 2 ^ k ≤ m + 2 ^ k := by exact_mod_cast hle
  have hge' : (m : ℚ) ≤ r * 2 ^ k + 2 ^ k := by exact_mod_cast hge
  have hunit : (0 : ℚ) < 2 ^ e := zpow_pos two_pos e
  have hdiff : magnitude r (e + k) - magnitude m e = (r * 2 ^ k - m) * 2 ^ e := by
    rw [magnitude, magnitude, zpow_add₀ two_ne_zero, zpow_natCast]
    ring
  rw [hdiff, abs_mul, abs_of_pos hunit, zpow_add₀ two_ne_zero, mul_comm ((2 : ℚ) ^ e), zpow_natCast]
  refine mul_le_mul_of_nonneg_right (abs_le.mpr ⟨?_, ?_⟩) hunit.le
  · linarith
  · linarith

theorem targetExponent_eq (m : Nat) (e : Int) :
    Format.targetExponent .binary64 (totalExponent m e) = max (m.log2 + e - 52) (-1074) := by
  show max ((m.log2 : Int) + 1 + e - (53 : Nat)) (3 - 2 ^ 10 - (53 : Nat)) = _
  omega

theorem shift_of_lt {m : Nat} {e : Int} (hlt : m < 2 * leadingBit) (hle : -1074 ≤ e) :
    shiftToTargetExponent .binary64 m e .exact = (⟨m, false, false⟩, e) := by
  have hlog : m.log2 ≤ 52 := by
    by_cases hzero : m = 0
    · rw [hzero]
      decide
    · have := (Nat.log2_lt hzero).mpr (show m < 2 ^ 53 from hlt)
      omega
  have hstay : (max ((m.log2 : Int) + e - 52) (-1074) - e).toNat = 0 := by omega
  simp only [shiftToTargetExponent, targetExponent_eq, UnpackedFloat.shiftToExponent, hstay]
  exact congrArg (Prod.mk _) (Int.add_zero e)

/-- A mantissa that was rounded up to one more bit ends in a zero. -/
theorem shift_carried {e : Int} (hle : -1074 ≤ e) :
    shiftToTargetExponent .binary64 (2 * leadingBit) e .exact
      = (⟨leadingBit, false, false⟩, e + 1) := by
  have hlog : (2 * leadingBit).log2 = 53 := by decide
  have hone : (max ((53 : Nat) + e - 52) (-1074) - e).toNat = 1 := by omega
  simp only [shiftToTargetExponent, targetExponent_eq, UnpackedFloat.shiftToExponent, hlog, hone]
  rfl

/-- With bits enough, a mantissa is shifted to the right. -/
theorem le_targetExponent {m : Nat} {e : Int} (hpos : 0 < m)
    (hbits : leadingBit ≤ m ∨ e ≤ -1074) : e ≤ max ((m.log2 : Int) + e - 52) (-1074) := by
  rcases hbits with hlarge | hsmall
  · have hlog : 52 ≤ m.log2 :=
      (Nat.le_log2 (Nat.ne_of_gt hpos)).mpr (show 2 ^ 52 ≤ m from hlarge)
    omega
  · omega

/-- The first shift cuts bits off a mantissa. -/
theorem shift_eq (m : Nat) (e : Int) (a : Accuracy) {k : Nat}
    (hk : k = (max ((m.log2 : Int) + e - 52) (-1074) - e).toNat) :
    ∃ em : ExtendedMantissa, em.mantissa = m / 2 ^ k ∧
      shiftToTargetExponent .binary64 m e a = (em, e + k) := by
  refine ⟨ExtendedMantissa.ofMantissaAndAccuracy m a >>> k, ?_, ?_⟩
  · rw [mantissa_shiftRight]
    cases a with
    | exact => rfl
    | inexact o => cases o <;> rfl
  · rw [shiftToTargetExponent, targetExponent_eq, UnpackedFloat.shiftToExponent, ← hk]

/-- What the first shift leaves has 53 bits, or fewer at the smallest exponent. -/
theorem cut_bounds {m : Nat} {e : Int} (hpos : 0 < m) (hbits : leadingBit ≤ m ∨ e ≤ -1074)
    {k : Nat} (hk : k = (max ((m.log2 : Int) + e - 52) (-1074) - e).toNat) :
    m / 2 ^ k < 2 * leadingBit ∧ (leadingBit ≤ m / 2 ^ k ∨ e + k = -1074) := by
  have htarget := le_targetExponent hpos hbits
  constructor
  · refine (Nat.div_lt_iff_lt_mul (Nat.two_pow_pos k)).mpr ?_
    calc m < 2 ^ (m.log2 + 1) := Nat.lt_log2_self
      _ ≤ 2 ^ (53 + k) := Nat.pow_le_pow_right (by decide) (by omega)
      _ = 2 ^ 53 * 2 ^ k := Nat.pow_add 2 53 k
  · by_cases hsmall : e + k = -1074
    · exact .inr hsmall
    · refine .inl ((Nat.le_div_iff_mul_le (Nat.two_pow_pos k)).mpr ?_)
      calc 2 ^ 52 * 2 ^ k = 2 ^ (52 + k) := (Nat.pow_add 2 52 k).symm
        _ = 2 ^ m.log2 := by
          congr 1
          omega
        _ ≤ m := Nat.log2_self_le (Nat.ne_of_gt hpos)

/-- **Rounding errs by one unit in the last place at most**, if there are bits enough, and what it
gives can be packed. -/
theorem roundWithAccuracy_eq (s : Sign) {m : Nat} {e : Int} (a : Accuracy) (hpos : 0 < m)
    (hbits : leadingBit ≤ m ∨ e ≤ -1074) :
    ∃ r t, |magnitude r t - magnitude m e| ≤ lastPlace (magnitude m e) ∧
      (r = 0 ∧ roundWithAccuracy .binary64 s m e a = .zero s ∨
        ∃ h : Packable r t, roundWithAccuracy .binary64 s m e a = .finite s r t h.pos) := by
  obtain ⟨k, hk⟩ : ∃ k, k = (max ((m.log2 : Int) + e - 52) (-1074) - e).toNat := ⟨_, rfl⟩
  have htarget := le_targetExponent hpos hbits
  have hexponent : e + k = max ((m.log2 : Int) + e - 52) (-1074) := by omega
  obtain ⟨em, hcut, hfirst⟩ := shift_eq m e a hk
  obtain ⟨hlt, hleading⟩ := cut_bounds hpos hbits hk
  -- rounding adds one at most
  obtain ⟨hlow, hhigh⟩ := roundedMantissa_bounds em
  rw [hcut] at hlow hhigh
  have hround : roundWithAccuracy .binary64 s m e a
      = (let final := shiftToTargetExponent .binary64 em.roundedMantissa (e + k) .exact
        if h : final.1.mantissa = 0 then .zero s
        else .finite s final.1.mantissa final.2 (Nat.pos_of_ne_zero h)) := by
    rw [roundWithAccuracy, hfirst]
  generalize em.roundedMantissa = r at hlow hhigh hround
  have hnear : |magnitude r (e + k) - magnitude m e| ≤ lastPlace (magnitude m e) := by
    have hunit := two_zpow_le_lastPlace hpos e
    rw [← hexponent] at hunit
    exact (abs_rounded_sub_le hlow hhigh e).trans hunit
  rcases Nat.lt_or_ge r (2 * leadingBit) with hfits | hcarry
  · rw [shift_of_lt hfits (by omega)] at hround
    rcases Nat.eq_zero_or_pos r with hzero | hrpos
    · refine ⟨r, e + k, hnear, .inl ⟨hzero, ?_⟩⟩
      rw [hround]
      exact dif_pos hzero
    · refine ⟨r, e + k, hnear, .inr ⟨⟨hrpos, hfits, by omega, by omega⟩, ?_⟩⟩
      rw [hround]
      exact dif_neg (Nat.ne_of_gt hrpos)
  · -- one bit more than fits: the second shift takes it off again
    have hr : r = 2 * leadingBit := by omega
    have hsame : magnitude leadingBit (e + k + 1) = magnitude r (e + k) := by
      rw [magnitude, magnitude, zpow_add₀ two_ne_zero, hr, Nat.cast_mul]
      push_cast
      ring
    rw [hr, shift_carried (by omega)] at hround
    refine ⟨leadingBit, e + k + 1, ?_, .inr ⟨⟨by decide, by decide, by omega, .inl le_rfl⟩, ?_⟩⟩
    · rw [hsame]
      exact hnear
    · rw [hround]
      exact dif_neg (show ¬ leadingBit = 0 by decide)

/-- What can be packed is not rounded. -/
theorem Packable.roundWithAccuracy_eq {m : Nat} {e : Int} (h : Packable m e) (s : Sign) :
    roundWithAccuracy .binary64 s m e .exact = .finite s m e h.pos := by
  have hexact : (⟨m, false, false⟩ : ExtendedMantissa).roundedMantissa = m := rfl
  simp only [roundWithAccuracy, shift_of_lt h.lt h.le, hexact]
  exact dif_neg (Nat.ne_of_gt h.pos)

/-- A number with bits enough is rounded once, unless it is too large to be packed. -/
theorem store_rounded (s : Sign) {m : Nat} {e : Int} (a : Accuracy) (hpos : 0 < m)
    (hbits : leadingBit ≤ m ∨ e ≤ -1074) :
    store (roundWithAccuracy .binary64 s m e a) = .infinite (s == .negative) ∨
      ∃ r t, store (roundWithAccuracy .binary64 s m e a) = .finite (s == .negative) r t ∧
        |magnitude r t - magnitude m e| ≤ lastPlace (magnitude m e) := by
  obtain ⟨r, t, hnear, ⟨hzero, hround⟩ | ⟨hpackable, hround⟩⟩ := roundWithAccuracy_eq s a hpos hbits
  · refine .inr ⟨0, -1074, ?_, ?_⟩
    · rw [hround, store_zero]
    · rw [hzero, magnitude_zero] at hnear
      rw [magnitude_zero]
      exact hnear
  · rw [hround, hpackable.store_eq]
    by_cases hlarge : 972 ≤ t
    · exact .inl (if_pos hlarge)
    · exact .inr ⟨r, t, if_neg hlarge, hnear⟩

/-- Rounding and packing keep the sign. -/
theorem store_rounded_sign (s : Sign) (m : Nat) (e : Int) (a : Accuracy) :
    store (roundWithAccuracy .binary64 s m e a) = .infinite (s == .negative) ∨
      ∃ r t, store (roundWithAccuracy .binary64 s m e a) = .finite (s == .negative) r t := by
  unfold roundWithAccuracy
  dsimp only
  split
  · exact .inr ⟨0, -1074, store_zero s⟩
  · rename_i h
    rw [store_finite s _ _ (Nat.pos_of_ne_zero h)]
    generalize (shiftToTargetExponent _ _ _ _).2 = t
    generalize (shiftToTargetExponent _ _ _ _).1.mantissa = r
    by_cases hlarge : 972 ≤ t
    · exact .inl (if_pos hlarge)
    · have hfinite : (if r.log2 = 52 then (t + 1075).toNat else 0) ≠ 2047 := by
        split <;> omega
      rw [if_neg hlarge]
      exact .inr (exists_ofFields_eq_finite _ hfinite _)

/-! ## Operations -/

/-- **A product of floats** is the product of their values up to one unit in the last place, unless
it is too large. -/
theorem ofFloat_mul {x y : Float} {m n : Nat} {d e : Int} (hx : ofFloat x = .finite false m d)
    (hy : ofFloat y = .finite false n e) :
    ofFloat (x * y) = .infinite false ∨
      ∃ r t, ofFloat (x * y) = .finite false r t ∧
        |magnitude r t - magnitude m d * magnitude n e|
          ≤ lastPlace (magnitude m d * magnitude n e) := by
  have hmul : ofFloat (x * y)
      = store (UnpackedFloat.mul .binary64 x.toModel.unpack y.toModel.unpack) := ofFloat_eq _
  rw [hmul, unpack_eq, unpack_eq, hx, hy, toUnpacked, toUnpacked, ← magnitude_mul]
  have hzero : ∀ k : Int, |magnitude 0 (-1074) - magnitude 0 k| ≤ lastPlace (magnitude 0 k) := by
    intro k
    rw [magnitude_zero, magnitude_zero, sub_self, abs_zero]
    exact (lastPlace_pos 0).le
  by_cases hm : 0 < m
  · by_cases hn : 0 < n
    · rw [dif_pos hm, dif_pos hn]
      refine store_rounded .positive .exact (Nat.mul_pos hm hn) ?_
      have hpackm := packable_of_ofFloat hx hm
      have hpackn := packable_of_ofFloat hy hn
      rcases hpackm.leading with hleading | hsmall
      · exact .inl (hleading.trans (Nat.le_mul_of_pos_right m hn))
      · rcases hpackn.leading with hleading | hsmall'
        · exact .inl (hleading.trans (Nat.le_mul_of_pos_left n hm))
        · exact .inr (by omega)
    · rw [dif_pos hm, dif_neg hn, Nat.eq_zero_of_not_pos hn, Nat.mul_zero]
      exact .inr ⟨0, -1074, store_zero .positive, hzero _⟩
  · rw [dif_neg hm, Nat.eq_zero_of_not_pos hm, Nat.zero_mul]
    by_cases hn : 0 < n
    · rw [dif_pos hn]
      exact .inr ⟨0, -1074, store_zero .positive, hzero _⟩
    · rw [dif_neg hn]
      exact .inr ⟨0, -1074, store_zero .positive, hzero _⟩

theorem ofFloat_mul_infinite {x y : Float} {m : Nat} {d : Int} (hx : ofFloat x = .finite false m d)
    (hm : 0 < m) (hy : ofFloat y = .infinite false) : ofFloat (x * y) = .infinite false := by
  have hmul : ofFloat (x * y)
      = store (UnpackedFloat.mul .binary64 x.toModel.unpack y.toModel.unpack) := ofFloat_eq _
  rw [hmul, unpack_eq, unpack_eq, hx, hy, toUnpacked, toUnpacked, dif_pos hm]
  exact store_infinity .positive

/-- A quotient of positive floats is not negative. -/
theorem ofFloat_div {x y : Float} {m n : Nat} {d e : Int} (hx : ofFloat x = .finite false m d)
    (hm : 0 < m) (hy : ofFloat y = .finite false n e) (hn : 0 < n) :
    ofFloat (x / y) = .infinite false ∨ ∃ r t, ofFloat (x / y) = .finite false r t := by
  have hdiv : ofFloat (x / y)
      = store (UnpackedFloat.div .binary64 x.toModel.unpack y.toModel.unpack) := ofFloat_eq _
  rw [hdiv, unpack_eq, unpack_eq, hx, hy, toUnpacked, toUnpacked, dif_pos hm, dif_pos hn]
  exact store_rounded_sign .positive _ _ _

/-- A whole number of 32 bits is a float. -/
theorem ofFloat_toFloat {n : UInt32} (hpos : 0 < n.toNat) :
    ∃ m e, 0 < m ∧ ofFloat n.toFloat = .finite false m e ∧ magnitude m e = n.toNat := by
  have hlt := n.toNat_lt
  have hlog : n.toNat.log2 < 32 := (Nat.log2_lt (Nat.ne_of_gt hpos)).mpr hlt
  obtain ⟨k, hk⟩ : ∃ k, k = 52 - n.toNat.log2 := ⟨_, rfl⟩
  have hshift : (0 - max ((n.toNat.log2 : Int) + 0 - 52) (-1074)).toNat = k := by omega
  have hmantissa : n.toNat <<< k = n.toNat * 2 ^ k := Nat.shiftLeft_eq _ _
  have hround : UnpackedFloat.ofUInt32 .binary64 n
      = roundWithAccuracy .binary64 .positive (n.toNat * 2 ^ k) (0 - k) .exact := by
    have hcompare : compare (n.toNat : Int) 0 = .gt := Int.compare_eq_gt.mpr (by omega)
    rw [UnpackedFloat.ofUInt32, UnpackedFloat.ofNat, UnpackedFloat.ofInt, UnpackedFloat.normalize,
      hcompare]
    simp only [UnpackedFloat.round, targetExponent_eq, UnpackedFloat.decreaseExponent,
      Int.toNat_natCast, hshift, hmantissa]
  have hpackable : Packable (n.toNat * 2 ^ k) (0 - k) := by
    refine ⟨Nat.mul_pos hpos (Nat.two_pow_pos k), ?_, by omega, .inl ?_⟩
    · calc n.toNat * 2 ^ k
          < 2 ^ (n.toNat.log2 + 1) * 2 ^ k :=
            Nat.mul_lt_mul_of_pos_right Nat.lt_log2_self (Nat.two_pow_pos k)
        _ = 2 ^ 53 := by
            rw [← Nat.pow_add]
            congr 1
            omega
    · calc 2 ^ 52
          = 2 ^ n.toNat.log2 * 2 ^ k := by
            rw [← Nat.pow_add]
            congr 1
            omega
        _ ≤ n.toNat * 2 ^ k := Nat.mul_le_mul_right _ (Nat.log2_self_le (Nat.ne_of_gt hpos))
  refine ⟨n.toNat * 2 ^ k, 0 - k, hpackable.pos, ?_, ?_⟩
  · have hfloat : ofFloat n.toFloat = store (UnpackedFloat.ofUInt32 .binary64 n) := ofFloat_eq _
    rw [hfloat, hround, hpackable.roundWithAccuracy_eq, hpackable.store_eq, if_neg (by omega)]
    rfl
  · rw [magnitude, zero_sub, zpow_neg, zpow_natCast, Nat.cast_mul, Nat.cast_pow, Nat.cast_ofNat,
      mul_assoc, mul_inv_cancel₀ (pow_ne_zero k two_ne_zero), mul_one]

/-! ## Comparisons -/

theorem exists_of_isFinite {x : Float} (h : x.isFinite) :
    ∃ negative m e, ofFloat x = .finite negative m e := by
  have hfinite : x.toModel.unpack.isFinite = true := h
  rw [ofFloat_eq]
  cases hx : x.toModel.unpack with
  | notANumber | infinity s =>
    rw [hx] at hfinite
    cases hfinite
  | zero s => exact ⟨_, _, _, rfl⟩
  | finite s m e hpos => exact ⟨_, _, _, rfl⟩

theorem lt_iff (x y : Float) :
    x < y ↔ (toUnpacked (ofFloat x)).lt (toUnpacked (ofFloat y)) = true := by
  rw [← unpack_eq, ← unpack_eq]
  exact decide_eq_true_iff

theorem le_iff (x y : Float) :
    x ≤ y ↔ (toUnpacked (ofFloat x)).le (toUnpacked (ofFloat y)) = true := by
  rw [← unpack_eq, ← unpack_eq]
  exact decide_eq_true_iff

/-- A finite number is positive if its mantissa and its sign are. -/
theorem pos_iff {x : Float} {negative : Bool} {m : Nat} {e : Int}
    (h : ofFloat x = .finite negative m e) : 0 < x ↔ negative = false ∧ 0 < m := by
  have hzero : toUnpacked (ofFloat 0) = .zero .positive := rfl
  rw [lt_iff, hzero, h, toUnpacked]
  by_cases hm : 0 < m
  · rw [dif_pos hm]
    cases negative <;> simp [hm, sign, UnpackedFloat.lt, UnpackedFloat.compare]
  · rw [dif_neg hm]
    cases negative <;> simp [hm, UnpackedFloat.lt, UnpackedFloat.compare]

/-- Finite numbers are positive, or not greater than zero. -/
theorem le_zero_iff {x : Float} (h : x.isFinite) : x ≤ 0 ↔ ¬ 0 < x := by
  obtain ⟨negative, m, e, hx⟩ := exists_of_isFinite h
  have hzero : toUnpacked (ofFloat 0) = .zero .positive := rfl
  rw [pos_iff hx, le_iff, hzero, hx, toUnpacked]
  by_cases hm : 0 < m
  · rw [dif_pos hm]
    cases negative <;> simp [hm, sign, UnpackedFloat.le, UnpackedFloat.compare]
  · rw [dif_neg hm]
    cases negative <;> simp [hm, UnpackedFloat.le, UnpackedFloat.compare]

end ToneLink.Number.Binary64
