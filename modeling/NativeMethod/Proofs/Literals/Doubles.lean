import Mathlib.Data.Rat.Floor
import Mathlib.Tactic.FieldSimp
import Mathlib.Tactic.NormNum
import Mathlib.Tactic.Positivity
import NativeMethod.Literal.Native

/-!
# Doubles — the number that a double denotes

A finite double denotes a dyadic fraction, which its bits give exactly.  Truncation works on mantissa and
exponent alone, and that it loses nothing but the fraction of the number is shown here:

* `Binary64.value` — the number, by the definition of the format;
* `towardZero` — what is left of a number without its fraction;
* `Binary64.truncate_eq` — a double is truncated exactly, be it subnormal or too large for any integer
  type;
* `toInt_clamp64` — what becomes of the result, as only 64 bits are kept.
-/

namespace NativeMethod

/-! ## Truncation -/

/-- The integer that is left of a number without its fraction. -/
def towardZero (q : ℚ) : ℤ := if q < 0 then ⌈q⌉ else ⌊q⌋

theorem towardZero_of_nonneg {q : ℚ} (h : 0 ≤ q) : towardZero q = (⌊q⌋₊ : ℤ) := by
  have hfloor : (⌊q⌋₊ : ℤ) = ⌊q⌋ := Int.natCast_floor_eq_floor h
  rw [towardZero, if_neg (not_lt.2 h), hfloor]

/-- Truncation does not see the sign. -/
theorem towardZero_neg (q : ℚ) : towardZero (-q) = -towardZero q := by
  rcases lt_trichotomy q 0 with hnegative | rfl | hpositive
  · simp [towardZero, hnegative, hnegative.le.not_gt, Int.floor_neg]
  · simp [towardZero]
  · simp [towardZero, hpositive, hpositive.le.not_gt, Int.ceil_neg]

/-! ## The number denoted -/

namespace Binary64

/-- The magnitude of a finite value: the fraction stands behind a leading one, or behind a leading zero if
the exponent is the least. -/
def magnitude (x : Binary64) : ℚ :=
  if x.exponentField = 0 then (x.fractionField / 2 ^ 52) * 2 ^ (-1022 : ℤ)
  else (1 + x.fractionField / 2 ^ 52) * 2 ^ ((x.exponentField : ℤ) - 1023)

/-- The number that the bits of a finite value denote. -/
def value (x : Binary64) : ℚ := if x.isNegative then -x.magnitude else x.magnitude

theorem scale_fraction (q : ℚ) (e : ℤ) : q / 2 ^ 52 * (2 : ℚ) ^ e = q * 2 ^ (e - 52) := by
  have hunit : (2 : ℚ) ^ (e - 52) = 2 ^ e / 2 ^ 52 := by
    rw [zpow_sub₀ two_ne_zero]
    norm_cast
  rw [hunit]
  ring

/-- The stored fields give the magnitude as an integer at a scale. -/
theorem magnitude_eq (x : Binary64) : x.magnitude = x.mantissa * (2 : ℚ) ^ x.exponent := by
  by_cases hzero : x.exponentField = 0
  · have hexponent : x.exponent = -1022 - 52 := by
      simp [exponent, hzero]
    rw [magnitude, if_pos hzero, scale_fraction, hexponent, mantissa, if_pos hzero]
  · have hexponent : x.exponent = (x.exponentField : ℤ) - 1023 - 52 := by
      unfold exponent
      omega
    have hleading : 1 + (x.fractionField : ℚ) / 2 ^ 52 =
        ((Nat.pow 2 52 + x.fractionField : ℕ) : ℚ) / 2 ^ 52 := by
      push_cast
      field_simp
      norm_num
    rw [magnitude, if_neg hzero, hleading, scale_fraction, hexponent, mantissa, if_neg hzero]

theorem magnitude_nonneg (x : Binary64) : 0 ≤ x.magnitude := by
  have hscale : 0 < (2 : ℚ) ^ x.exponent := zpow_pos two_pos _
  rw [magnitude_eq]
  positivity

theorem floor_magnitude (x : Binary64) : ⌊x.magnitude⌋₊ = x.wholePart := by
  rw [magnitude_eq]
  unfold wholePart
  split
  · rename_i e he
    -- nothing stands behind the point
    have hwhole : x.mantissa * (2 : ℚ) ^ (Int.ofNat e) = ((x.mantissa * Nat.pow 2 e : ℕ) : ℚ) := by
      simp
    rw [he, hwhole, Nat.floor_natCast]
  · rename_i e he
    have hquotient : x.mantissa * (2 : ℚ) ^ (Int.negSucc e) =
        (x.mantissa : ℚ) / (Nat.pow 2 (e + 1) : ℕ) := by
      simp [zpow_negSucc, div_eq_mul_inv]
    rw [he, hquotient, Rat.natFloor_natCast_div_natCast]

/-- Truncation is exact, whatever the exponent. -/
theorem truncate_eq (x : Binary64) : x.truncate = towardZero x.value := by
  have hmagnitude : towardZero x.magnitude = x.wholePart := by
    rw [towardZero_of_nonneg x.magnitude_nonneg, floor_magnitude]
  unfold truncate value
  split
  · rw [towardZero_neg, hmagnitude]
  · exact hmagnitude.symm

end Binary64

/-! ## Integers of 64 bits -/

theorem toInt_clamp64 (n : ℤ) : (clamp64 n).toInt = max (-2 ^ 63) (min n (2 ^ 63 - 1)) := by
  have hlow : Int64.minValue.toInt = -2 ^ 63 := by decide
  have hhigh : Int64.maxValue.toInt = 2 ^ 63 - 1 := by decide
  rw [clamp64, hlow, hhigh]
  apply Int64.toInt_ofInt_of_le
  · exact le_max_left _ _
  · omega

end NativeMethod
