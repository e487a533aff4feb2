import Lamella.Proofs.Scalar.Operations

/-!
# Quotients of machine numbers

A quotient is computed with as many digits as its rounding can ask for, and how the rest compares
with one half. Where the quotient lies below the least exponent it may have no digits at all. So a
quotient, like the other operations, is the exact result, rounded.

## Main statements

- `Machine.StandsFor.fraction`: a quotient of integers and its remainder stand for the fraction.
- `Machine.div_rounds`: a quotient is the machine number nearest to the exact quotient.
-/

namespace Lamella.Machine

open Float.Model (Format UnpackedFloat totalExponent)
open Float.Model.UnpackedFloat

/-! ## §1 Quotients of mantissas -/

/-- A quotient of integers, with the comparison of its remainder and half the divisor, stands for
the fraction. -/
theorem StandsFor.fraction (a : ℕ) {b : ℕ} (hb : 0 < b) :
    StandsFor (.ofMantissaAndAccuracy (a / b) (accuracyOfFraction (a % b) b)) (a / b) := by
  have hbpos : (0 : ℚ) < b := Nat.cast_pos.mpr hb
  have hsplit : (a : ℚ) / b = (a / b : ℕ) + (a % b : ℕ) / b := by
    have hdivmod : (a : ℚ) = b * (a / b : ℕ) + (a % b : ℕ) := by
      exact_mod_cast (Nat.div_add_mod a b).symm
    rw [eq_comm, ← sub_eq_zero]
    field_simp
    linarith
  have hless : ((a % b : ℕ) : ℚ) / b < 1 := by
    rw [div_lt_one hbpos]
    exact_mod_cast Nat.mod_lt a hb
  rw [hsplit]
  generalize a / b = d
  generalize a % b = r at hless
  unfold accuracyOfFraction
  by_cases hr : r = 0
  · rw [if_pos hr, hr, Nat.cast_zero, zero_div, add_zero]
    exact StandsFor.exact d
  · have hrpos : (0 : ℚ) < r / b := div_pos (Nat.cast_pos.mpr (Nat.pos_of_ne_zero hr)) hbpos
    rw [if_neg hr]
    -- The remainder is compared with half the divisor
    rcases lt_trichotomy (2 * r) b with hlt | heq | hgt
    · have hhalf : (r : ℚ) / b < 1 / 2 := by
        have hcast : (2 : ℚ) * r < b := by exact_mod_cast hlt
        rw [div_lt_iff₀ hbpos]
        linarith
      rw [compare_lt_iff_lt.mpr hlt]
      show (d : ℚ) < d + r / b ∧ (d : ℚ) + r / b < d + 1 / 2
      constructor <;> linarith
    · have hhalf : (r : ℚ) / b = 1 / 2 := by
        have hcast : (2 : ℚ) * r = b := by exact_mod_cast heq
        rw [div_eq_iff hbpos.ne']
        linarith
      rw [compare_eq_iff_eq.mpr heq]
      show (d : ℚ) + r / b = d + 1 / 2
      rw [hhalf]
    · have hhalf : 1 / 2 < (r : ℚ) / b := by
        have hcast : (b : ℚ) < 2 * r := by exact_mod_cast hgt
        rw [lt_div_iff₀ hbpos]
        linarith
      rw [compare_gt_iff_gt.mpr hgt]
      show (d : ℚ) + 1 / 2 < d + r / b ∧ (d : ℚ) + r / b < d + 1
      constructor <;> linarith

/-- A quotient of mantissas has digits to drop, or lies below the least exponent, where it may be
zero. -/
theorem divCore_target {m n : ℕ} {e f : ℤ} (hm : 0 < m) (hn : 0 < n) :
    let core := divCore Format.binary64 m e n f
    core.2.1 ≤ e - f ∧ (0 < core.1 ∨ core.2.1 ≤ -1022) ∧
      core.2.1 ≤ Format.binary64.targetExponent (totalExponent core.1 core.2.1) := by
  intro core
  have hexponent : core.2.1 = min (e - f) (max (m.log2 - n.log2 + (e - f) - 53) (-1074)) := by
    show min (e - f) (Format.binary64.targetExponent (totalExponent m e - totalExponent n f)) = _
    rw [targetExponent_total, totalExponent, totalExponent]
    congr 2
    ring
  have hmantissa : core.1 = (m <<< (e - f - core.2.1).toNat) / n := rfl
  have hle : core.2.1 ≤ e - f := by
    rw [hexponent]
    exact min_le_left _ _
  rw [targetExponent_eq]
  rcases le_or_gt core.2.1 (-1074) with hlow | hhigh
  · exact ⟨hle, .inr (by omega), hlow.trans (le_max_right _ _)⟩
  · -- Above the least exponent the quotient has at least 53 digits
    have hshift : n.log2 + 53 ≤ (e - f - core.2.1).toNat + m.log2 := by omega
    have hdigits : 2 ^ 52 ≤ core.1 := by
      rw [hmantissa, Nat.le_div_iff_mul_le hn, Nat.shiftLeft_eq]
      calc 2 ^ 52 * n ≤ 2 ^ 52 * 2 ^ (n.log2 + 1) := Nat.mul_le_mul_left _ Nat.lt_log2_self.le
        _ = 2 ^ (n.log2 + 53) := by
            rw [← pow_add]
            congr 1
            omega
        _ ≤ 2 ^ ((e - f - core.2.1).toNat + m.log2) := Nat.pow_le_pow_right (by omega) hshift
        _ = 2 ^ m.log2 * 2 ^ (e - f - core.2.1).toNat := by rw [← pow_add, add_comm]
        _ ≤ m * 2 ^ (e - f - core.2.1).toNat :=
            Nat.mul_le_mul_right _ (Nat.log2_self_le hm.ne')
    have hpos : 0 < core.1 := by omega
    have hlog : 52 ≤ core.1.log2 := (Nat.le_log2 hpos.ne').mpr hdigits
    exact ⟨hle, .inl hpos, by omega⟩

/-! ## §2 Quotients of numbers -/

section

variable {a b : UnpackedFloat}

theorem apply_div (s t : Sign) : (((s / t).apply 1 : ℤ) : ℚ) =
    ((s.apply 1 : ℤ) : ℚ) / ((t.apply 1 : ℤ) : ℚ) := by
  have hsigns : (s / t).apply 1 * t.apply 1 = s.apply 1 := by cases s <;> cases t <;> rfl
  have hne : ((t.apply 1 : ℤ) : ℚ) ≠ 0 := by cases t <;> norm_num [Sign.apply]
  rw [eq_div_iff hne]
  exact_mod_cast hsigns

/-- The dividend gets digits until the quotient of the mantissas has enough of them. -/
theorem div_finite_rounds (s t : Sign) {m n : ℕ} {e f : ℤ} (hm : 0 < m) (hn : 0 < n) :
    Rounds (div Format.binary64 (.finite s m e hm) (.finite t n f hn))
      (value (.finite s m e hm) / value (.finite t n f hn)) := by
  obtain ⟨hle, hdigits, htarget⟩ := divCore_target (e := e) (f := f) hm hn
  set core := divCore Format.binary64 m e n f with hcore
  obtain ⟨k, hk⟩ := Int.le.dest hle
  have hshift : (e - f - core.2.1).toNat = k := by omega
  have hstands : StandsFor (.ofMantissaAndAccuracy core.1 core.2.2) ((m <<< k : ℕ) / n) := by
    have hfraction := StandsFor.fraction (m <<< k) hn
    rwa [← hshift] at hfraction ⊢
  have hpos : (0 : ℚ) < (m <<< k : ℕ) / n := by
    rw [Nat.shiftLeft_eq]
    exact div_pos (by exact_mod_cast Nat.mul_pos hm (Nat.two_pow_pos k)) (Nat.cast_pos.mpr hn)
  obtain ⟨hcanonical, hvalue⟩ := roundWithAccuracy_value (s / t) hpos hdigits hstands htarget
  have hdiv : div Format.binary64 (.finite s m e hm) (.finite t n f hn) =
      roundWithAccuracy Format.binary64 (s / t) core.1 core.2.1 core.2.2 := rfl
  rw [hdiv]
  refine ⟨hcanonical, roundWithAccuracy_finite (s / t) core.1 core.2.1 core.2.2, ?_⟩
  have hquotient : value (.finite s m e hm) / value (.finite t n f hn) =
      (((s / t).apply 1 : ℤ) : ℚ) * ((m <<< k : ℕ) / n * 2 ^ core.2.1) := by
    have hpower : (2 : ℚ) ^ e / 2 ^ f = 2 ^ core.2.1 * 2 ^ k := by
      rw [← zpow_sub₀ (by norm_num), ← hk, zpow_add₀ (by norm_num), zpow_natCast]
    rw [value_finite, value_finite, apply_div, Nat.shiftLeft_eq]
    push_cast
    rw [mul_div_mul_comm, mul_div_mul_comm, hpower]
    ring
  rw [hvalue, hquotient, nearest_signed]

/-- A quotient is the machine number nearest to the exact quotient, unless the divisor is zero. -/
theorem div_rounds (hfa : a.isFinite = true) (hfb : b.isFinite = true) (hne : value b ≠ 0) :
    Rounds (div Format.binary64 a b) (value a / value b) := by
  cases b with
  | notANumber => cases hfb
  | infinity t => cases hfb
  | zero t => exact absurd rfl hne
  | finite t n f hn =>
    cases a with
    | notANumber => cases hfa
    | infinity s => cases hfa
    | zero s =>
      have hquotient : value (.zero s) / value (.finite t n f hn) = 0 := zero_div _
      rw [hquotient]
      exact rounds_zero (s / t)
    | finite s m e hm => exact div_finite_rounds s t hm hn

end

end Lamella.Machine
