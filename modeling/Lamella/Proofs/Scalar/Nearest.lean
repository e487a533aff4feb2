import Lamella.Proofs.Scalar.Exact
import Mathlib.Data.Int.Log
import Mathlib.Tactic.Ring

/-!
# The machine number nearest to a rational

Around a rational, machine numbers lie on a grid whose spacing is a power of two: fine enough for 53
binary digits, but never finer than the spacing around zero. Rounding to the nearest point of that
grid, of two the even one, keeps the order and leaves the points of the grid where they are.

## Main definitions

- `spacing`: the exponent of the spacing of machine numbers around a rational.
- `nearest`: the grid point nearest to a rational, whatever its size.

## Main statements

- `nearest_mono`: rounding keeps the order.
- `nearest_of_mantissa`: numbers of 53 binary digits are their own nearest.
- `nearest_error`: rounding moves a rational by at most half the spacing.
-/

namespace Lamella

/-! ## §1 The nearest integer -/

theorem roundHalfEven_bounds (q : ℚ) : ⌊q⌋ ≤ roundHalfEven q ∧ roundHalfEven q ≤ ⌊q⌋ + 1 := by
  have hfloor : q.floor = ⌊q⌋ := rfl
  unfold roundHalfEven
  dsimp only
  rw [hfloor]
  split_ifs <;> omega

/-- Rounding to an integer moves a rational by at most one half. -/
theorem roundHalfEven_error (q : ℚ) : |(roundHalfEven q : ℚ) - q| ≤ 1 / 2 := by
  have hfloor : q.floor = ⌊q⌋ := rfl
  have hlow := Int.floor_le q
  have hhigh := Int.lt_floor_add_one q
  unfold roundHalfEven
  dsimp only
  rw [hfloor]
  split_ifs <;> rw [abs_le] <;> push_cast <;> constructor <;> linarith

/-- The integer next to a rational is the nearest. -/
theorem roundHalfEven_of_near {q : ℚ} {n : ℤ} (h : |q - n| < 1 / 2) : roundHalfEven q = n := by
  have herror := roundHalfEven_error q
  have hsum : |((roundHalfEven q - n : ℤ) : ℚ)| < 1 := by
    push_cast
    calc |(roundHalfEven q : ℚ) - n| ≤ |(roundHalfEven q : ℚ) - q| + |q - n| := abs_sub_le _ _ _
      _ < 1 := by linarith
  have hlt : |roundHalfEven q - n| < 1 := by exact_mod_cast hsum
  exact sub_eq_zero.mp (Int.abs_lt_one_iff.mp hlt)

theorem roundHalfEven_mono {a b : ℚ} (hab : a ≤ b) : roundHalfEven a ≤ roundHalfEven b := by
  rcases (Int.floor_mono hab).lt_or_eq with hlt | heq
  · calc roundHalfEven a ≤ ⌊a⌋ + 1 := (roundHalfEven_bounds a).2
      _ ≤ ⌊b⌋ := hlt
      _ ≤ roundHalfEven b := (roundHalfEven_bounds b).1
  · -- Between two integers only the excess decides
    have ha : a.floor = ⌊a⌋ := rfl
    have hb : b.floor = ⌊b⌋ := rfl
    unfold roundHalfEven
    dsimp only
    rw [ha, hb, heq]
    split_ifs <;> first | omega | (exfalso; linarith)

theorem roundHalfEven_neg (q : ℚ) : roundHalfEven (-q) = -roundHalfEven q := by
  by_cases hint : (⌊q⌋ : ℚ) = q
  · rw [← hint, ← Int.cast_neg, roundHalfEven_intCast, roundHalfEven_intCast]
  · have hlow : (⌊q⌋ : ℚ) < q := lt_of_le_of_ne (Int.floor_le q) hint
    have hhigh := Int.lt_floor_add_one q
    -- Between integers the excess over the floor turns into what it lacks to one
    have hneg : ⌊-q⌋ = -⌊q⌋ - 1 := by
      rw [Int.floor_eq_iff]
      push_cast
      constructor <;> linarith
    have hq : q.floor = ⌊q⌋ := rfl
    have hq' : (-q).floor = ⌊-q⌋ := rfl
    unfold roundHalfEven
    dsimp only
    rw [hq, hq', hneg]
    push_cast
    split_ifs <;> first | omega | (exfalso; linarith)

/-! ## §2 The nearest point of the grid -/

/-- The exponent of the spacing of machine numbers around a rational. -/
def spacing (q : ℚ) : ℤ := max (Int.log 2 |q| - 52) (-1074)

/-- The point nearest to a rational on the grid of machine numbers around it. -/
def nearest (q : ℚ) : ℚ := roundHalfEven (q / 2 ^ spacing q) * 2 ^ spacing q

theorem spacing_neg (q : ℚ) : spacing (-q) = spacing q := by rw [spacing, abs_neg, spacing]

theorem nearest_neg (q : ℚ) : nearest (-q) = -nearest q := by
  rw [nearest, spacing_neg, neg_div, roundHalfEven_neg, Int.cast_neg, neg_mul, nearest]

theorem zpow_two_pos (e : ℤ) : (0 : ℚ) < 2 ^ e := zpow_pos (by norm_num) e

theorem abs_lt_of_log_lt {q : ℚ} {e : ℤ} (h : Int.log 2 |q| < e) : |q| < 2 ^ e := by
  calc |q| < (2 : ℕ) ^ (Int.log 2 |q| + 1) := Int.lt_zpow_succ_log_self (by norm_num) |q|
    _ ≤ 2 ^ e := zpow_le_zpow_right₀ (by norm_num) h

theorem le_abs_of_le_log {q : ℚ} {e : ℤ} (hq : q ≠ 0) (h : e ≤ Int.log 2 |q|) : 2 ^ e ≤ |q| := by
  calc (2 : ℚ) ^ e ≤ (2 : ℕ) ^ Int.log 2 |q| := zpow_le_zpow_right₀ (by norm_num) h
    _ ≤ |q| := Int.zpow_log_le_self (by norm_num) (abs_pos.mpr hq)

/-- A rational has at most 53 binary digits before the spacing around it. -/
theorem abs_lt_spacing (q : ℚ) : |q| < 2 ^ (spacing q + 53) := by
  refine abs_lt_of_log_lt ?_
  have : Int.log 2 |q| - 52 ≤ spacing q := le_max_left _ _
  omega

/-- Away from zero a rational has no fewer. -/
theorem spacing_le_abs {q : ℚ} (hq : q ≠ 0) : spacing q = -1074 ∨ 2 ^ (spacing q + 52) ≤ |q| := by
  rcases max_choice (Int.log 2 |q| - 52) (-1074) with hfine | hleast
  · refine .inr (le_abs_of_le_log hq ?_)
    have : spacing q = Int.log 2 |q| - 52 := hfine
    omega
  · exact .inl hleast

/-- Integer multiples of the spacing are their own nearest. -/
theorem nearest_of_multiple {q : ℚ} {n : ℤ} (h : q = n * 2 ^ spacing q) : nearest q = q := by
  have hquotient : q / 2 ^ spacing q = n := by
    rw [div_eq_iff (zpow_two_pos _).ne']
    exact h
  rw [nearest, hquotient, roundHalfEven_intCast, ← h]

@[simp] theorem nearest_zero : nearest 0 = 0 := nearest_of_multiple (n := 0) (by simp)

/-- Numbers of at most 53 binary digits are their own nearest. -/
theorem nearest_of_mantissa {m e : ℤ} (hm : |m| < 2 ^ 53) (he : -1074 ≤ e) :
    nearest (m * 2 ^ e) = m * 2 ^ e := by
  by_cases hzero : m = 0
  · rw [hzero, Int.cast_zero, zero_mul, nearest_zero]
  have hq : |(m : ℚ) * 2 ^ e| < 2 ^ (53 + e) := by
    rw [abs_mul, abs_of_pos (zpow_two_pos e), zpow_add₀ (by norm_num)]
    have hm' : |(m : ℚ)| < 2 ^ (53 : ℤ) := by exact_mod_cast hm
    exact mul_lt_mul_of_pos_right hm' (zpow_two_pos e)
  -- So the spacing is at most the last digit's exponent, which makes the number a multiple of it
  have hlog : Int.log 2 |(m : ℚ) * 2 ^ e| < 53 + e := by
    by_contra hge
    have hne : (m : ℚ) * 2 ^ e ≠ 0 := mul_ne_zero (Int.cast_ne_zero.mpr hzero) (zpow_two_pos e).ne'
    exact absurd (le_abs_of_le_log hne (not_lt.mp hge)) (not_le.mpr hq)
  have hspacing : spacing (m * 2 ^ e) ≤ e := max_le (by omega) he
  obtain ⟨k, hk⟩ := Int.le.dest hspacing
  refine nearest_of_multiple (n := m * 2 ^ k) ?_
  push_cast
  rw [mul_assoc, ← zpow_natCast, ← zpow_add₀ (by norm_num), add_comm (k : ℤ), hk]

/-- Rounding moves a rational by at most half the spacing around it. -/
theorem nearest_error (q : ℚ) : |nearest q - q| ≤ 2 ^ spacing q / 2 := by
  have hpos := zpow_two_pos (spacing q)
  -- In units of the spacing this is the error of rounding to an integer
  have hscaled : nearest q - q =
      (roundHalfEven (q / 2 ^ spacing q) - q / 2 ^ spacing q) * 2 ^ spacing q := by
    rw [nearest, sub_mul, div_mul_cancel₀ _ hpos.ne']
  rw [hscaled, abs_mul, abs_of_pos hpos]
  calc |(roundHalfEven (q / 2 ^ spacing q) : ℚ) - q / 2 ^ spacing q| * 2 ^ spacing q
      ≤ 1 / 2 * 2 ^ spacing q := mul_le_mul_of_nonneg_right (roundHalfEven_error _) hpos.le
    _ = 2 ^ spacing q / 2 := by ring

/-! ## §3 Rounding keeps the order -/

/-- The rounded mantissa does not pass an integer. -/
theorem mantissa_le_of_le {q : ℚ} {n : ℤ} (h : q ≤ n * 2 ^ spacing q) :
    roundHalfEven (q / 2 ^ spacing q) ≤ n := by
  rw [← roundHalfEven_intCast n]
  exact roundHalfEven_mono ((div_le_iff₀ (zpow_two_pos _)).mpr h)

theorem le_mantissa_of_le {q : ℚ} {n : ℤ} (h : n * 2 ^ spacing q ≤ q) :
    n ≤ roundHalfEven (q / 2 ^ spacing q) := by
  rw [← roundHalfEven_intCast n]
  exact roundHalfEven_mono ((le_div_iff₀ (zpow_two_pos _)).mpr h)

/-- A rounded mantissa has at most 53 binary digits, or is the power of two with one more. -/
theorem mantissa_le {q : ℚ} (hq : 0 < q) : roundHalfEven (q / 2 ^ spacing q) ≤ 2 ^ 53 := by
  have hlt := abs_lt_spacing q
  rw [abs_of_pos hq, zpow_add₀ (by norm_num), mul_comm] at hlt
  refine mantissa_le_of_le ?_
  exact_mod_cast hlt.le

/-- A rounded mantissa has no fewer digits, unless the spacing is the least. -/
theorem le_mantissa {q : ℚ} (hq : 0 < q) :
    spacing q = -1074 ∨ 2 ^ 52 ≤ roundHalfEven (q / 2 ^ spacing q) := by
  rcases spacing_le_abs hq.ne' with hleast | hle
  · exact .inl hleast
  · right
    rw [abs_of_pos hq, zpow_add₀ (by norm_num), mul_comm] at hle
    refine le_mantissa_of_le ?_
    exact_mod_cast hle

/-- Rounding does not pass a multiple of the spacing. -/
theorem nearest_le_of_multiple {q : ℚ} {n : ℤ} (h : q ≤ n * 2 ^ spacing q) :
    nearest q ≤ n * 2 ^ spacing q :=
  mul_le_mul_of_nonneg_right (Int.cast_le.mpr (mantissa_le_of_le h)) (zpow_two_pos _).le

theorem multiple_le_nearest {q : ℚ} {n : ℤ} (h : n * 2 ^ spacing q ≤ q) :
    n * 2 ^ spacing q ≤ nearest q :=
  mul_le_mul_of_nonneg_right (Int.cast_le.mpr (le_mantissa_of_le h)) (zpow_two_pos _).le

theorem nearest_nonneg {q : ℚ} (hq : 0 ≤ q) : 0 ≤ nearest q := by
  have h := multiple_le_nearest (q := q) (n := 0) (by simpa using hq)
  simpa using h

theorem nearest_nonpos {q : ℚ} (hq : q ≤ 0) : nearest q ≤ 0 := by
  have h := nearest_nonneg (neg_nonneg.mpr hq)
  rw [nearest_neg] at h
  linarith

theorem nearest_mono_of_pos {a b : ℚ} (ha : 0 < a) (hab : a ≤ b) : nearest a ≤ nearest b := by
  have hb : 0 < b := ha.trans_le hab
  have hlog : Int.log 2 |a| ≤ Int.log 2 |b| := by
    rw [abs_of_pos ha, abs_of_pos hb]
    exact Int.log_mono_right ha hab
  have hspacing : spacing a ≤ spacing b := max_le_max (by omega) le_rfl
  rcases hspacing.eq_or_lt with heq | hlt
  · -- On one grid the nearest integers decide
    have hpos := zpow_two_pos (spacing b)
    unfold nearest
    rw [heq]
    have hround := roundHalfEven_mono ((div_le_div_iff_of_pos_right hpos).mpr hab)
    exact mul_le_mul_of_nonneg_right (Int.cast_le.mpr hround) hpos.le
  · -- A power of two, which lies on both grids, separates the rationals
    have hfine : spacing b = Int.log 2 |b| - 52 := by
      refine max_eq_left ?_
      by_contra hcoarse
      have hleast : spacing b = -1074 := max_eq_right (not_le.mp hcoarse).le
      have := le_max_right (Int.log 2 |a| - 52) (-1074)
      rw [hleast] at hlt
      exact absurd hlt (not_lt.mpr this)
    have hsmall : Int.log 2 |a| < spacing b + 52 := by
      have := le_max_left (Int.log 2 |a| - 52) (-1074)
      have : Int.log 2 |a| - 52 ≤ spacing a := this
      omega
    have hlow : a ≤ 2 ^ (spacing b + 52) := by
      have := abs_lt_of_log_lt hsmall
      rw [abs_of_pos ha] at this
      exact this.le
    have hhigh : 2 ^ (spacing b + 52) ≤ b := by
      have := le_abs_of_le_log hb.ne' (e := spacing b + 52) (by omega)
      rwa [abs_of_pos hb] at this
    have hmultiple : ∀ e, e ≤ spacing b + 52 →
        ∃ n : ℤ, (2 : ℚ) ^ (spacing b + 52) = n * 2 ^ e := by
      intro e he
      obtain ⟨k, hk⟩ := Int.le.dest he
      refine ⟨2 ^ k, ?_⟩
      push_cast
      rw [← zpow_natCast, ← zpow_add₀ (by norm_num), add_comm (k : ℤ), hk]
    obtain ⟨n, hn⟩ := hmultiple (spacing a) (by omega)
    obtain ⟨m, hm⟩ := hmultiple (spacing b) (by omega)
    calc nearest a ≤ n * 2 ^ spacing a := nearest_le_of_multiple (hn ▸ hlow)
      _ = m * 2 ^ spacing b := hn.symm.trans hm
      _ ≤ nearest b := multiple_le_nearest (hm ▸ hhigh)

/-- Rounding keeps the order. -/
theorem nearest_mono {a b : ℚ} (hab : a ≤ b) : nearest a ≤ nearest b := by
  rcases lt_or_ge 0 a with ha | ha
  · exact nearest_mono_of_pos ha hab
  rcases lt_or_ge b 0 with hb | hb
  · have h := nearest_mono_of_pos (neg_pos.mpr hb) (neg_le_neg hab)
    rw [nearest_neg, nearest_neg] at h
    exact neg_le_neg_iff.mp h
  · exact (nearest_nonpos ha).trans (nearest_nonneg hb)

end Lamella
