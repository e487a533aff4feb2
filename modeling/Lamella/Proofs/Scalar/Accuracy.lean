import Lamella.Proofs.Scalar.Orderly

/-!
# How exact machine numbers are

Where nothing overflows, a sum, difference, product or quotient of machine numbers is off the exact
result by a small part of it. So a comparison of computed numbers comes out as the comparison of the
exact ones, unless these are almost the same.

## Main definitions

- `Machine.Bounded`: numbers that are not larger than a power of two.
- `Machine.Approximates`: numbers that are off a rational by at most so much.

## Main statements

- `nearest_close`: rounding moves a rational by a small part of it.
- `Machine.sub_bounded` and its like: operations give the numbers nearest to the exact results.
- `Machine.Approximates.lt_iff`, `Machine.Approximates.le_iff`: comparisons of what is apart.
-/

namespace Lamella

/-! ## §1 The error of rounding -/

/-- The error of rounding around zero: half the least spacing. -/
def leastError : ℚ := 2 ^ (-1075 : ℤ)

theorem leastError_pos : 0 < leastError := zpow_two_pos (-1075)

/-- Above the least spacing rounding moves a rational by at most a 2 ^ 53th part of it. -/
theorem nearest_close_of_fine {q : ℚ} (hfine : 2 ^ (spacing q + 52) ≤ |q|) :
    |nearest q - q| ≤ |q| / 2 ^ 53 := by
  refine (nearest_error q).trans ?_
  rw [zpow_add₀ (by norm_num)] at hfine
  rw [le_div_iff₀ (by norm_num)]
  calc (2 : ℚ) ^ spacing q / 2 * 2 ^ 53 = 2 ^ spacing q * 2 ^ (52 : ℤ) := by
        norm_num
        ring
    _ ≤ |q| := hfine

/-- Rounding moves a rational by at most a 2 ^ 53th part of it, or by the least error. -/
theorem nearest_close (q : ℚ) : |nearest q - q| ≤ |q| / 2 ^ 53 + leastError := by
  by_cases hzero : q = 0
  · rw [hzero, nearest_zero, sub_zero, abs_zero, zero_div, zero_add]
    exact leastError_pos.le
  rcases spacing_le_abs hzero with hleast | hfine
  · -- At the least spacing the error does not shrink with the rational
    have hhalf : (2 : ℚ) ^ spacing q / 2 = leastError := by
      rw [hleast, leastError, show (-1074 : ℤ) = -1075 + 1 from rfl, zpow_add₀ (by norm_num)]
      norm_num
    have hnonneg : 0 ≤ |q| / 2 ^ 53 := div_nonneg (abs_nonneg q) (by norm_num)
    linarith [nearest_error q]
  · linarith [nearest_close_of_fine hfine, leastError_pos]

/-- A multiple of the least spacing is moved by at most a 2 ^ 53th part of it, however small it
is. -/
theorem nearest_multiple_close {q : ℚ} {n : ℤ} (h : q = n * 2 ^ (-1074 : ℤ)) :
    |nearest q - q| ≤ |q| / 2 ^ 53 := by
  by_cases hzero : q = 0
  · rw [hzero, nearest_zero, sub_zero, abs_zero, zero_div]
  rcases spacing_le_abs hzero with hleast | hfine
  · rw [nearest_of_multiple (n := n) (by rw [hleast, h]), sub_self, abs_zero]
    exact div_nonneg (abs_nonneg q) (by norm_num)
  · exact nearest_close_of_fine hfine

theorem abs_nearest_le {q : ℚ} {e : ℤ} (he : -1074 ≤ e) (h : |q| ≤ 2 ^ e) :
    |nearest q| ≤ 2 ^ e := by
  have hpower : nearest (2 ^ e) = 2 ^ e := by
    have hmantissa := nearest_of_mantissa (m := 1) (by decide) he
    rwa [Int.cast_one, one_mul] at hmantissa
  obtain ⟨hlow, hhigh⟩ := abs_le.mp h
  rw [abs_le]
  constructor
  · calc -2 ^ e = nearest (-2 ^ e) := by rw [nearest_neg, hpower]
      _ ≤ nearest q := nearest_mono hlow
  · calc nearest q ≤ nearest (2 ^ e) := nearest_mono hhigh
      _ = 2 ^ e := hpower

namespace Machine

open Float.Model (Format UnpackedFloat)
open Float.Model.UnpackedFloat

/-! ## §2 Operations on numbers that are not too large -/

/-- A machine number that is not larger than a power of two. -/
structure Bounded (e : ℤ) (x : Float) : Prop where
  number : IsNumber x
  le : |val x| ≤ 2 ^ e

section

variable {a b x : Float} {d e : ℤ}

theorem Bounded.isFinite (h : Bounded e x) (he : e ≤ 1023) : (view x).isFinite = true := by
  have hpower : (2 : ℚ) ^ e ≤ 2 ^ (1023 : ℤ) := zpow_le_zpow_right₀ (by norm_num) he
  have hlimit : (2 : ℚ) ^ (1023 : ℤ) < beyond := zpow_lt_zpow_right₀ (by norm_num) (by norm_num)
  have hle := h.le
  have hpos : 0 < beyond := zpow_two_pos 1025
  rcases val_cases h.number with ⟨-, hval⟩ | ⟨-, hval⟩ | ⟨hfinite, -⟩
  · rw [hval, abs_of_pos hpos] at hle
    linarith
  · rw [hval, abs_neg, abs_of_pos hpos] at hle
    linarith
  · exact hfinite

/-- A result that is rounded and not too large is the number nearest to the exact one. -/
theorem bounded_of_rounds {u : UnpackedFloat} {q : ℚ}
    (hview : view x = unpack Format.binary64 (pack Format.binary64 u)) (h : Rounds u q)
    (hq : |q| ≤ 2 ^ e) (hleast : -1074 ≤ e) (hmost : e ≤ 1023) :
    val x = nearest q ∧ Bounded e x := by
  obtain ⟨hnumber, hvalue⟩ := h.packed
  have hnearest := abs_nearest_le hleast hq
  have hlimit : |nearest q| < limit := by
    calc |nearest q| ≤ 2 ^ e := hnearest
      _ < limit := zpow_lt_zpow_right₀ (by norm_num) (by omega)
  rw [← hview] at hnumber hvalue
  have hval : val x = nearest q := hvalue.trans (clamp_of_abs_lt hlimit)
  exact ⟨hval, hnumber, by rwa [hval]⟩

theorem sub_bounded (ha : Bounded e a) (hb : Bounded e b) (hleast : -1074 ≤ e) (hmost : e ≤ 1022) :
    val (a - b) = nearest (val a - val b) ∧ Bounded (e + 1) (a - b) := by
  refine bounded_of_rounds (view_sub a b) (sub_rounds (view_canonical a).1 (view_canonical b).1
    (ha.isFinite (by omega)) (hb.isFinite (by omega))) ?_ (by omega) (by omega)
  calc |val a - val b| ≤ |val a| + |val b| := abs_sub _ _
    _ ≤ 2 ^ e + 2 ^ e := add_le_add ha.le hb.le
    _ = 2 ^ (e + 1) := by rw [zpow_add₀ (by norm_num), zpow_one]; ring

theorem add_bounded (ha : Bounded e a) (hb : Bounded e b) (hleast : -1074 ≤ e) (hmost : e ≤ 1022) :
    val (a + b) = nearest (val a + val b) ∧ Bounded (e + 1) (a + b) := by
  refine bounded_of_rounds (view_add a b) (add_rounds (view_canonical a).1 (view_canonical b).1
    (ha.isFinite (by omega)) (hb.isFinite (by omega))) ?_ (by omega) (by omega)
  calc |val a + val b| ≤ |val a| + |val b| := abs_add_le _ _
    _ ≤ 2 ^ e + 2 ^ e := add_le_add ha.le hb.le
    _ = 2 ^ (e + 1) := by rw [zpow_add₀ (by norm_num), zpow_one]; ring

theorem mul_bounded (ha : Bounded d a) (hb : Bounded e b) (hd : d ≤ 1023) (he : e ≤ 1023)
    (hleast : -1074 ≤ d + e) (hmost : d + e ≤ 1023) :
    val (a * b) = nearest (val a * val b) ∧ Bounded (d + e) (a * b) := by
  refine bounded_of_rounds (view_mul a b) (mul_rounds (view_canonical a).1 (view_canonical b).1
    (ha.isFinite hd) (hb.isFinite he)) ?_ hleast hmost
  rw [abs_mul, zpow_add₀ (by norm_num)]
  exact mul_le_mul ha.le hb.le (abs_nonneg _) (zpow_two_pos d).le

/-- Dividing by at least one makes nothing larger. -/
theorem div_bounded (ha : Bounded d a) (hb : Bounded e b) (hd : d ≤ 1023) (he : e ≤ 1023)
    (hleast : -1074 ≤ d) (hone : 1 ≤ |val b|) :
    val (a / b) = nearest (val a / val b) ∧ Bounded d (a / b) := by
  have hne : val b ≠ 0 := abs_pos.mp (by linarith)
  refine bounded_of_rounds (view_div a b) (div_rounds (ha.isFinite hd) (hb.isFinite he) hne) ?_
    hleast hd
  rw [abs_div]
  exact (div_le_self (abs_nonneg _) hone).trans ha.le

/-! ## §3 Approximations -/

/-- A machine number that is off a rational by at most so much. -/
structure Approximates (x : Float) (q δ : ℚ) : Prop where
  number : IsNumber x
  error : |val x - q| ≤ δ

theorem approximates_self (h : IsNumber x) : Approximates x (val x) 0 :=
  ⟨h, by rw [sub_self, abs_zero]⟩

theorem approximates_of_nearest {q : ℚ} (h : IsNumber x) (hval : val x = nearest q) :
    Approximates x q (|q| / 2 ^ 53 + leastError) := ⟨h, by rw [hval]; exact nearest_close q⟩

/-- Rounding what is near to a rational adds the error of rounding. -/
theorem approximates_of_near {p q δ : ℚ} (h : IsNumber x) (hval : val x = nearest p)
    (hpq : |p - q| ≤ δ) : Approximates x q ((|q| + δ) / 2 ^ 53 + leastError + δ) := by
  have hp : |p| ≤ |q| + δ := by linarith [abs_sub_abs_le_abs_sub p q]
  refine ⟨h, ?_⟩
  calc |val x - q| ≤ |val x - p| + |p - q| := abs_sub_le _ _ _
    _ ≤ (|p| / 2 ^ 53 + leastError) + δ := add_le_add (hval ▸ nearest_close p) hpq
    _ ≤ (|q| + δ) / 2 ^ 53 + leastError + δ := by gcongr

namespace Approximates

variable {y : Float} {p q δ ε : ℚ}

theorem mono (hx : Approximates x q δ) (hle : δ ≤ ε) : Approximates x q ε :=
  ⟨hx.number, hx.error.trans hle⟩

/-- What is apart compares as what it approximates. -/
theorem lt_iff (hx : Approximates x p δ) (hy : Approximates y q ε) (hapart : δ + ε < |p - q|) :
    x < y ↔ p < q := by
  obtain ⟨hxlow, hxhigh⟩ := abs_le.mp hx.error
  obtain ⟨hylow, hyhigh⟩ := abs_le.mp hy.error
  rw [Machine.lt_iff]
  constructor
  · rintro ⟨-, -, hlt⟩
    by_contra hge
    rw [abs_of_nonneg (sub_nonneg.mpr (not_lt.mp hge))] at hapart
    linarith
  · intro hlt
    rw [abs_of_neg (sub_neg.mpr hlt)] at hapart
    exact ⟨hx.number, hy.number, by linarith⟩

theorem le_iff (hx : Approximates x p δ) (hy : Approximates y q ε) (hapart : δ + ε < |p - q|) :
    x ≤ y ↔ p ≤ q := by
  obtain ⟨hxlow, hxhigh⟩ := abs_le.mp hx.error
  obtain ⟨hylow, hyhigh⟩ := abs_le.mp hy.error
  rw [Machine.le_iff]
  constructor
  · rintro ⟨-, -, hle⟩
    by_contra hgt
    rw [abs_of_pos (sub_pos.mpr (not_le.mp hgt))] at hapart
    linarith
  · intro hle
    rw [abs_of_nonpos (sub_nonpos.mpr hle)] at hapart
    exact ⟨hx.number, hy.number, by linarith⟩

end Approximates

/-! ## §4 Magnitudes -/

theorem view_neg (a : Float) :
    view (-a) = unpack Format.binary64 (pack Format.binary64 (neg (view a))) := rfl

/-- Changing the sign of a number changes that of its value. -/
theorem val_neg {a : Float} (ha : IsNumber a) : IsNumber (-a) ∧ val (-a) = -val a := by
  have hinfinite : ∀ s, view a = .infinity s →
      IsNumber (-a) ∧ val (-a) = value (.infinity (-s)) := by
    intro s hs
    have hview : view (-a) = .infinity (-s) := by
      rw [view_neg, hs]
      exact unpack_pack_infinity (-s)
    exact ⟨by rw [IsNumber, hview]; exact nofun, by rw [val, hview]⟩
  rcases val_cases ha with ⟨hview, hval⟩ | ⟨hview, hval⟩ | ⟨hfinite, -⟩
  · obtain ⟨hnumber, hneg⟩ := hinfinite _ hview
    exact ⟨hnumber, by rw [hneg, hval]; exact value_negative⟩
  · obtain ⟨hnumber, hneg⟩ := hinfinite _ hview
    exact ⟨hnumber, by rw [hneg, hval, neg_neg]; exact value_positive⟩
  · -- The digits stay, so nothing is rounded
    have hcanonical := (view_canonical a).1
    have hrounds : Rounds (neg (view a)) (-val a) := by
      unfold val
      cases hview : view a with
      | notANumber => exact absurd hview ha
      | infinity s =>
        rw [hview] at hfinite
        cases hfinite
      | zero s =>
        show Rounds (.zero (-s)) (-0)
        rw [neg_zero]
        exact rounds_zero (-s)
      | finite s m e hm =>
        rw [hview] at hcanonical
        rw [← value_neg_finite]
        exact rounds_self (u := .finite (-s) m e hm) hcanonical rfl
    have hpacked := hrounds.packed
    rw [← view_neg] at hpacked
    refine ⟨hpacked.1, hpacked.2.trans ?_⟩
    rw [nearest_neg, clamp_neg, clamp_val ha]

/-- The magnitude of a number is that of its value. -/
theorem val_abs {a : Float} (ha : IsNumber a) :
    IsNumber (Scalar.abs a) ∧ val (Scalar.abs a) = |val a| := by
  obtain ⟨hzero, hval0⟩ := val_zero
  obtain ⟨hneg, hneg'⟩ := val_neg ha
  unfold Scalar.abs
  by_cases hlt : a < Scalar.ofInt 0
  · have hbelow : val a < 0 := hval0 ▸ (lt_iff.mp hlt).2.2
    rw [if_pos hlt, hneg', abs_of_neg hbelow]
    exact ⟨hneg, rfl⟩
  · have hnonneg : 0 ≤ val a := val_nonneg_of_not_lt ha hlt
    rw [if_neg hlt, abs_of_nonneg hnonneg]
    cases hsame : Scalar.isZero a with
    | true =>
      -- Both zeros count as zero
      have hle : a ≤ Scalar.ofInt 0 := by
        simp only [Scalar.isZero, Scalar.same, Bool.and_eq_true, decide_eq_true_eq] at hsame
        exact hsame.1
      have hval := (le_iff.mp hle).2.2
      rw [hval0] at hval
      rw [if_pos rfl, hval0]
      exact ⟨hzero, le_antisymm hnonneg hval⟩
    | false => exact ⟨ha, rfl⟩

end

end Machine

end Lamella
