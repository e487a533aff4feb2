import Lamella.Proofs.Scalar.Numerals

/-!
# What scalars read as

Laws of arithmetic can be stated on the exact values of scalars: sums and differences that are small
enough to be told apart exactly are told apart by scalars too.

## Main definitions

- `Scalar.Faithful`: the class of scalar types with these laws.

## Main statements

- `Machine.val_ofInt`: an integer becomes the machine number nearest to it.
- `Machine.abs_lt_of_scalarOfInt`: if that is finite, the integer is not too large.
- Exact numbers and machine numbers are faithful.
-/

namespace Lamella

/-- Scalars whose comparisons, and whose comparisons of differences, come out as those of the exact
values wherever these are scalars themselves. -/
class Scalar.Faithful (R : Type) [Scalar R] : Prop extends Scalar.Orderly R where
  lt_of_reading {a b : R} {p q : ℚ} :
    reading a = .finite p → reading b = .finite q → p < q → a < b
  /-- An integer with a scalar next to it is a scalar. -/
  reading_ofInt {a : R} {q : ℚ} {n : ℤ} :
    reading a = .finite q → |q - n| ≤ 1 / 2 → reading (Scalar.ofInt n : R) = .finite n
  reading_zero : reading (Scalar.ofInt 0 : R) = .finite 0
  reading_add_zero {a : R} {q : ℚ} :
    reading a = .finite q → reading (a + Scalar.ofInt 0) = .finite q
  abs_sub_le {a b c : R} {p q r : ℚ} : reading a = .finite p → reading b = .finite q →
    reading c = .finite r → |p - q| ≤ r → Scalar.abs (a - b) ≤ c
  le_abs_sub {a b c : R} {p q r : ℚ} : reading a = .finite p → reading b = .finite q →
    reading c = .finite r → r ≤ |p - q| → c ≤ Scalar.abs (a - b)
  reading_half : reading (0.5 : R) = .finite (1 / 2)
  reading_seven_tenths : ∃ q, reading (0.7 : R) = .finite q ∧ |q - 7 / 10| ≤ 1 / 10

/-! ## §1 Exact numbers -/

instance : Scalar.Faithful Rat where
  lt_of_reading ha hb hpq := by
    cases ha
    cases hb
    exact hpq
  reading_ofInt _ _ := rfl
  reading_zero := by decide +kernel
  reading_add_zero {a q} ha := by
    cases ha
    show Reading.finite (a + ((0 : ℤ) : ℚ)) = _
    rw [Int.cast_zero, add_zero]
  abs_sub_le ha hb hc h := by
    cases ha
    cases hb
    cases hc
    rwa [Scalar.abs_rat]
  le_abs_sub ha hb hc h := by
    cases ha
    cases hb
    cases hc
    rwa [Scalar.abs_rat]
  reading_half := by decide +kernel
  reading_seven_tenths := ⟨7 / 10, by decide +kernel, by norm_num⟩

namespace Machine

open Float.Model (Format UnpackedFloat totalExponent)
open Float.Model.UnpackedFloat

/-! ## §2 Integers -/

theorem val_ofNat (n : ℕ) : IsNumber (Float.ofNat n) ∧ val (Float.ofNat n) = clamp (nearest n) := by
  have hval := val_ofScientific n false 0
  rwa [if_neg Bool.false_ne_true, Nat.cast_zero, zpow_zero, mul_one] at hval

/-- **An integer becomes the machine number nearest to it.** -/
theorem val_ofInt (n : ℤ) : IsNumber (Scalar.ofInt n) ∧
    val (Scalar.ofInt n) = clamp (nearest n) := by
  cases n with
  | ofNat n =>
    rw [Int.ofNat_eq_natCast, Int.cast_natCast]
    exact val_ofNat n
  | negSucc n =>
    obtain ⟨hnumber, hval⟩ := val_ofNat (n + 1)
    obtain ⟨hnumber', hval'⟩ := val_neg hnumber
    refine ⟨hnumber', hval'.trans ?_⟩
    rw [hval, Int.cast_negSucc, nearest_neg, clamp_neg]

/-- What is put into the range of machine numbers stays as it is, unless it becomes infinite. -/
theorem clamp_of_clamp_lt {q : ℚ} (h : |clamp q| < limit) : clamp q = q := by
  have hpos : (0 : ℚ) < beyond := zpow_two_pos 1025
  have hfar : limit < beyond := by rw [beyond_eq]; linarith [limit_pos]
  unfold clamp at h ⊢
  split_ifs at h ⊢ with habove hbelow
  · rw [abs_of_pos hpos] at h
    exact absurd h (not_lt.mpr hfar.le)
  · rw [abs_neg, abs_of_pos hpos] at h
    exact absurd h (not_lt.mpr hfar.le)
  · rfl

/-- An integer that is a machine number is the nearest one. -/
theorem of_scalarOfInt {n : Int} {x : Float} (h : Value.scalarOfInt n = .ok x) :
    x = Scalar.ofInt n ∧ IsNumber x ∧ |val x| < limit ∧ val x = nearest n := by
  unfold Value.scalarOfInt Scalar.ofInt? at h
  dsimp only at h
  cases hread : Scalar.reading (Scalar.ofInt n : Float) with
  | undefined =>
    rw [hread] at h
    cases h
  | infinite negative =>
    rw [hread] at h
    cases h
  | finite q =>
    rw [hread] at h
    obtain rfl := Except.ok.inj h
    obtain ⟨hnumber, hlimit, -⟩ := reading_eq_finite.mp hread
    have hval := (val_ofInt n).2
    rw [hval] at hlimit
    rw [clamp_of_clamp_lt hlimit] at hval
    exact ⟨rfl, hnumber, by rwa [clamp_of_clamp_lt hlimit, ← hval] at hlimit, hval⟩

/-- Only integers of up to 1024 binary digits are machine numbers. -/
theorem abs_lt_of_scalarOfInt {n : Int} {x : Float} (h : Value.scalarOfInt n = .ok x) :
    |(n : ℚ)| < limit := by
  obtain ⟨-, -, hlimit, hval⟩ := of_scalarOfInt h
  rw [hval] at hlimit
  obtain ⟨hlow, hhigh⟩ := abs_lt.mp hlimit
  refine abs_lt.mpr ⟨?_, ?_⟩
  · by_contra hfar
    have hnearest := nearest_mono (not_lt.mp hfar)
    rw [nearest_neg, nearest_limit] at hnearest
    exact absurd hlow (not_lt.mpr hnearest)
  · by_contra hfar
    have hnearest := nearest_mono (not_lt.mp hfar)
    rw [nearest_limit] at hnearest
    exact absurd hhigh (not_lt.mpr hnearest)

/-- A machine number of 53 binary digits or more is an integer. -/
theorem exists_int_of_large {x : Float} (hx : IsNumber x) (hlimit : |val x| < limit)
    (hlarge : 2 ^ 52 ≤ |val x|) : ∃ n : ℤ, val x = n := by
  obtain ⟨hcanonical, -⟩ := view_canonical x
  unfold val at hlimit hlarge ⊢
  cases hview : view x with
  | notANumber => exact absurd hview hx
  | zero s => exact ⟨0, Int.cast_zero.symm⟩
  | infinity s =>
    rw [hview] at hlimit
    exact absurd hlimit (not_lt_of_infinity s)
  | finite s m e hm =>
    rw [hview] at hcanonical hlarge
    have hsize : |value (.finite s m e hm)| = m * 2 ^ e := by
      rw [value_finite, abs_mul, abs_of_pos (magnitude_pos e hm)]
      cases s <;> norm_num [Sign.apply]
    have he : 0 ≤ e := by
      by_contra hneg
      have hm' : (m : ℚ) < 2 ^ 53 := by exact_mod_cast hcanonical.1
      have hhalf : (2 : ℚ) ^ e ≤ 2 ^ (-1 : ℤ) :=
        zpow_le_zpow_right₀ (by norm_num) (by omega)
      have hlt : (m : ℚ) * 2 ^ e < 2 ^ 52 :=
        calc (m : ℚ) * 2 ^ e < 2 ^ 53 * 2 ^ e := mul_lt_mul_of_pos_right hm' (zpow_two_pos e)
          _ ≤ 2 ^ 53 * 2 ^ (-1 : ℤ) := mul_le_mul_of_nonneg_left hhalf (by norm_num)
          _ = 2 ^ 52 := by norm_num
      rw [hsize] at hlarge
      exact absurd hlarge (not_le.mpr hlt)
    obtain ⟨k, rfl⟩ := Int.eq_ofNat_of_zero_le he
    refine ⟨s.apply 1 * (m * 2 ^ k), ?_⟩
    rw [value_finite]
    push_cast
    rfl

/-! ## §3 Sums and differences of finite numbers -/

section

variable {a b c : Float}

/-- Adding zero leaves a value alone. -/
theorem val_add_zero (ha : IsNumber a) (hlimit : |val a| < limit) :
    IsNumber (a + Scalar.ofInt 0) ∧ val (a + Scalar.ofInt 0) = val a := by
  have hpacked := (add_rounds (view_canonical a).1 (view_canonical (Scalar.ofInt 0)).1
    (isFinite_of_lt ha hlimit) rfl).packed
  rw [← view_add] at hpacked
  refine ⟨hpacked.1, hpacked.2.trans ?_⟩
  have hzero : value (view (Scalar.ofInt 0)) = 0 := val_zero.2
  rw [hzero, add_zero]
  exact clamp_val ha

theorem abs_clamp_nearest (q : ℚ) : |clamp (nearest q)| = clamp (nearest |q|) := by
  rcases le_total 0 q with hq | hq
  · have hnonneg := clamp_mono (nearest_nonneg hq)
    rw [clamp_zero] at hnonneg
    rw [abs_of_nonneg hq, abs_of_nonneg hnonneg]
  · have hnonpos := clamp_mono (nearest_nonpos hq)
    rw [clamp_zero] at hnonpos
    rw [abs_of_nonpos hq, abs_of_nonpos hnonpos, nearest_neg, clamp_neg]

/-- **The distance of two finite numbers** is the exact distance, rounded and put into the range of
machine numbers. -/
theorem val_abs_sub (ha : IsNumber a) (hb : IsNumber b) (hlimit : |val a| < limit) :
    IsNumber (Scalar.abs (a - b)) ∧
      val (Scalar.abs (a - b)) = clamp (nearest |val a - val b|) := by
  have hpos := limit_pos
  have hbeyond := beyond_eq
  obtain ⟨hlow, hhigh⟩ := abs_lt.mp hlimit
  obtain ⟨hnumber, hval⟩ :=
    val_sub ha hb (fun h => by linarith [h.1]) (fun h => by linarith [h.1])
  obtain ⟨hnumber', hval'⟩ := val_abs hnumber
  exact ⟨hnumber', by rw [hval', hval, abs_clamp_nearest]⟩

end

end Machine

/-! ## §4 Machine numbers -/

open Machine in
instance : Scalar.Faithful Float where
  lt_of_reading ha hb hpq := by
    obtain ⟨hna, -, rfl⟩ := reading_eq_finite.mp ha
    obtain ⟨hnb, -, rfl⟩ := reading_eq_finite.mp hb
    exact lt_iff.mpr ⟨hna, hnb, hpq⟩
  reading_ofInt {a q n} ha hnear := by
    obtain ⟨hna, hlimit, rfl⟩ := reading_eq_finite.mp ha
    obtain ⟨hnumber, hval⟩ := val_ofInt n
    -- The integer has few digits, or it is the value of the scalar next to it
    have hexact : nearest n = n ∧ |(n : ℚ)| < limit := by
      by_cases hsmall : |n| < 2 ^ 53
      · have hnearest := nearest_of_mantissa (e := 0) hsmall (by norm_num)
        rw [zpow_zero, mul_one] at hnearest
        have hsmall' : |(n : ℚ)| < 2 ^ (53 : ℤ) := by exact_mod_cast hsmall
        exact ⟨hnearest, hsmall'.trans (zpow_lt_zpow_right₀ (by norm_num) (by norm_num))⟩
      · have hlarge : (2 : ℚ) ^ 53 ≤ |(n : ℚ)| := by exact_mod_cast not_lt.mp hsmall
        have hdistance := abs_sub_abs_le_abs_sub (n : ℚ) (val a)
        rw [abs_sub_comm] at hdistance
        obtain ⟨k, hk⟩ := exists_int_of_large hna hlimit (by linarith)
        have hkn : k = n := by
          rw [hk] at hnear
          have hlt : |k - n| < 1 := by
            have : |((k - n : ℤ) : ℚ)| < 1 := by
              push_cast
              linarith
            exact_mod_cast this
          exact sub_eq_zero.mp (Int.abs_lt_one_iff.mp hlt)
        rw [← hkn, ← hk]
        exact ⟨nearest_value (view_canonical a).1, hlimit⟩
    rw [hexact.1, clamp_of_abs_lt hexact.2] at hval
    exact reading_eq_finite.mpr ⟨hnumber, by rw [hval]; exact hexact.2, hval⟩
  reading_zero := by decide +kernel
  reading_add_zero ha := by
    obtain ⟨hna, hlimit, rfl⟩ := reading_eq_finite.mp ha
    obtain ⟨hnumber, hval⟩ := val_add_zero hna hlimit
    exact reading_eq_finite.mpr ⟨hnumber, by rwa [hval], hval⟩
  abs_sub_le ha hb hc h := by
    obtain ⟨hna, hlimit, rfl⟩ := reading_eq_finite.mp ha
    obtain ⟨hnb, -, rfl⟩ := reading_eq_finite.mp hb
    obtain ⟨hnc, -, rfl⟩ := reading_eq_finite.mp hc
    obtain ⟨hnumber, hval⟩ := val_abs_sub hna hnb hlimit
    refine le_iff.mpr ⟨hnumber, hnc, ?_⟩
    rw [hval, ← clamp_val hnc]
    exact clamp_mono (nearest_mono h)
  le_abs_sub ha hb hc h := by
    obtain ⟨hna, hlimit, rfl⟩ := reading_eq_finite.mp ha
    obtain ⟨hnb, -, rfl⟩ := reading_eq_finite.mp hb
    obtain ⟨hnc, -, rfl⟩ := reading_eq_finite.mp hc
    obtain ⟨hnumber, hval⟩ := val_abs_sub hna hnb hlimit
    refine le_iff.mpr ⟨hnc, hnumber, ?_⟩
    rw [hval, ← clamp_val hnc]
    exact clamp_mono (nearest_mono h)
  reading_half := by decide +kernel
  reading_seven_tenths := ⟨3152519739159347 / 4503599627370496, by decide +kernel, by norm_num⟩

end Lamella
