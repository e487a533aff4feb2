import Lamella.Proofs.Scalar.Readings

/-!
# Signs of sums, and percentages

A sum of machine numbers keeps the sign of the exact sum, however small that is, since no difference
of two of them lies below the least machine number. A percentage is a product and a quotient, each
of them rounded, so that it can come out above a hundred; but not by more than one place, and not at
all where the product is exact.

## Main statements

- `Machine.add_nonneg_iff`: a sum is below zero just if the exact sum is.
- `Machine.percent_nonneg_iff`: a percentage of an integer is below zero just if the integer is.
- `Machine.percent_le_hundred`, `Machine.percent_le`: a part is at most a hundred percent of the
  whole, up to rounding.
-/

namespace Lamella.Machine

open Float.Model (Format UnpackedFloat)
open Float.Model.UnpackedFloat

variable {a b x : Float}

/-! ## §1 Signs of sums -/

/-- Finite machine numbers are multiples of the least of them. -/
theorem exists_multiple (ha : IsNumber a) (hlimit : |val a| < limit) :
    ∃ n : ℤ, val a = n * 2 ^ (-1074 : ℤ) := by
  have hfinite := isFinite_of_lt ha hlimit
  obtain ⟨hcanonical, -⟩ := view_canonical a
  unfold val
  cases hview : view a with
  | notANumber => exact absurd hview ha
  | infinity s =>
    rw [hview] at hfinite
    cases hfinite
  | zero s => exact ⟨0, by rw [Int.cast_zero, zero_mul]; rfl⟩
  | finite s m e hm =>
    rw [hview] at hcanonical
    obtain ⟨k, hk⟩ := Int.eq_ofNat_of_zero_le (sub_nonneg.mpr hcanonical.2.1)
    have he : e = k + -1074 := by omega
    refine ⟨s.apply m * 2 ^ k, ?_⟩
    show ((s.apply m : ℤ) : ℚ) * 2 ^ e = _
    rw [he, zpow_add₀ (by norm_num), zpow_natCast, ← mul_assoc, Int.cast_mul, Int.cast_pow]
    rfl

theorem lt_limit_of_le {q : ℚ} {e : ℤ} (h : q ≤ 2 ^ e) (he : e ≤ 1023) : q < limit :=
  h.trans_lt (zpow_lt_zpow_right₀ (by norm_num) (by omega))

/-- Mantissas of 53 binary digits stay as they are, at the exponents of finite numbers. -/
theorem clamp_of_mantissa {m e : ℤ} (hm : |m| < 2 ^ 53) (hleast : -1074 ≤ e) (hmost : e ≤ 970) :
    clamp (nearest (m * 2 ^ e)) = m * 2 ^ e := by
  rw [nearest_of_mantissa hm hleast]
  refine clamp_of_abs_lt (lt_limit_of_le (e := 53 + e) ?_ (by omega))
  rw [abs_mul, abs_of_pos (zpow_two_pos e), zpow_add₀ (by norm_num)]
  refine mul_le_mul_of_nonneg_right ?_ (zpow_two_pos e).le
  exact_mod_cast hm.le

/-- **A sum has the sign of the exact sum.** -/
theorem add_nonneg_iff (ha : IsNumber a) (hb : IsNumber b) (hla : |val a| < limit)
    (hlb : |val b| < limit) : 0 ≤ val (a + b) ↔ 0 ≤ val a + val b := by
  have hpacked := (add_rounds (view_canonical a).1 (view_canonical b).1 (isFinite_of_lt ha hla)
    (isFinite_of_lt hb hlb)).packed.2
  rw [← view_add] at hpacked
  have hval : val (a + b) = clamp (nearest (val a + val b)) := hpacked
  rw [hval]
  constructor
  · intro hsum
    by_contra hneg
    -- Below zero the exact sum is at most the negative of the least machine number
    obtain ⟨m, hm⟩ := exists_multiple ha hla
    obtain ⟨n, hn⟩ := exists_multiple hb hlb
    have hpos := zpow_two_pos (-1074)
    have hmn : val a + val b = (m + n : ℤ) * 2 ^ (-1074 : ℤ) := by
      rw [hm, hn, Int.cast_add, add_mul]
    have hlt : m + n ≤ -1 := by
      rw [hmn, not_le] at hneg
      have hcast : ((m + n : ℤ) : ℚ) < 0 := by
        by_contra hge
        exact absurd (mul_nonneg (not_lt.mp hge) hpos.le) (not_le.mpr hneg)
      have : m + n < 0 := by exact_mod_cast hcast
      omega
    have hleast : val a + val b ≤ (-1 : ℤ) * 2 ^ (-1074 : ℤ) := by
      rw [hmn]
      exact mul_le_mul_of_nonneg_right (by exact_mod_cast hlt) hpos.le
    have hdown := clamp_mono (nearest_mono hleast)
    rw [clamp_of_mantissa (by decide) le_rfl (by norm_num), Int.cast_neg, Int.cast_one,
      neg_one_mul] at hdown
    exact absurd (hsum.trans hdown) (not_le.mpr (neg_neg_of_pos hpos))
  · intro hsum
    rw [← clamp_zero]
    exact clamp_mono (nearest_nonneg hsum)

/-- What has a finite sum with a finite number is finite. -/
theorem abs_val_lt_of_add (h : IsNumber (a + b)) (hlimit : |val (a + b)| < limit)
    (hlb : |val b| < limit) : |val a| < limit := by
  obtain ⟨ha, hb⟩ := isNumber_of_add h
  have hfinite := isFinite_of_lt hb hlb
  have hinfinite : ∀ s, view a = .infinity s → val (a + b) = value (.infinity s) := by
    intro s hs
    rw [val, view_add, hs, (add_infinity_left s hfinite).1, unpack_pack_infinity]
  rcases val_cases ha with ⟨hview, -⟩ | ⟨hview, -⟩ | ⟨-, hval⟩
  · rw [hinfinite _ hview] at hlimit
    exact absurd hlimit (not_lt_of_infinity _)
  · rw [hinfinite _ hview] at hlimit
    exact absurd hlimit (not_lt_of_infinity _)
  · exact hval

/-- The factors of a finite product are finite. -/
theorem isFinite_of_mul (h : IsNumber (a * b)) (hlimit : |val (a * b)| < limit) :
    (view a).isFinite = true ∧ (view b).isFinite = true := by
  obtain ⟨ha, hb⟩ := isNumber_of_mul h
  -- With an infinity among the factors the product is one, or no number
  have hinfinite : ∀ s, mul Format.binary64 (view a) (view b) ≠ .infinity s := by
    intro s hs
    rw [val, view_mul, hs, unpack_pack_infinity] at hlimit
    exact not_lt_of_infinity s hlimit
  have hnone : mul Format.binary64 (view a) (view b) ≠ .notANumber := by
    intro hs
    rw [IsNumber, view_mul, hs] at h
    exact h rfl
  cases hva : view a with
  | notANumber => exact absurd hva ha
  | infinity s =>
    rw [hva] at hinfinite hnone
    cases hvb : view b with
    | notANumber => exact absurd hvb hb
    | infinity t => exact absurd (by rw [hvb]; rfl) (hinfinite (s * t))
    | zero t => exact absurd (by rw [hvb]; rfl) hnone
    | finite t n f hn => exact absurd (by rw [hvb]; rfl) (hinfinite (s * t))
  | zero s =>
    rw [hva] at hnone
    cases hvb : view b with
    | notANumber => exact absurd hvb hb
    | infinity t => exact absurd (by rw [hvb]; rfl) hnone
    | zero t => exact ⟨rfl, rfl⟩
    | finite t n f hn => exact ⟨rfl, rfl⟩
  | finite s m e hm =>
    rw [hva] at hinfinite
    cases hvb : view b with
    | notANumber => exact absurd hvb hb
    | infinity t => exact absurd (by rw [hvb]; rfl) (hinfinite (s * t))
    | zero t => exact ⟨rfl, rfl⟩
    | finite t n f hn => exact ⟨rfl, rfl⟩

/-- A finite product is the exact product, rounded. -/
theorem val_mul (h : IsNumber (a * b)) (hlimit : |val (a * b)| < limit) :
    val (a * b) = nearest (val a * val b) := by
  obtain ⟨hfa, hfb⟩ := isFinite_of_mul h hlimit
  have hpacked := (mul_rounds (view_canonical a).1 (view_canonical b).1 hfa hfb).packed.2
  rw [← view_mul] at hpacked
  have hval : val (a * b) = clamp (nearest (val a * val b)) := hpacked
  rw [hval] at hlimit ⊢
  exact clamp_of_clamp_lt hlimit

/-! ## §2 Quotients by what is above zero -/

theorem neg_beyond_le_clamp (q : ℚ) : -beyond ≤ clamp q ∧ clamp q ≤ beyond := by
  have hpos := limit_pos
  have hbeyond := beyond_eq
  unfold clamp
  split_ifs <;> constructor <;> linarith

/-- Dividing by a finite number above zero leaves infinities alone, and rounds the quotient of
anything else. -/
theorem val_div (hx : IsNumber x) (hb : IsNumber b) (hpos : 0 < val b) (hlb : |val b| < limit) :
    IsNumber (x / b) ∧
      ((val x = beyond ∧ val (x / b) = beyond) ∨ (val x = -beyond ∧ val (x / b) = -beyond) ∨
        (|val x| < limit ∧ val (x / b) = clamp (nearest (val x / val b)))) := by
  have hfinite := isFinite_of_lt hb hlb
  have hinfinite : ∀ s, view x = .infinity s → view (x / b) = .infinity s := by
    intro s hs
    rcases view_of_pos hb hpos with hview | ⟨m, e, hm, hview⟩
    · rw [hview] at hfinite
      cases hfinite
    · have hdiv : div Format.binary64 (view x) (view b) = .infinity s := by
        rw [hs, hview]
        cases s <;> rfl
      rw [view_div, hdiv, unpack_pack_infinity]
  rcases val_cases hx with ⟨hview, hval⟩ | ⟨hview, hval⟩ | ⟨hfinitex, hlimit⟩
  · have hresult := hinfinite _ hview
    exact ⟨by rw [IsNumber, hresult]; exact fun h => UnpackedFloat.noConfusion h,
      .inl ⟨hval, by rw [val, hresult, value_positive]⟩⟩
  · have hresult := hinfinite _ hview
    exact ⟨by rw [IsNumber, hresult]; exact fun h => UnpackedFloat.noConfusion h,
      .inr (.inl ⟨hval, by rw [val, hresult, value_negative]⟩)⟩
  · have hpacked := (div_rounds hfinitex hfinite hpos.ne').packed
    rw [← view_div] at hpacked
    exact ⟨hpacked.1, .inr (.inr ⟨hlimit, hpacked.2⟩)⟩

/-- What is at most so many times as large has at most that quotient, if the count is a machine
number and nothing is infinite. -/
theorem div_val_le (hx : IsNumber x) (hb : IsNumber b) (hpos : 0 < val b) (hlb : |val b| < limit)
    {c : ℚ} (hc : clamp (nearest c) = c) (hlimit : val x < limit) (h : val x ≤ c * val b) :
    val (x / b) ≤ c := by
  have hlimit0 := limit_pos
  have hbeyond := beyond_eq
  rcases (val_div hx hb hpos hlb).2 with ⟨hval, -⟩ | ⟨-, hval⟩ | ⟨-, hval⟩
  · linarith
  · rw [hval, ← hc]
    exact (neg_beyond_le_clamp _).1
  · rw [hval, ← hc]
    exact clamp_mono (nearest_mono ((div_le_iff₀ hpos).mpr h))

/-- What is not below zero has no quotient below it. -/
theorem div_val_nonneg_of_nonneg (hx : IsNumber x) (hb : IsNumber b) (hpos : 0 < val b)
    (hlb : |val b| < limit) (h : 0 ≤ val x) : 0 ≤ val (x / b) := by
  have hlimit := limit_pos
  have hbeyond := beyond_eq
  rcases (val_div hx hb hpos hlb).2 with ⟨-, hval⟩ | ⟨hval, -⟩ | ⟨-, hval⟩
  · linarith
  · linarith
  · rw [hval, ← clamp_zero]
    exact clamp_mono (nearest_nonneg (div_nonneg h hpos.le))

/-! ## §3 Percentages -/

/-- Integers of up to 53 binary digits stay as they are. -/
theorem nearest_intCast {n : ℤ} (hn : |n| < 2 ^ 53) : nearest n = n := by
  simpa using nearest_of_mantissa (e := 0) hn (by norm_num)

theorem val_hundred : IsNumber (100.0 : Float) ∧ val (100.0 : Float) = 100 := by
  have hview : view (100.0 : Float) = .finite .positive (100 * 2 ^ 46) (-46) (by norm_num) := rfl
  obtain ⟨hnumber, hval⟩ := number_of_view hview
  refine ⟨hnumber, hval.trans ?_⟩
  show ((100 * 2 ^ 46 : ℕ) : ℚ) * 2 ^ (-46 : ℤ) = 100
  norm_num

theorem clamp_hundred : clamp (nearest 100) = 100 := by
  simpa using clamp_of_mantissa (m := 100) (e := 0) (by decide) (by norm_num) (by norm_num)

/-- A hundred times a finite number is the exact product, rounded and put into the range of machine
numbers. -/
theorem val_hundred_mul (ha : IsNumber a) (hla : |val a| < limit) :
    IsNumber (100.0 * a) ∧ val (100.0 * a) = clamp (nearest (100 * val a)) := by
  obtain ⟨hnumber, hval⟩ := val_hundred
  have hfinite : (view (100.0 : Float)).isFinite = true := by
    refine isFinite_of_lt hnumber ?_
    rw [hval, abs_of_pos (by norm_num)]
    exact lt_limit_of_le (e := 7) (by norm_num) (by norm_num)
  have hpacked := (mul_rounds (view_canonical 100.0).1 (view_canonical a).1 hfinite
    (isFinite_of_lt ha hla)).packed
  rw [← view_mul] at hpacked
  refine ⟨hpacked.1, hpacked.2.trans ?_⟩
  have hvalue : value (view 100.0) = 100 := hval
  rw [hvalue]
  rfl

/-- Rounding the product of a hundred and at least one moves it by less than one place of a
hundred. -/
theorem nearest_hundred_le {q : ℚ} (hone : 1 ≤ q) :
    nearest (100 * q) ≤ (100 + 2 ^ (-46 : ℤ)) * q := by
  have hclose := (abs_le.mp (nearest_close (100 * q))).2
  rw [abs_of_pos (by linarith)] at hclose
  have herror : leastError ≤ q / 2 ^ 53 := by
    have hsmall : leastError ≤ 1 / 2 ^ 53 := by
      rw [leastError, one_div, ← zpow_natCast, ← zpow_neg]
      exact zpow_le_zpow_right₀ (by norm_num) (by norm_num)
    exact hsmall.trans (div_le_div_of_nonneg_right hone (by norm_num))
  have hplaces : 100 * q / 2 ^ 53 + q / 2 ^ 53 ≤ 2 ^ (-46 : ℤ) * q := by
    rw [← add_div, div_le_iff₀ (by norm_num)]
    norm_num
    linarith
  rw [add_mul]
  calc nearest (100 * q) ≤ 100 * q + (100 * q / 2 ^ 53 + leastError) :=
        sub_le_iff_le_add'.mp hclose
    _ ≤ 100 * q + 2 ^ (-46 : ℤ) * q :=
        add_le_add_right ((add_le_add_right herror _).trans hplaces) _

section

variable (ha : IsNumber a) (hla : |val a| < limit) (hb : IsNumber b) (hlb : |val b| < limit)
  (hone : 1 ≤ val b)

include ha hla hb hlb hone

/-- **A percentage is below zero just if its part is**, where that is no fraction. -/
theorem percent_nonneg_iff (hpart : 0 ≤ val a ∨ val a ≤ -1) :
    0 ≤ val (100.0 * a / b) ↔ 0 ≤ val a := by
  have hpos : 0 < val b := by linarith
  obtain ⟨hnumber, hval⟩ := val_hundred_mul ha hla
  constructor
  · intro hpercent
    by_contra hneg
    have hle : val a ≤ -1 := hpart.resolve_left hneg
    -- A hundred below zero, divided by anything finite, does not become zero
    have hfar : val (100.0 * a) ≤ -100 := by
      have hdown := clamp_mono (nearest_mono (show 100 * val a ≤ -100 by linarith))
      rwa [nearest_neg, clamp_neg, clamp_hundred, ← hval] at hdown
    have hscaled : (2 : ℚ) ^ (-1018 : ℤ) * val b ≤ 64 := by
      calc (2 : ℚ) ^ (-1018 : ℤ) * val b ≤ 2 ^ (-1018 : ℤ) * limit :=
            mul_le_mul_of_nonneg_left ((le_abs_self _).trans hlb.le) (zpow_two_pos _).le
        _ = 2 ^ (6 : ℤ) := by rw [limit, ← zpow_add₀ (by norm_num)]; norm_num
        _ = 64 := by norm_num
    have hquotient := div_val_le (c := (-1 : ℤ) * 2 ^ (-1018 : ℤ)) hnumber hb hpos hlb
      (clamp_of_mantissa (by decide) (by norm_num) (by norm_num)) (by linarith [limit_pos]) (by
        rw [Int.cast_neg, Int.cast_one, neg_one_mul, neg_mul]
        linarith)
    rw [Int.cast_neg, Int.cast_one, neg_one_mul] at hquotient
    exact absurd (hpercent.trans hquotient) (not_le.mpr (neg_neg_of_pos (zpow_two_pos _)))
  · intro hnonneg
    refine div_val_nonneg_of_nonneg hnumber hb hpos hlb ?_
    rw [hval, ← clamp_zero]
    exact clamp_mono (nearest_nonneg (by linarith))

/-- A part of a whole is at most a hundred percent of it, if a hundred times the whole is a machine
number. -/
theorem percent_le_hundred (hle : val a ≤ val b) (hexact : nearest (100 * val b) = 100 * val b)
    (hlimit : 100 * val b < limit) : val (100.0 * a / b) ≤ 100 := by
  obtain ⟨hnumber, hval⟩ := val_hundred_mul ha hla
  have hwhole : |100 * val b| < limit := by rwa [abs_of_pos (by linarith)]
  have hproduct : val (100.0 * a) ≤ 100 * val b := by
    rw [hval, ← clamp_of_abs_lt hwhole]
    conv_rhs => rw [← hexact]
    exact clamp_mono (nearest_mono (by linarith))
  exact div_val_le hnumber hb (by linarith) hlb clamp_hundred (by linarith) hproduct

/-- **A part of a whole is at most a hundred percent of it and one place more**, unless a hundred
times the part is out of range. -/
theorem percent_le (hle : val a ≤ val b) :
    val (100.0 * a / b) ≤ 100 + 2 ^ (-46 : ℤ) ∨ val (100.0 * a / b) = beyond := by
  have hpos : 0 < val b := zero_lt_one.trans_le hone
  obtain ⟨hnumber, hval⟩ := val_hundred_mul ha hla
  rcases (val_div hnumber hb hpos hlb).2 with ⟨-, hinfinite⟩ | ⟨-, hinfinite⟩ | ⟨hrange, -⟩
  · exact .inr hinfinite
  · refine .inl (hinfinite.trans_le ?_)
    have hbeyond : (0 : ℚ) < beyond := zpow_two_pos 1025
    exact (neg_nonpos.mpr hbeyond.le).trans (add_pos (by norm_num) (zpow_two_pos _)).le
  · left
    -- Rounding the product of the whole moves it by a small part, less than one place of a hundred
    have hproduct : val (100.0 * a) ≤ nearest (100 * val b) := by
      have hscaled : 100 * val a ≤ 100 * val b := mul_le_mul_of_nonneg_left hle (by norm_num)
      rw [hval] at hrange ⊢
      rw [clamp_of_clamp_lt hrange]
      exact nearest_mono hscaled
    have hplace : clamp (nearest (100 + 2 ^ (-46 : ℤ))) = 100 + 2 ^ (-46 : ℤ) := by
      have hmantissa : (100 + 2 ^ (-46 : ℤ) : ℚ) = (100 * 2 ^ 46 + 1 : ℤ) * 2 ^ (-46 : ℤ) := by
        norm_num
      rw [hmantissa]
      exact clamp_of_mantissa (by decide) (by norm_num) (by norm_num)
    exact div_val_le hnumber hb hpos hlb hplace (lt_of_abs_lt hrange)
      (hproduct.trans (nearest_hundred_le hone))

end

end Lamella.Machine
