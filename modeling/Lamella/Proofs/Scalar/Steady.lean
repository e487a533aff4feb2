import Lamella.Proofs.Scalar.Steps

/-!
# Steady scalars

Adding a finite number to two numbers, or scaling a number by one above zero, is rounded and may
overflow, but it neither turns an order around nor leaves the numbers. Thresholds that are widened
or scaled therefore admit what they admitted before.

## Main definitions

- `Scalar.Steady`: the class of scalar types with these laws.
- `Scalar.Exact`: the class of those that do not round at all.

## Main statements

- `Machine.val_add`, `Machine.val_mul_of_pos`: sums and products with a finite number.
- Exact numbers and machine numbers are steady, and exact numbers are exact.
-/

namespace Lamella

/-- Whether a reading is finite can be told. -/
instance (r : Reading) : Decidable (∃ q, r = .finite q) :=
  match r with
  | .finite q => .isTrue ⟨q, rfl⟩
  | .infinite _ => .isFalse (by simp)
  | .undefined => .isFalse (by simp)

/-- Scalars whose order survives finite shifts and scaling by finite numbers above zero. As all that
compares is a number, results that compare are told to be numbers. -/
class Scalar.Steady (R : Type) [Scalar R] : Prop extends Scalar.Ranked R where
  le_refl_of_le {a b : R} : a ≤ b → a ≤ a ∧ b ≤ b
  le_refl_of_add {a b : R} : a + b ≤ a + b → a ≤ a
  le_refl_of_mul {a b : R} : a * b ≤ a * b → a ≤ a
  le_refl_of_reading {a : R} {q : ℚ} : reading a = .finite q → a ≤ a
  /-- Between finite numbers lie only finite ones. -/
  reading_of_between {a b x : R} {p q : ℚ} : reading a = .finite p → reading b = .finite q →
    a ≤ x → x ≤ b → ∃ r, reading x = .finite r
  add_le_add {a b c : R} {q : ℚ} : reading c = .finite q → a ≤ b → a + c ≤ b + c
  mul_nonneg {a c : R} {q : ℚ} : reading c = .finite q → 0 < q →
    Scalar.ofInt 0 ≤ a → Scalar.ofInt 0 ≤ a * c
  mul_nonpos {a c : R} {q : ℚ} : reading c = .finite q → 0 < q →
    a ≤ Scalar.ofInt 0 → a * c ≤ Scalar.ofInt 0
  mul_le_self {a c : R} {q : ℚ} : reading c = .finite q → 0 < q → q ≤ 1 →
    Scalar.ofInt 0 ≤ a → a * c ≤ a
  reading_ofInt_of_small {n : ℤ} : |n| < 2 ^ 53 → reading (Scalar.ofInt n : R) = .finite n
  reading_half : reading (0.5 : R) = .finite (1 / 2)
  reading_quarter : reading (0.25 : R) = .finite (1 / 4)
  reading_slack : ∃ q, reading (1e-9 : R) = .finite q

namespace Scalar

variable {R : Type} [Scalar R] [Scalar.Ranked R] {a b : R}

theorem le_of_lt (h : a < b) : a ≤ b := (Ranked.lt_iff_le_not_le.mp h).1

theorem not_le_of_lt (h : a < b) : ¬ b ≤ a := (Ranked.lt_iff_le_not_le.mp h).2

/-- Of two numbers the one that is not above the other is at most as large. -/
theorem le_of_not_lt (ha : a ≤ a) (hb : b ≤ b) (h : ¬ b < a) : a ≤ b := by
  rcases Comparable.le_total ha hb with hle | hle
  · exact hle
  · by_contra hnot
    exact h (Ranked.lt_iff_le_not_le.mpr ⟨hle, hnot⟩)

/-- Of two numbers the one that is not at most as large is above the other. -/
theorem lt_of_not_le (ha : a ≤ a) (hb : b ≤ b) (h : ¬ b ≤ a) : a < b :=
  Ranked.lt_iff_le_not_le.mpr ⟨le_of_not_lt ha hb fun hlt => h (le_of_lt hlt), h⟩

end Scalar

/-! ## §1 Exact numbers -/

instance : Scalar.Steady Rat where
  le_refl_of_le _ := ⟨le_rfl, le_rfl⟩
  le_refl_of_add _ := le_rfl
  le_refl_of_mul _ := le_rfl
  le_refl_of_reading _ := le_rfl
  reading_of_between {_ _ x _ _} _ _ _ _ := ⟨x, rfl⟩
  add_le_add {a b c _} _ h := by
    have hab : a ≤ b := h
    linarith
  mul_nonneg {a c q} hc hq h := by
    cases hc
    exact mul_nonneg h hq.le
  mul_nonpos {a c q} hc hq h := by
    cases hc
    exact mul_nonpos_of_nonpos_of_nonneg h hq.le
  mul_le_self {a c q} hc _ hone h := by
    cases hc
    exact mul_le_of_le_one_right h hone
  reading_ofInt_of_small _ := rfl
  reading_half := by decide +kernel
  reading_quarter := by decide +kernel
  reading_slack := ⟨1e-9, rfl⟩

namespace Machine

open Float.Model (Format UnpackedFloat)
open Float.Model.UnpackedFloat

variable {a b x : Float}

/-! ## §2 Sums and products with a finite number -/

/-- What an operation makes of an infinity and another number, where it keeps the infinity. -/
theorem val_of_view_infinity {s : Sign} (h : view x = .infinity s) :
    IsNumber x ∧ val x = value (.infinity s) :=
  ⟨by rw [IsNumber, h]; exact fun heq => UnpackedFloat.noConfusion heq, by rw [val, h]⟩

/-- **A sum with a finite number** is the exact sum, rounded and put into the range of machine
numbers. -/
theorem val_add (ha : IsNumber a) (hb : IsNumber b) (hlb : |val b| < limit) :
    IsNumber (a + b) ∧ val (a + b) = clamp (nearest (val a + val b)) := by
  have hpos := limit_pos
  have hbeyond := beyond_eq
  obtain ⟨hlow, hhigh⟩ := abs_lt.mp hlb
  have hfinite := isFinite_of_lt hb hlb
  have hinfinite : ∀ s, view a = .infinity s → view (a + b) = .infinity s := by
    intro s hs
    rw [view_add, hs, (add_infinity_left s hfinite).1, unpack_pack_infinity]
  rcases val_cases ha with ⟨hview, hval⟩ | ⟨hview, hval⟩ | ⟨hfinitea, -⟩
  · obtain ⟨hnumber, hresult⟩ := val_of_view_infinity (hinfinite _ hview)
    exact ⟨hnumber, by rw [hresult, hval, value_positive, clamp_of_far (by linarith)]⟩
  · obtain ⟨hnumber, hresult⟩ := val_of_view_infinity (hinfinite _ hview)
    exact ⟨hnumber, by rw [hresult, hval, value_negative, clamp_of_far_below (by linarith)]⟩
  · have hpacked := (add_rounds (view_canonical a).1 (view_canonical b).1 hfinitea hfinite).packed
    rwa [← view_add] at hpacked

/-- **Scaling by a finite number above zero** leaves infinities alone, and rounds the product of
anything else. -/
theorem val_mul_of_pos (hx : IsNumber x) (hb : IsNumber b) (hpos : 0 < val b)
    (hlb : |val b| < limit) :
    IsNumber (x * b) ∧
      ((val x = beyond ∧ val (x * b) = beyond) ∨ (val x = -beyond ∧ val (x * b) = -beyond) ∨
        (|val x| < limit ∧ val (x * b) = clamp (nearest (val x * val b)))) := by
  have hfinite := isFinite_of_lt hb hlb
  have hinfinite : ∀ s, view x = .infinity s → view (x * b) = .infinity s := by
    intro s hs
    rcases view_of_pos hb hpos with hview | ⟨m, e, hm, hview⟩
    · rw [hview] at hfinite
      cases hfinite
    · have hmul : mul Format.binary64 (view x) (view b) = .infinity s := by
        rw [hs, hview]
        cases s <;> rfl
      rw [view_mul, hmul, unpack_pack_infinity]
  rcases val_cases hx with ⟨hview, hval⟩ | ⟨hview, hval⟩ | ⟨hfinitex, hlimit⟩
  · obtain ⟨hnumber, hresult⟩ := val_of_view_infinity (hinfinite _ hview)
    exact ⟨hnumber, .inl ⟨hval, by rw [hresult, value_positive]⟩⟩
  · obtain ⟨hnumber, hresult⟩ := val_of_view_infinity (hinfinite _ hview)
    exact ⟨hnumber, .inr (.inl ⟨hval, by rw [hresult, value_negative]⟩)⟩
  · have hpacked := (mul_rounds (view_canonical x).1 (view_canonical b).1 hfinitex hfinite).packed
    rw [← view_mul] at hpacked
    exact ⟨hpacked.1, .inr (.inr ⟨hlimit, hpacked.2⟩)⟩

/-- What reads as a number above zero is a number above zero. -/
theorem pos_of_reading {q : ℚ} (h : Scalar.reading b = .finite q) (hq : 0 < q) :
    IsNumber b ∧ 0 < val b ∧ |val b| < limit := by
  obtain ⟨hnumber, hlimit, rfl⟩ := reading_eq_finite.mp h
  exact ⟨hnumber, hq, hlimit⟩

end Machine

/-! ## §3 Machine numbers -/

open Machine in
instance : Scalar.Steady Float where
  le_refl_of_le h := by
    obtain ⟨ha, hb, -⟩ := le_iff.mp h
    exact ⟨le_iff.mpr ⟨ha, ha, le_rfl⟩, le_iff.mpr ⟨hb, hb, le_rfl⟩⟩
  le_refl_of_add h := by
    have ha := (isNumber_of_add (le_iff.mp h).1).1
    exact le_iff.mpr ⟨ha, ha, le_rfl⟩
  le_refl_of_mul h := by
    have ha := (isNumber_of_mul (le_iff.mp h).1).1
    exact le_iff.mpr ⟨ha, ha, le_rfl⟩
  le_refl_of_reading h := by
    have ha := (reading_eq_finite.mp h).1
    exact le_iff.mpr ⟨ha, ha, le_rfl⟩
  reading_of_between {a b x p q} ha hb hax hxb := by
    obtain ⟨-, hla, -⟩ := reading_eq_finite.mp ha
    obtain ⟨-, hlb, -⟩ := reading_eq_finite.mp hb
    obtain ⟨-, hx, hlow⟩ := le_iff.mp hax
    obtain ⟨-, -, hhigh⟩ := le_iff.mp hxb
    have hlimit : |val x| < limit :=
      abs_lt.mpr ⟨(abs_lt.mp hla).1.trans_le hlow, hhigh.trans_lt (abs_lt.mp hlb).2⟩
    exact ⟨val x, reading_eq_finite.mpr ⟨hx, hlimit, rfl⟩⟩
  add_le_add {a b c q} hc hab := by
    obtain ⟨hnc, hlc, -⟩ := reading_eq_finite.mp hc
    obtain ⟨hna, hnb, hle⟩ := le_iff.mp hab
    obtain ⟨hnac, hac⟩ := val_add hna hnc hlc
    obtain ⟨hnbc, hbc⟩ := val_add hnb hnc hlc
    refine le_iff.mpr ⟨hnac, hnbc, ?_⟩
    rw [hac, hbc]
    exact clamp_mono (nearest_mono (by linarith))
  mul_nonneg {a c q} hc hq ha := by
    obtain ⟨hnc, hpos, hlc⟩ := pos_of_reading hc hq
    obtain ⟨-, hna, hle⟩ := le_iff.mp ha
    rw [val_zero.2] at hle
    have hnumber := (val_mul_of_pos hna hnc hpos hlc).1
    refine le_iff.mpr ⟨val_zero.1, hnumber, ?_⟩
    rw [val_zero.2]
    exact mul_val_nonneg hnumber hle hpos
  mul_nonpos {a c q} hc hq ha := by
    have hlimit := limit_pos
    have hbeyond := beyond_eq
    obtain ⟨hnc, hpos, hlc⟩ := pos_of_reading hc hq
    obtain ⟨hna, -, hle⟩ := le_iff.mp ha
    rw [val_zero.2] at hle
    obtain ⟨hnumber, hval⟩ := val_mul_of_pos hna hnc hpos hlc
    refine le_iff.mpr ⟨hnumber, val_zero.1, ?_⟩
    rw [val_zero.2]
    rcases hval with ⟨habove, -⟩ | ⟨-, hval⟩ | ⟨-, hval⟩
    · linarith
    · linarith
    · rw [hval, ← clamp_zero]
      exact clamp_mono (nearest_nonpos (mul_nonpos_of_nonpos_of_nonneg hle hpos.le))
  mul_le_self {a c q} hc hq hone ha := by
    obtain ⟨hnc, hpos, hlc⟩ := pos_of_reading hc hq
    obtain ⟨-, -, hvalc⟩ := reading_eq_finite.mp hc
    obtain ⟨-, hna, hle⟩ := le_iff.mp ha
    rw [val_zero.2] at hle
    obtain ⟨hnumber, hval⟩ := val_mul_of_pos hna hnc hpos hlc
    refine le_iff.mpr ⟨hnumber, hna, ?_⟩
    rcases hval with ⟨hinf, hval⟩ | ⟨hinf, hval⟩ | ⟨-, hval⟩
    · rw [hval, hinf]
    · rw [hval, hinf]
    · rw [hval]
      refine le_of_le_of_eq ?_ (clamp_val hna)
      exact clamp_mono (nearest_mono (mul_le_of_le_one_right hle (hvalc ▸ hone)))
  reading_ofInt_of_small {n} hn := by
    obtain ⟨hnumber, hval⟩ := val_ofInt_of_small hn
    refine reading_eq_finite.mpr ⟨hnumber, ?_, hval⟩
    rw [hval]
    refine lt_limit_of_le (e := 53) ?_ (by norm_num)
    exact_mod_cast hn.le
  reading_half := by decide +kernel
  reading_quarter := by decide +kernel
  reading_slack := by decide +kernel

/-! ## §4 Scalars without rounding -/

/-- Scalars that are all finite, and compute with their exact values. -/
class Scalar.Exact (R : Type) [Scalar R] : Prop where
  exists_reading (a : R) : ∃ q, reading a = .finite q
  le_iff {a b : R} {p q : ℚ} : reading a = .finite p → reading b = .finite q → (a ≤ b ↔ p ≤ q)
  lt_iff {a b : R} {p q : ℚ} : reading a = .finite p → reading b = .finite q → (a < b ↔ p < q)
  reading_ofInt (n : ℤ) : reading (Scalar.ofInt n : R) = .finite n
  reading_add {a b : R} {p q : ℚ} :
    reading a = .finite p → reading b = .finite q → reading (a + b) = .finite (p + q)
  reading_div {a b : R} {p q : ℚ} :
    reading a = .finite p → reading b = .finite q → q ≠ 0 → reading (a / b) = .finite (p / q)

instance : Scalar.Exact Rat where
  exists_reading a := ⟨a, rfl⟩
  le_iff ha hb := by
    cases ha
    cases hb
    rfl
  lt_iff ha hb := by
    cases ha
    cases hb
    rfl
  reading_ofInt _ := rfl
  reading_add ha hb := by
    cases ha
    cases hb
    rfl
  reading_div ha hb _ := by
    cases ha
    cases hb
    rfl

end Lamella
