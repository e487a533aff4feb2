import Lamella.Proofs.Scalar.Machine

/-!
# The operations of machine numbers

Sums, differences and products of machine numbers are their exact results, rounded and put into the
range of machine numbers, and machine numbers compare as their values do. What is no number compares
with nothing.

## Main definitions

- `Machine.Rounds`: an unpacked number is the nearest to a rational.
- `Machine.clamp`: a rational put into the range of machine numbers.

## Main statements

- `Machine.compare_eq`: numbers compare as their values do.
- `Machine.sub_rounds`, `Machine.add_rounds`, `Machine.mul_rounds`: operations round exact results.
-/

namespace Lamella.Machine

open Float.Model (Format UnpackedFloat totalExponent)
open Float.Model.UnpackedFloat

/-! ## §1 Rounding in both directions -/

/-- An unpacked number in canonical form is the nearest to a rational. -/
structure Rounds (u : UnpackedFloat) (q : ℚ) : Prop where
  canonical : Canonical u
  finite : u.isFinite = true
  value_eq : value u = nearest q

theorem roundWithAccuracy_finite (s : Sign) (m : ℕ) (e : ℤ) (a : Accuracy) :
    (roundWithAccuracy Format.binary64 s m e a).isFinite = true := by
  rw [roundWithAccuracy_eq]
  exact ofMantissa_finite ..

/-- Rounding looks at the magnitude alone. -/
theorem nearest_signed (s : Sign) (q : ℚ) :
    nearest (((s.apply 1 : ℤ) : ℚ) * q) = ((s.apply 1 : ℤ) : ℚ) * nearest q := by
  cases s
  · show nearest (((-1 : ℤ) : ℚ) * q) = ((-1 : ℤ) : ℚ) * nearest q
    push_cast
    rw [neg_one_mul, neg_one_mul, nearest_neg]
  · show nearest (((1 : ℤ) : ℚ) * q) = ((1 : ℤ) : ℚ) * nearest q
    push_cast
    rw [one_mul, one_mul]

theorem log2_shiftLeft {m : ℕ} (hm : 0 < m) (k : ℕ) : (m <<< k).log2 = m.log2 + k := by
  have hpos : 0 < m <<< k := by
    rw [Nat.shiftLeft_eq]
    exact Nat.mul_pos hm (Nat.two_pow_pos k)
  rw [Nat.log2_eq_iff hpos.ne', Nat.shiftLeft_eq]
  -- Both bounds of the logarithm are scaled by the same power
  have hlow := Nat.log2_self_le hm.ne'
  have hhigh := Nat.lt_log2_self (n := m)
  constructor
  · rw [pow_add]
    exact Nat.mul_le_mul_right _ hlow
  · rw [add_right_comm, pow_add]
    exact Nat.mul_lt_mul_of_pos_right hhigh (Nat.two_pow_pos k)

/-- Digits that are appended do not change what a mantissa stands for. -/
theorem decreaseExponent_value (m : ℕ) (e t : ℤ) :
    ((decreaseExponent m e t).1 : ℚ) * 2 ^ (decreaseExponent m e t).2 = m * 2 ^ e := by
  show ((m <<< (e - t).toNat : ℕ) : ℚ) * 2 ^ (e - (e - t).toNat) = m * 2 ^ e
  rw [Nat.shiftLeft_eq, zpow_sub₀ (by norm_num), zpow_natCast]
  push_cast
  field_simp

/-- Rounding in both directions gives the nearest machine number. -/
theorem round_rounds (s : Sign) {m : ℕ} (e : ℤ) (hm : 0 < m) :
    Rounds (UnpackedFloat.round Format.binary64 s m e) ((s.apply 1 : ℤ) * (m * 2 ^ e)) := by
  set t := Format.binary64.targetExponent (totalExponent m e) with ht
  set m' := (decreaseExponent m e t).1 with hm'
  set e' := (decreaseExponent m e t).2 with he'
  have hshift : m' = m <<< (e - t).toNat := rfl
  have hexponent : e' = e - (e - t).toNat := rfl
  have hpos : 0 < m' := by
    rw [hshift, Nat.shiftLeft_eq]
    exact Nat.mul_pos hm (Nat.two_pow_pos _)
  have htarget : e' ≤ Format.binary64.targetExponent (totalExponent m' e') := by
    -- Each digit appended lowers the exponent by one, so the exponent aimed at stays
    rw [targetExponent_eq, hshift, log2_shiftLeft hm, hexponent]
    rw [targetExponent_eq] at ht
    push_cast
    omega
  obtain ⟨hcanonical, hvalue⟩ :=
    roundWithAccuracy_value s (Nat.cast_pos.mpr hpos) (.inl hpos) (StandsFor.exact m') htarget
  have hround : UnpackedFloat.round Format.binary64 s m e =
      roundWithAccuracy Format.binary64 s m' e' .exact := rfl
  rw [hround]
  refine ⟨hcanonical, roundWithAccuracy_finite s m' e' .exact, ?_⟩
  rw [hvalue, hm', he', decreaseExponent_value, nearest_signed]

theorem normalize_rounds (n e : ℤ) (s : Sign) :
    Rounds (UnpackedFloat.normalize Format.binary64 n e s) (n * 2 ^ e) := by
  unfold UnpackedFloat.normalize
  cases hsign : compare n 0 with
  | lt =>
    -- The sign is taken off, and put back by rounding the magnitude
    have hneg : n < 0 := compare_lt_iff_lt.mp hsign
    have hround := round_rounds .negative e (m := (-n).toNat) (by omega)
    have hcast : (((-n).toNat : ℕ) : ℚ) = -n := by
      have : ((-n).toNat : ℤ) = -n := by omega
      exact_mod_cast this
    rw [hcast] at hround
    simpa [Sign.apply] using hround
  | eq =>
    have hzero : n = 0 := compare_eq_iff_eq.mp hsign
    refine ⟨trivial, rfl, ?_⟩
    rw [hzero, Int.cast_zero, zero_mul, nearest_zero]
    rfl
  | gt =>
    have hpos : 0 < n := compare_gt_iff_gt.mp hsign
    have hround := round_rounds .positive e (m := n.toNat) (by omega)
    have hcast : ((n.toNat : ℕ) : ℚ) = n := by
      have : (n.toNat : ℤ) = n := by omega
      exact_mod_cast this
    rw [hcast] at hround
    simpa [Sign.apply] using hround

/-! ## §2 Sums and differences -/

/-- A number in canonical form is its own nearest. -/
theorem nearest_value {u : UnpackedFloat} (hcanonical : Canonical u) :
    nearest (value u) = value u := by
  cases u with
  | notANumber => exact nearest_zero
  | zero s => exact nearest_zero
  | infinity s =>
    refine nearest_of_mantissa ?_ (by norm_num)
    cases s <;> decide
  | finite s m e hm =>
    obtain ⟨hbound, hleast, -⟩ := hcanonical
    refine nearest_of_mantissa ?_ hleast
    have habs : |(m : ℤ)| < 2 ^ 53 := by
      rw [abs_of_nonneg (Int.natCast_nonneg m)]
      exact_mod_cast hbound
    cases s
    · show |-(m : ℤ)| < 2 ^ 53
      rwa [abs_neg]
    · exact habs

theorem rounds_self {u : UnpackedFloat} (hcanonical : Canonical u) (hfinite : u.isFinite = true) :
    Rounds u (value u) := ⟨hcanonical, hfinite, (nearest_value hcanonical).symm⟩

theorem rounds_zero (s : Sign) : Rounds (.zero s) 0 := ⟨trivial, rfl, nearest_zero.symm⟩

/-- A mantissa brought to a smaller exponent. -/
theorem value_aligned (s : Sign) {m : ℕ} {e t : ℤ} (hm : 0 < m) (ht : t ≤ e) :
    ((s.apply (decreaseExponent m e t).1 : ℤ) : ℚ) * 2 ^ t = value (.finite s m e hm) := by
  have haligned := decreaseExponent_value m e t
  have hexponent : (decreaseExponent m e t).2 = t := by
    show e - ((e - t).toNat : ℤ) = t
    omega
  rw [hexponent] at haligned
  cases s
  · show ((-((decreaseExponent m e t).1 : ℤ) : ℤ) : ℚ) * 2 ^ t = ((-(m : ℤ) : ℤ) : ℚ) * 2 ^ e
    push_cast
    rw [neg_mul, haligned, neg_mul]
  · show (((decreaseExponent m e t).1 : ℤ) : ℚ) * 2 ^ t = ((m : ℤ) : ℚ) * 2 ^ e
    push_cast
    exact haligned

theorem value_neg_finite (s : Sign) {m : ℕ} {e : ℤ} (hm : 0 < m) :
    value (.finite (-s) m e hm) = -value (.finite s m e hm) := by
  cases s
  · show ((m : ℤ) : ℚ) * 2 ^ e = -(((-(m : ℤ) : ℤ) : ℚ) * 2 ^ e)
    push_cast
    ring
  · show ((-(m : ℤ) : ℤ) : ℚ) * 2 ^ e = -(((m : ℤ) : ℚ) * 2 ^ e)
    push_cast
    ring

theorem value_above {m : ℕ} {e : ℤ} (hm : 0 < m) :
    value (.finite .positive m e hm) = m * 2 ^ e := rfl

theorem value_below {m : ℕ} {e : ℤ} (hm : 0 < m) :
    value (.finite .negative m e hm) = -((m : ℚ) * 2 ^ e) := value_neg_finite .positive hm

section

variable {a b : UnpackedFloat}

/-- A difference is the machine number nearest to the exact difference. -/
theorem sub_rounds (ha : Canonical a) (hb : Canonical b) (hfa : a.isFinite = true)
    (hfb : b.isFinite = true) : Rounds (sub Format.binary64 a b) (value a - value b) := by
  cases a with
  | notANumber => cases hfa
  | infinity s => cases hfa
  | zero s =>
    cases b with
    | notANumber => cases hfb
    | infinity t => cases hfb
    | zero t =>
      show Rounds _ (0 - 0)
      rw [sub_zero]
      cases s <;> cases t <;> exact rounds_zero _
    | finite t n f hn =>
      have hneg : Rounds (.finite (-t) n f hn) (value (.finite (-t) n f hn)) := rounds_self hb rfl
      show Rounds (.finite (-t) n f hn) (0 - value (.finite t n f hn))
      rwa [zero_sub, ← value_neg_finite]
  | finite s m e hm =>
    cases b with
    | notANumber => cases hfb
    | infinity t => cases hfb
    | zero t =>
      show Rounds (.finite s m e hm) (value (.finite s m e hm) - 0)
      rw [sub_zero]
      exact rounds_self ha rfl
    | finite t n f hn =>
      have hround := normalize_rounds
        (s.apply (decreaseExponent m e (min e f)).1 - t.apply (decreaseExponent n f (min e f)).1)
        (min e f) .positive
      -- At the smaller exponent both mantissas are integers, and their difference is exact
      rwa [Int.cast_sub, sub_mul, value_aligned s hm (min_le_left e f),
        value_aligned t hn (min_le_right e f)] at hround

/-- A sum is the machine number nearest to the exact sum. -/
theorem add_rounds (ha : Canonical a) (hb : Canonical b) (hfa : a.isFinite = true)
    (hfb : b.isFinite = true) : Rounds (add Format.binary64 a b) (value a + value b) := by
  cases a with
  | notANumber => cases hfa
  | infinity s => cases hfa
  | zero s =>
    cases b with
    | notANumber => cases hfb
    | infinity t => cases hfb
    | zero t =>
      show Rounds _ (0 + 0)
      rw [add_zero]
      cases s <;> cases t <;> exact rounds_zero _
    | finite t n f hn =>
      show Rounds (.finite t n f hn) (0 + value (.finite t n f hn))
      rw [zero_add]
      exact rounds_self hb rfl
  | finite s m e hm =>
    cases b with
    | notANumber => cases hfb
    | infinity t => cases hfb
    | zero t =>
      show Rounds (.finite s m e hm) (value (.finite s m e hm) + 0)
      rw [add_zero]
      exact rounds_self ha rfl
    | finite t n f hn =>
      have hround := normalize_rounds
        (s.apply (decreaseExponent m e (min e f)).1 + t.apply (decreaseExponent n f (min e f)).1)
        (min e f) .positive
      rwa [Int.cast_add, add_mul, value_aligned s hm (min_le_left e f),
        value_aligned t hn (min_le_right e f)] at hround

/-! ## §3 Products -/

theorem apply_mul (s t : Sign) : (((s * t).apply 1 : ℤ) : ℚ) =
    ((s.apply 1 : ℤ) : ℚ) * ((t.apply 1 : ℤ) : ℚ) := by
  have hsigns : (s * t).apply 1 = s.apply 1 * t.apply 1 := by cases s <;> cases t <;> rfl
  exact_mod_cast hsigns

/-- The product of two mantissas in canonical form has digits to drop, unless its exponent is below
the least. -/
theorem mul_target {m n : ℕ} {e f : ℤ} (hm : 0 < m) (hn : 0 < n)
    (hme : 2 ^ 52 ≤ m ∨ e = -1074) (hnf : 2 ^ 52 ≤ n ∨ f = -1074) :
    e + f ≤ Format.binary64.targetExponent (totalExponent (m * n) (e + f)) := by
  have hpos : m * n ≠ 0 := (Nat.mul_pos hm hn).ne'
  rw [targetExponent_eq]
  rcases hme with hm52 | rfl
  · -- A factor with all its digits gives the product as many
    have hlog : 52 ≤ (m * n).log2 :=
      (Nat.le_log2 hpos).mpr (hm52.trans (Nat.le_mul_of_pos_right m hn))
    omega
  · rcases hnf with hn52 | rfl
    · have hlog : 52 ≤ (m * n).log2 :=
        (Nat.le_log2 hpos).mpr (hn52.trans (Nat.le_mul_of_pos_left n hm))
      omega
    · omega

/-- Mantissas are multiplied as integers, so that only their product is rounded. -/
theorem mul_finite_rounds (s t : Sign) {m n : ℕ} {e f : ℤ} (hm : 0 < m) (hn : 0 < n)
    (htarget : e + f ≤ Format.binary64.targetExponent (totalExponent (m * n) (e + f))) :
    Rounds (mul Format.binary64 (.finite s m e hm) (.finite t n f hn))
      (value (.finite s m e hm) * value (.finite t n f hn)) := by
  have hpos := Nat.mul_pos hm hn
  obtain ⟨hcanonical, hvalue⟩ := roundWithAccuracy_value (s * t) (Nat.cast_pos.mpr hpos)
    (.inl hpos) (StandsFor.exact (m * n)) htarget
  refine ⟨hcanonical, roundWithAccuracy_finite (s * t) (m * n) (e + f) .exact, ?_⟩
  show value (roundWithAccuracy Format.binary64 (s * t) (m * n) (e + f) .exact) = _
  have hproduct : value (.finite s m e hm) * value (.finite t n f hn) =
      (((s * t).apply 1 : ℤ) : ℚ) * ((m * n : ℕ) * 2 ^ (e + f)) := by
    rw [value_finite, value_finite, apply_mul, zpow_add₀ (by norm_num)]
    push_cast
    ring
  rw [hvalue, hproduct, nearest_signed]

/-- A product is the machine number nearest to the exact product. -/
theorem mul_rounds (ha : Canonical a) (hb : Canonical b) (hfa : a.isFinite = true)
    (hfb : b.isFinite = true) : Rounds (mul Format.binary64 a b) (value a * value b) := by
  cases a with
  | notANumber => cases hfa
  | infinity s => cases hfa
  | zero s =>
    have hproduct : value (.zero s) * value b = 0 := zero_mul _
    rw [hproduct]
    cases b with
    | notANumber => cases hfb
    | infinity t => cases hfb
    | zero t => exact rounds_zero (s * t)
    | finite t n f hn => exact rounds_zero (s * t)
  | finite s m e hm =>
    cases b with
    | notANumber => cases hfb
    | infinity t => cases hfb
    | zero t =>
      have hproduct : value (.finite s m e hm) * value (.zero t) = 0 := mul_zero _
      rw [hproduct]
      exact rounds_zero (s * t)
    | finite t n f hn => exact mul_finite_rounds s t hm hn (mul_target hm hn ha.2.2 hb.2.2)

/-! ## §4 The order -/

/-- The value of a number that is not too large lies within the infinities. -/
theorem abs_value_lt (ha : Canonical a) (hfits : Fits a) (hfa : a.isFinite = true) :
    |value a| < limit := by
  cases a with
  | notANumber => cases hfa
  | infinity s => cases hfa
  | zero s =>
    show |(0 : ℚ)| < _
    rw [abs_zero]
    exact limit_pos
  | finite s m e hm =>
    have hbound : (m : ℚ) < 2 ^ (53 : ℤ) := by exact_mod_cast ha.1
    have hexponent : (2 : ℚ) ^ e ≤ 2 ^ (971 : ℤ) := zpow_le_zpow_right₀ (by norm_num) hfits
    -- The sign does not count for the magnitude
    have hmagnitude : |value (.finite s m e hm)| = m * 2 ^ e := by
      rw [value_finite, abs_mul, abs_of_pos (magnitude_pos e hm)]
      cases s <;> norm_num [Sign.apply]
    rw [hmagnitude]
    calc (m : ℚ) * 2 ^ e < 2 ^ (53 : ℤ) * 2 ^ e := mul_lt_mul_of_pos_right hbound (zpow_two_pos e)
      _ ≤ 2 ^ (53 : ℤ) * 2 ^ (971 : ℤ) := mul_le_mul_of_nonneg_left hexponent (zpow_two_pos 53).le
      _ = limit := by rw [limit, ← zpow_add₀ (by norm_num)]; rfl

/-- Of two numbers in canonical form the one with the larger exponent is the larger. -/
theorem lt_of_exponent_lt {m n : ℕ} {e f : ℤ} (hm : m < 2 ^ 53) (he : -1074 ≤ e)
    (hn : 2 ^ 52 ≤ n ∨ f = -1074) (hef : e < f) : (m : ℚ) * 2 ^ e < n * 2 ^ f := by
  have hn52 : 2 ^ 52 ≤ n := hn.resolve_right (by omega)
  have hlow : ((2 ^ 52 : ℕ) : ℚ) ≤ n := by exact_mod_cast hn52
  have hhigh : (m : ℚ) < ((2 ^ 53 : ℕ) : ℚ) := by exact_mod_cast hm
  push_cast at hlow hhigh
  -- A larger exponent makes up for one binary digit less
  have hgap : (2 : ℚ) ^ (e + 1) ≤ 2 ^ f := zpow_le_zpow_right₀ (by norm_num) hef
  rw [zpow_add₀ (by norm_num), zpow_one] at hgap
  calc (m : ℚ) * 2 ^ e < 2 ^ 53 * 2 ^ e := mul_lt_mul_of_pos_right hhigh (zpow_two_pos e)
    _ = 2 ^ 52 * (2 ^ e * 2) := by ring
    _ ≤ 2 ^ 52 * 2 ^ f := mul_le_mul_of_nonneg_left hgap (by norm_num)
    _ ≤ n * 2 ^ f := mul_le_mul_of_nonneg_right hlow (zpow_two_pos f).le

/-- Mantissas and exponents in canonical form compare as what they stand for. -/
theorem compare_magnitudes {m n : ℕ} {e f : ℤ} (hm : m < 2 ^ 53) (hn : n < 2 ^ 53)
    (he : -1074 ≤ e) (hf : -1074 ≤ f) (hme : 2 ^ 52 ≤ m ∨ e = -1074)
    (hnf : 2 ^ 52 ≤ n ∨ f = -1074) :
    (compare e f).then (compare m n) = compare ((m : ℚ) * 2 ^ e) (n * 2 ^ f) := by
  rcases lt_trichotomy e f with hlt | rfl | hgt
  · -- The exponents decide
    rw [compare_lt_iff_lt.mpr hlt, compare_lt_iff_lt.mpr (lt_of_exponent_lt hm he hnf hlt)]
    rfl
  · -- The exponents are equal, so the mantissas decide
    have hpos := zpow_two_pos e
    rw [compare_eq_iff_eq.mpr rfl]
    show compare m n = _
    rcases lt_trichotomy m n with hlt | rfl | hgt
    · have hvalues : (m : ℚ) * 2 ^ e < n * 2 ^ e :=
        mul_lt_mul_of_pos_right (by exact_mod_cast hlt) hpos
      rw [compare_lt_iff_lt.mpr hlt, compare_lt_iff_lt.mpr hvalues]
    · rw [compare_eq_iff_eq.mpr rfl, compare_eq_iff_eq.mpr rfl]
    · have hvalues : (n : ℚ) * 2 ^ e < m * 2 ^ e :=
        mul_lt_mul_of_pos_right (by exact_mod_cast hgt) hpos
      rw [compare_gt_iff_gt.mpr hgt, compare_gt_iff_gt.mpr hvalues]
  · rw [compare_gt_iff_gt.mpr hgt, compare_gt_iff_gt.mpr (lt_of_exponent_lt hn hf hme hgt)]
    rfl

theorem compare_neg (x y : ℚ) : compare (-x) (-y) = (compare x y).swap := by
  rcases lt_trichotomy x y with hlt | rfl | hgt
  · rw [compare_lt_iff_lt.mpr hlt, compare_gt_iff_gt.mpr (neg_lt_neg hlt)]
    rfl
  · rw [compare_eq_iff_eq.mpr rfl, compare_eq_iff_eq.mpr rfl]
    rfl
  · rw [compare_gt_iff_gt.mpr hgt, compare_lt_iff_lt.mpr (neg_lt_neg hgt)]
    rfl

theorem value_positive : value (.infinity .positive) = beyond := by
  show ((1 : ℤ) : ℚ) * beyond = beyond
  rw [Int.cast_one, one_mul]

theorem value_negative : value (.infinity .negative) = -beyond := by
  show ((-1 : ℤ) : ℚ) * beyond = -beyond
  rw [Int.cast_neg, Int.cast_one, neg_one_mul]

/-- What is finite lies between the infinities. -/
theorem value_between (ha : Canonical a) (hfits : Fits a) (hfa : a.isFinite = true) :
    value (.infinity .negative) < value a ∧ value a < value (.infinity .positive) := by
  obtain ⟨hlow, hhigh⟩ := abs_lt.mp (abs_value_lt ha hfits hfa)
  have hpos := limit_pos
  rw [value_positive, value_negative, beyond_eq]
  constructor <;> linarith

theorem value_negative_lt : value (.infinity .negative) < value (.infinity .positive) := by
  rw [value_positive, value_negative, beyond_eq]
  linarith [limit_pos]

/-- Finite numbers other than zero compare by sign, then by exponent, then by mantissa. -/
theorem compare_finite (s t : Sign) {m n : ℕ} {e f : ℤ} (hm : 0 < m) (hn : 0 < n)
    (ha : Canonical (.finite s m e hm)) (hb : Canonical (.finite t n f hn)) :
    UnpackedFloat.compare (.finite s m e hm) (.finite t n f hn) =
      some (compare (value (.finite s m e hm)) (value (.finite t n f hn))) := by
  have hm' := magnitude_pos e hm
  have hn' := magnitude_pos f hn
  have hmagnitudes := compare_magnitudes ha.1 hb.1 ha.2.1 hb.2.1 ha.2.2 hb.2.2
  cases s with
  | negative =>
    cases t with
    | negative =>
      rw [value_below, value_below, compare_neg, ← hmagnitudes]
      rfl
    | positive =>
      rw [value_below, value_above, compare_lt_iff_lt.mpr (by linarith)]
      rfl
  | positive =>
    cases t with
    | negative =>
      have hlt : -((n : ℚ) * 2 ^ f) < m * 2 ^ e := by linarith
      rw [value_above, value_below, compare_gt_iff_gt.mpr hlt]
      rfl
    | positive =>
      rw [value_above, value_above, ← hmagnitudes]
      rfl

/-- **Numbers compare as their values do.** -/
theorem compare_eq (ha : Canonical a) (hb : Canonical b) (hfa : Fits a) (hfb : Fits b)
    (hna : a ≠ .notANumber) (hnb : b ≠ .notANumber) :
    UnpackedFloat.compare a b = some (compare (value a) (value b)) := by
  cases a with
  | notANumber => exact absurd rfl hna
  | infinity s =>
    cases b with
    | notANumber => exact absurd rfl hnb
    | infinity t =>
      cases s <;> cases t
      · rw [compare_eq_iff_eq.mpr rfl]
        rfl
      · rw [compare_lt_iff_lt.mpr value_negative_lt]
        rfl
      · rw [compare_gt_iff_gt.mpr value_negative_lt]
        rfl
      · rw [compare_eq_iff_eq.mpr rfl]
        rfl
    | _ =>
      obtain ⟨hlow, hhigh⟩ := value_between hb hfb rfl
      cases s
      · rw [compare_lt_iff_lt.mpr hlow]
        rfl
      · rw [compare_gt_iff_gt.mpr hhigh]
        rfl
  | zero s =>
    cases b with
    | notANumber => exact absurd rfl hnb
    | infinity t =>
      obtain ⟨hlow, hhigh⟩ := value_between ha hfa rfl
      cases t
      · rw [compare_gt_iff_gt.mpr hlow]
        rfl
      · rw [compare_lt_iff_lt.mpr hhigh]
        rfl
    | zero t =>
      show some Ordering.eq = some (compare (0 : ℚ) 0)
      rw [compare_eq_iff_eq.mpr rfl]
    | finite t n f hn =>
      have hpos : value (.zero s) < n * 2 ^ f := magnitude_pos f hn
      have hneg : -((n : ℚ) * 2 ^ f) < value (.zero s) := neg_neg_of_pos (magnitude_pos f hn)
      cases t
      · rw [value_below, compare_gt_iff_gt.mpr hneg]
        rfl
      · rw [value_above, compare_lt_iff_lt.mpr hpos]
        rfl
  | finite s m e hm =>
    cases b with
    | notANumber => exact absurd rfl hnb
    | infinity t =>
      obtain ⟨hlow, hhigh⟩ := value_between ha hfa rfl
      cases t
      · rw [compare_gt_iff_gt.mpr hlow]
        cases s <;> rfl
      · rw [compare_lt_iff_lt.mpr hhigh]
        cases s <;> rfl
    | zero t =>
      have hpos : value (.zero t) < m * 2 ^ e := magnitude_pos e hm
      have hneg : -((m : ℚ) * 2 ^ e) < value (.zero t) := neg_neg_of_pos (magnitude_pos e hm)
      cases s
      · rw [value_below, compare_lt_iff_lt.mpr hneg]
        rfl
      · rw [value_above, compare_gt_iff_gt.mpr hpos]
        rfl
    | finite t n f hn => exact compare_finite s t hm hn ha hb

/-! ## §5 The range of machine numbers -/

/-- A rational put into the range of machine numbers. -/
def clamp (q : ℚ) : ℚ := if limit ≤ q then beyond else if q ≤ -limit then -beyond else q

theorem clamp_of_abs_lt {q : ℚ} (h : |q| < limit) : clamp q = q := by
  obtain ⟨hlow, hhigh⟩ := abs_lt.mp h
  rw [clamp, if_neg (not_le.mpr hhigh), if_neg (not_le.mpr hlow)]

theorem clamp_zero : clamp 0 = 0 := clamp_of_abs_lt (by rw [abs_zero]; exact limit_pos)

theorem clamp_mono {p q : ℚ} (h : p ≤ q) : clamp p ≤ clamp q := by
  have hpos := limit_pos
  have hbeyond := beyond_eq
  unfold clamp
  split_ifs <;> linarith

theorem clamp_neg (q : ℚ) : clamp (-q) = -clamp q := by
  have hpos := limit_pos
  unfold clamp
  split_ifs <;> linarith

theorem nearest_limit : nearest limit = limit := by
  have h := nearest_of_mantissa (m := 1) (e := 1024) (by decide) (by norm_num)
  rwa [Int.cast_one, one_mul] at h

/-- Beyond the limit everything counts as infinite. -/
theorem clamp_of_far {q : ℚ} (h : limit ≤ q) : clamp (nearest q) = beyond := by
  have hnearest := nearest_mono h
  rw [nearest_limit] at hnearest
  rw [clamp, if_pos hnearest]

theorem clamp_of_far_below {q : ℚ} (h : q ≤ -limit) : clamp (nearest q) = -beyond := by
  have hnearest := nearest_mono h
  rw [nearest_neg, nearest_limit] at hnearest
  have := limit_pos
  rw [clamp, if_neg (by linarith), if_pos hnearest]

/-- What is packed after rounding is read back in the range of machine numbers. -/
theorem Rounds.packed {q : ℚ} (h : Rounds a q) :
    unpack Format.binary64 (pack Format.binary64 a) ≠ .notANumber ∧
      value (unpack Format.binary64 (pack Format.binary64 a)) = clamp (nearest q) := by
  rcases unpack_pack h.canonical with hsame | ⟨s, m, e, hm, rfl, hexponent, hinfinite⟩
  · have hfits := (unpack_canonical (pack Format.binary64 a)).2
    rw [hsame] at hfits ⊢
    refine ⟨fun hnone => ?_, ?_⟩
    · have hfinite := h.finite
      rw [hnone] at hfinite
      cases hfinite
    · rw [← h.value_eq, clamp_of_abs_lt (abs_value_lt h.canonical hfits h.finite)]
  · -- What is too large to be packed lies beyond the limit
    rw [hinfinite]
    refine ⟨nofun, ?_⟩
    have hm52 : 2 ^ 52 ≤ m := h.canonical.2.2.resolve_right (by omega)
    have hlow : ((2 ^ 52 : ℕ) : ℚ) ≤ m := by exact_mod_cast hm52
    have hgap : (2 : ℚ) ^ (972 : ℤ) ≤ 2 ^ e := zpow_le_zpow_right₀ (by norm_num) hexponent
    push_cast at hlow
    have hfar : limit ≤ m * 2 ^ e := by
      calc limit = (2 : ℚ) ^ (52 : ℤ) * 2 ^ (972 : ℤ) := by
            rw [limit, ← zpow_add₀ (by norm_num)]
            rfl
        _ ≤ 2 ^ (52 : ℤ) * 2 ^ e := mul_le_mul_of_nonneg_left hgap (zpow_two_pos 52).le
        _ ≤ m * 2 ^ e := mul_le_mul_of_nonneg_right (by exact_mod_cast hlow) (zpow_two_pos e).le
    have hpos := limit_pos
    rw [← h.value_eq]
    cases s
    · rw [value_negative, value_below hm, clamp, if_neg (by linarith), if_pos (by linarith)]
    · rw [value_positive, value_above hm, clamp, if_pos (by linarith)]

end

end Lamella.Machine
