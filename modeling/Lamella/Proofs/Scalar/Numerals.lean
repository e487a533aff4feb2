import Lamella.Proofs.Scalar.Words

/-!
# Machine numbers of numerals

A numeral becomes a machine number in one of two ways. With few digits and a small power of ten both
are machine numbers, and are multiplied or divided as such; else the digits and the power are
multiplied or divided as they are. Either way the numeral is rounded once, to the machine number
nearest to it.

## Main definitions

- `Decimal.amount`: the rational that digits and a power of ten say.

## Main statements

- `Machine.eq_of_view`: words that are unpacked alike are the same.
- `Machine.eq_of_val_pos`: so are machine numbers of one value above zero.
- `Machine.val_ofScientific`: digits and a power of ten become the machine number nearest to them.
- `Machine.val_toFloat`: so does a numeral.
- `Machine.toFloat_eq`: a numeral that rounds to a finite number becomes that number.
-/

namespace Lamella

/-- The rational that digits and a power of ten say. -/
def Decimal.amount (d : Decimal) : ℚ := d.digits * 10 ^ d.exponent

/-- What is less than half the least machine number is rounded to zero. -/
theorem nearest_of_tiny {q : ℚ} (h : |q| < 2 ^ (-1075 : ℤ)) : nearest q = 0 := by
  by_cases hzero : q = 0
  · rw [hzero, nearest_zero]
  have hspacing : spacing q = -1074 := by
    rcases spacing_le_abs hzero with hleast | hle
    · exact hleast
    · have hlow : -1074 ≤ spacing q := le_max_right _ _
      have hpower : (2 : ℚ) ^ (-1075 : ℤ) ≤ 2 ^ (spacing q + 52) :=
        zpow_le_zpow_right₀ (by norm_num) (by omega)
      linarith
  have hsmall : |q / 2 ^ spacing q| < 1 / 2 := by
    rw [hspacing, abs_div, abs_of_pos (zpow_two_pos _), div_lt_iff₀ (zpow_two_pos _)]
    calc |q| < 2 ^ (-1075 : ℤ) := h
      _ = 1 / 2 * 2 ^ (-1074 : ℤ) := by
        rw [show (-1074 : ℤ) = 1 + -1075 from rfl, zpow_add₀ (by norm_num), zpow_one]
        ring
  have hround : roundHalfEven (q / 2 ^ spacing q) = 0 :=
    roundHalfEven_of_near (by rwa [Int.cast_zero, sub_zero])
  rw [nearest, hround, Int.cast_zero, zero_mul]

namespace Machine

open Float.Model (Format UnpackedFloat totalExponent)
open Float.Model.UnpackedFloat

/-! ## §1 Words that are unpacked alike -/

theorem ofMantissa_injective {s t : Sign} {m n : ℕ} {d e : ℤ}
    (h : ofMantissa s m d = ofMantissa t n e) (hm : m ≠ 0 ∨ d = -1074) (hn : n ≠ 0 ∨ e = -1074) :
    s = t ∧ m = n ∧ d = e := by
  unfold ofMantissa at h
  by_cases hm' : m = 0 <;> by_cases hn' : n = 0
  · rw [dif_pos hm', dif_pos hn'] at h
    cases h
    exact ⟨rfl, by omega, by omega⟩
  · rw [dif_pos hm', dif_neg hn'] at h
    exact UnpackedFloat.noConfusion h
  · rw [dif_neg hm', dif_pos hn'] at h
    exact UnpackedFloat.noConfusion h
  · rw [dif_neg hm', dif_neg hn'] at h
    cases h
    exact ⟨rfl, rfl, rfl⟩

theorem ofFields_injective {s t : Sign} {w w' : BitVec 11} {v v' : BitVec 52}
    (hnumber : ofFields s w v ≠ .notANumber) (h : ofFields s w v = ofFields t w' v') :
    s = t ∧ w = w' ∧ v = v' := by
  have hv := v.isLt
  have hv' := v'.isLt
  have hw := w.isLt
  have hw' := w'.isLt
  have hmixed : ∀ {t r : Sign} {n : ℕ} {e : ℤ}, ofMantissa t n e ≠ .infinity r := by
    intro t r n e heq
    have hfinite := ofMantissa_finite t n e
    rw [heq] at hfinite
    cases hfinite
  rw [← BitVec.toNat_inj, ← BitVec.toNat_inj]
  rw [ofFields_eq] at hnumber h
  rw [ofFields_eq] at h
  -- Infinities, numbers without and numbers with a leading digit are told apart
  split_ifs at hnumber h
  · cases h
    exact ⟨rfl, by omega, by omega⟩
  all_goals first
    | exact absurd rfl hnumber
    | exact absurd h hnumber
    | exact absurd h hmixed
    | exact absurd h.symm hmixed
    | obtain ⟨hs, hm, he⟩ := ofMantissa_injective h (by omega) (by omega)
      exact ⟨hs, by omega, by omega⟩

theorem unpack_injective {b c : BitVec Format.binary64.numBits}
    (hb : unpack Format.binary64 b ≠ .notANumber)
    (h : unpack Format.binary64 b = unpack Format.binary64 c) : b = c := by
  rw [unpack_eq] at hb h
  rw [unpack_eq] at h
  obtain ⟨hsign, hexponent, hmantissa⟩ := ofFields_injective hb h
  have hs : (unpackSign b).toNat = (unpackSign c).toNat := by
    have hdigit : ∀ d e : BitVec 1, Sign.ofBitVec d = Sign.ofBitVec e → d.toNat = e.toNat := by
      intro d e h
      rcases BitVec.eq_zero_or_eq_one d with rfl | rfl <;>
        rcases BitVec.eq_zero_or_eq_one e with rfl | rfl
      · rfl
      · exact Sign.noConfusion h
      · exact Sign.noConfusion h
      · rfl
    exact hdigit _ _ hsign
  have he := congrArg BitVec.toNat hexponent
  have hm := congrArg BitVec.toNat hmantissa
  rw [unpackSign_toNat, unpackSign_toNat] at hs
  rw [unpackExponent_toNat, unpackExponent_toNat] at he
  rw [unpackMantissa_toNat, unpackMantissa_toNat] at hm
  -- The three fields make up the word
  have hwhole : Nat.pow 2 63 = 9223372036854775808 := rfl
  have hfraction : Nat.pow 2 52 = 4503599627370496 := rfl
  have hfield : Nat.pow 2 11 = 2048 := rfl
  rw [hwhole] at hs
  rw [hfraction, hfield] at he
  rw [hfraction] at hm
  have hb' : b.toNat < 18446744073709551616 := b.isLt
  have hc' : c.toNat < 18446744073709551616 := c.isLt
  refine BitVec.eq_of_toNat_eq ?_
  omega

/-- **Words that are unpacked alike are the same**, unless they are no numbers. -/
theorem eq_of_view {x y : Float} (hx : IsNumber x) (h : view x = view y) : x = y := by
  obtain ⟨⟨⟨b⟩, hb⟩⟩ := x
  obtain ⟨⟨⟨c⟩, hc⟩⟩ := y
  obtain rfl : b = c := unpack_injective hx h
  rfl

/-! ## §2 Few digits and a small power of ten -/

theorem ofNat_rounds (n : ℕ) : Rounds (UnpackedFloat.ofNat Format.binary64 n) n := by
  have h := normalize_rounds n 0 .positive
  rwa [zpow_zero, mul_one] at h

theorem abs_lt_limit_of_lt {n : ℕ} (hn : n < 2 ^ 53) : |(n : ℚ)| < limit := by
  have hpower : ((2 ^ 53 : ℕ) : ℚ) < limit := by
    rw [Nat.cast_pow, limit]
    exact_mod_cast zpow_lt_zpow_right₀ (one_lt_two (α := ℚ)) (show (53 : ℤ) < 1024 by norm_num)
  rw [Nat.abs_cast]
  exact (Nat.cast_lt.mpr hn).trans hpower

/-- Few digits are a machine number as they are. -/
theorem val_word {n : ℕ} (hn : n < 2 ^ 53) :
    IsNumber n.toUInt64.toFloat ∧ val n.toUInt64.toFloat = n := by
  have hword : n.toUInt64.toNat = n := by
    rw [Nat.toUInt64_eq, UInt64.toNat_ofNat']
    omega
  have hview : view n.toUInt64.toFloat = unpack Format.binary64 (pack Format.binary64
      (UnpackedFloat.ofNat Format.binary64 n)) := by
    show unpack Format.binary64 (pack Format.binary64
      (UnpackedFloat.ofNat Format.binary64 n.toUInt64.toNat)) = _
    rw [hword]
  obtain ⟨hnumber, hvalue⟩ := (ofNat_rounds n).packed
  rw [← hview] at hnumber hvalue
  refine ⟨hnumber, hvalue.trans ?_⟩
  have hnearest := nearest_of_mantissa (m := n) (e := 0) (by rw [Nat.abs_cast]; exact_mod_cast hn)
    (by norm_num)
  rw [zpow_zero, mul_one, Int.cast_natCast] at hnearest
  rw [hnearest, clamp_of_abs_lt (abs_lt_limit_of_lt hn)]

/-- The small powers of ten are machine numbers. -/
theorem val_tenPower (k : Fin 23) : IsNumber Float.exactlyRepresentablePowersOfTen[k] ∧
    |val Float.exactlyRepresentablePowersOfTen[k]| < limit ∧
    val Float.exactlyRepresentablePowersOfTen[k] = 10 ^ (k : ℕ) := by
  refine reading_eq_finite.mp ?_
  revert k
  decide +kernel

/-- A product or quotient of two machine numbers is rounded once. -/
theorem val_ofScientific_of_few {m k : ℕ} (hm : m < 2 ^ 53) (hk : k ≤ 22) (negative : Bool) :
    IsNumber (Float.ofScientific m negative k) ∧ val (Float.ofScientific m negative k) =
      clamp (nearest (m * 10 ^ (if negative then -k else k : ℤ))) := by
  obtain ⟨ten, hfast, hten, hlimit, hpower⟩ : ∃ ten : Float,
      Float.ofScientific m negative k =
        (if negative then m.toUInt64.toFloat / ten else m.toUInt64.toFloat * ten) ∧
      IsNumber ten ∧ |val ten| < limit ∧ val ten = 10 ^ k := by
    refine ⟨_, ?_, val_tenPower ⟨k, by omega⟩⟩
    unfold Float.ofScientific
    rw [dif_pos ⟨hm, hk⟩]
    rfl
  obtain ⟨hword, hdigits⟩ := val_word hm
  have hfinite := isFinite_of_lt hword (by rw [hdigits]; exact abs_lt_limit_of_lt hm)
  have hfinite' := isFinite_of_lt hten hlimit
  rw [hfast]
  cases negative with
  | true =>
    have hne : value (view ten) ≠ 0 := hpower.trans_ne (pow_ne_zero k (by norm_num))
    have hpacked := (div_rounds hfinite hfinite' hne).packed
    rw [← view_div] at hpacked
    have hquotient : value (view m.toUInt64.toFloat) / value (view ten) = m * 10 ^ (-k : ℤ) := by
      rw [zpow_neg, zpow_natCast, ← div_eq_mul_inv]
      exact congrArg₂ (· / ·) hdigits hpower
    rw [hquotient] at hpacked
    exact hpacked
  | false =>
    have hpacked := (mul_rounds (view_canonical _).1 (view_canonical _).1 hfinite hfinite').packed
    rw [← view_mul] at hpacked
    have hproduct : value (view m.toUInt64.toFloat) * value (view ten) = m * 10 ^ (k : ℤ) := by
      rw [zpow_natCast]
      exact congrArg₂ (· * ·) hdigits hpower
    rw [hproduct] at hpacked
    exact hpacked

/-! ## §3 Other numerals -/

/-- The digits, with room for those of a mantissa, times the power of ten as an integer. -/
theorem mul_power_rounds {m k : ℕ} (hm : 0 < m) {d : ℕ} (hshift : 0 < m <<< d) (hd : 53 ≤ d)
    (hten : 0 < 10 ^ k) :
    Rounds (mul Format.binary64 (.finite .positive (m <<< d) (-d) hshift)
      (.finite .positive (10 ^ k) 0 hten)) (m * 10 ^ k) := by
  have htarget : (-d + 0 : ℤ) ≤
      Format.binary64.targetExponent (totalExponent (m <<< d * 10 ^ k) (-d + 0)) := by
    -- The product has no fewer digits than its first factor
    have hlog : d ≤ (m <<< d * 10 ^ k).log2 := by
      rw [Nat.le_log2 (Nat.mul_pos hshift hten).ne', Nat.shiftLeft_eq]
      calc 2 ^ d ≤ m * 2 ^ d := Nat.le_mul_of_pos_left _ hm
        _ ≤ m * 2 ^ d * 10 ^ k := Nat.le_mul_of_pos_right _ hten
    rw [targetExponent_eq]
    omega
  have hrounds := mul_finite_rounds .positive .positive hshift hten htarget
  have hproduct : value (.finite .positive (m <<< d) (-d) hshift) *
      value (.finite .positive (10 ^ k) 0 hten) = m * 10 ^ k := by
    rw [value_above, value_above, Nat.shiftLeft_eq, zpow_neg, zpow_natCast]
    push_cast
    field_simp
  rwa [hproduct] at hrounds

/-- The digits, divided by the power of ten as an integer. -/
theorem div_power_rounds {m k : ℕ} (hm : 0 < m) (hten : 0 < 10 ^ k) :
    Rounds (div Format.binary64 (.finite .positive m 0 hm) (.finite .positive (10 ^ k) 0 hten))
      (m * 10 ^ (-k : ℤ)) := by
  have hrounds := div_finite_rounds .positive .positive (e := 0) (f := 0) hm hten
  have hquotient : value (.finite .positive m 0 hm) / value (.finite .positive (10 ^ k) 0 hten) =
      m * 10 ^ (-k : ℤ) := by
    rw [value_above, value_above, zpow_neg, zpow_natCast]
    push_cast
    simp [div_eq_mul_inv]
  rwa [hquotient] at hrounds

/-- A numeral whose digits are not zero, by its power of ten. -/
theorem ofScientific_eq {m : ℕ} (e : ℤ) (hm : 0 < m) (hshift : 0 < m <<< 53) (k : ℕ)
    (hten : 0 < 10 ^ k) (hk : e.natAbs = k) :
    UnpackedFloat.ofScientific Format.binary64 m e =
      if 2048 < e then .infinity .positive
      else if e < -(2048 + m.log2) then .zero .positive
      else if 0 ≤ e then mul Format.binary64 (.finite .positive (m <<< 53) (-(53 : ℕ)) hshift)
        (.finite .positive (10 ^ k) 0 hten)
      else div Format.binary64 (.finite .positive m 0 hm) (.finite .positive (10 ^ k) 0 hten) := by
  unfold UnpackedFloat.ofScientific
  rw [dif_neg hm.ne']
  refine if_congr Iff.rfl rfl (if_congr Iff.rfl rfl ?_)
  by_cases hnonneg : 0 ≤ e
  · rw [if_pos hnonneg, if_pos hnonneg]
    obtain rfl : e.toNat = k := by omega
    rfl
  · rw [if_neg hnonneg, if_neg hnonneg]
    obtain rfl : (-e).toNat = k := by omega
    rfl

/-- A power of ten that is too large has infinity for its number, and one that is too small has
zero. -/
theorem ofScientific_packed (m : ℕ) (e : ℤ) :
    let u := unpack Format.binary64 (pack Format.binary64
      (UnpackedFloat.ofScientific Format.binary64 m e))
    u ≠ .notANumber ∧ value u = clamp (nearest (m * 10 ^ e)) := by
  intro u
  by_cases hm : m = 0
  · have hu : u = .zero .positive := by
      show unpack Format.binary64 (pack Format.binary64 _) = _
      rw [UnpackedFloat.ofScientific, dif_pos hm]
      rfl
    rw [hu, hm, Nat.cast_zero, zero_mul, nearest_zero, clamp_zero]
    exact ⟨fun h => UnpackedFloat.noConfusion h, rfl⟩
  have hpos : 0 < m := Nat.pos_of_ne_zero hm
  have hshift : 0 < m <<< 53 := by
    rw [Nat.shiftLeft_eq]
    exact Nat.mul_pos hpos (Nat.two_pow_pos 53)
  have hten : 0 < 10 ^ e.natAbs := Nat.pow_pos (by norm_num)
  have hu : u = unpack Format.binary64 (pack Format.binary64 _) :=
    congrArg (fun v => unpack Format.binary64 (pack Format.binary64 v))
      (ofScientific_eq e hpos hshift e.natAbs hten rfl)
  rw [hu]
  clear_value u
  by_cases hlarge : 2048 < e
  · rw [if_pos hlarge, unpack_pack_infinity, value_positive]
    refine ⟨fun h => UnpackedFloat.noConfusion h, (clamp_of_far ?_).symm⟩
    have hone : (1 : ℚ) ≤ m := by exact_mod_cast hpos
    calc limit ≤ 2 ^ e := zpow_le_zpow_right₀ (by norm_num) (by omega)
      _ ≤ 10 ^ e := zpow_le_zpow_left₀ (by omega) (by norm_num) (by norm_num)
      _ ≤ m * 10 ^ e := le_mul_of_one_le_left (zpow_nonneg (by norm_num) e) hone
  rw [if_neg hlarge]
  by_cases hsmall : e < -(2048 + m.log2)
  · have htiny : |(m : ℚ) * 10 ^ e| < 2 ^ (-1075 : ℤ) := by
      have hdigits : (m : ℚ) < 2 ^ ((m.log2 + 1 : ℕ) : ℤ) := by
        rw [zpow_natCast]
        exact_mod_cast Nat.lt_log2_self
      have hpower : (10 : ℚ) ^ e ≤ 2 ^ e := by
        obtain ⟨k, hk⟩ := Int.eq_ofNat_of_zero_le (show 0 ≤ -e by omega)
        obtain rfl : e = -k := by omega
        rw [zpow_neg, zpow_neg]
        exact inv_anti₀ (zpow_two_pos k) (zpow_le_zpow_left₀ (by omega) (by norm_num) (by norm_num))
      rw [abs_of_nonneg (mul_nonneg (Nat.cast_nonneg m) (zpow_nonneg (by norm_num) e))]
      calc (m : ℚ) * 10 ^ e ≤ m * 2 ^ e := mul_le_mul_of_nonneg_left hpower (Nat.cast_nonneg m)
        _ < 2 ^ ((m.log2 + 1 : ℕ) : ℤ) * 2 ^ e := mul_lt_mul_of_pos_right hdigits (zpow_two_pos e)
        _ = 2 ^ ((m.log2 + 1 : ℕ) + e) := (zpow_add₀ (by norm_num) _ _).symm
        _ ≤ 2 ^ (-1075 : ℤ) := zpow_le_zpow_right₀ (by norm_num) (by omega)
    rw [if_pos hsmall, nearest_of_tiny htiny, clamp_zero]
    exact ⟨fun h => UnpackedFloat.noConfusion h, rfl⟩
  rw [if_neg hsmall]
  by_cases hnonneg : 0 ≤ e
  · rw [if_pos hnonneg]
    have hpacked := (mul_power_rounds hpos hshift le_rfl hten).packed
    rwa [show ((10 : ℚ) ^ e.natAbs) = 10 ^ e by
      rw [← zpow_natCast, Int.natCast_natAbs, abs_of_nonneg hnonneg]] at hpacked
  · rw [if_neg hnonneg]
    have hpacked := (div_power_rounds hpos hten).packed
    rwa [show (-(e.natAbs : ℤ)) = e by omega] at hpacked

/-- More digits, or a larger power of ten, are taken as they are. -/
theorem view_ofScientific_of_many {m k : ℕ} (hmany : ¬ (m < 2 ^ 53 ∧ k ≤ 22)) (negative : Bool) :
    view (Float.ofScientific m negative k) = unpack Format.binary64 (pack Format.binary64
      (UnpackedFloat.ofScientific Format.binary64 m (if negative then -k else k : ℤ))) := by
  have hslow : Float.ofScientific m negative k =
      .ofModel (.ofScientific m (if negative then -k else k : ℤ)) := by
    unfold Float.ofScientific
    rw [dif_neg hmany]
    cases negative
    · rfl
    · cases k <;> rfl
  rw [hslow]
  rfl

/-- **Digits and a power of ten become the machine number nearest to them.** -/
theorem val_ofScientific (m : ℕ) (negative : Bool) (k : ℕ) :
    IsNumber (Float.ofScientific m negative k) ∧ val (Float.ofScientific m negative k) =
      clamp (nearest (m * 10 ^ (if negative then -k else k : ℤ))) := by
  by_cases hfew : m < 2 ^ 53 ∧ k ≤ 22
  · exact val_ofScientific_of_few hfew.1 hfew.2 negative
  · rw [IsNumber, val, view_ofScientific_of_many hfew]
    exact ofScientific_packed m _

/-- **A numeral becomes the machine number nearest to it.** -/
theorem val_toFloat (d : Decimal) : IsNumber (Numeral.toFloat (.finite false d)) ∧
    val (Numeral.toFloat (.finite false d)) = clamp (nearest d.amount) := by
  have hval := val_ofScientific d.digits (decide (d.exponent < 0)) d.exponent.natAbs
  have hexponent : (if decide (d.exponent < 0) then -(d.exponent.natAbs : ℤ) else d.exponent.natAbs)
      = d.exponent := by
    split_ifs with h <;> simp only [decide_eq_true_eq] at h <;> omega
  rwa [hexponent] at hval

/-! ## §4 Numerals that become a given number -/

theorem ofScientific_zero_of_few (k : Fin 23) (negative : Bool) :
    Binary.ofFloat (Float.ofScientific 0 negative k) = .finite false 0 (-1074) := by
  revert k negative
  decide +kernel

/-- No digits but zeros become the zero without a sign. -/
theorem view_ofScientific_zero (negative : Bool) (k : ℕ) :
    view (Float.ofScientific 0 negative k) = .zero .positive := by
  by_cases hk : k ≤ 22
  · have hword : binaryOf (view (Float.ofScientific 0 negative k)) = .finite false 0 (-1074) :=
      (ofWord_eq _).symm.trans (ofScientific_zero_of_few ⟨k, by omega⟩ negative)
    cases hview : view (Float.ofScientific 0 negative k) with
    | notANumber => rw [hview] at hword; cases hword
    | infinity s => rw [hview] at hword; cases hword
    | zero s =>
      rw [hview] at hword
      cases s with
      | negative => cases hword
      | positive => rfl
    | finite s m e hm =>
      rw [hview] at hword
      obtain ⟨-, hzero, -⟩ := Binary.finite.inj hword
      omega
  · rw [view_ofScientific_of_many (fun h => hk h.2), UnpackedFloat.ofScientific, dif_pos rfl]
    rfl

/-- A number in canonical form is the only one of its value, but for zeros. -/
theorem mantissa_unique {m n : ℕ} {e f : ℤ} (hm : m < 2 ^ 53) (hn : n < 2 ^ 53) (he : -1074 ≤ e)
    (hf : -1074 ≤ f) (hme : 2 ^ 52 ≤ m ∨ e = -1074) (hnf : 2 ^ 52 ≤ n ∨ f = -1074)
    (hvalue : (m : ℚ) * 2 ^ e = n * 2 ^ f) : e = f ∧ m = n := by
  have hcompare := compare_magnitudes hm hn he hf hme hnf
  rw [compare_eq_iff_eq.mpr hvalue] at hcompare
  obtain ⟨hexponent, hmantissa⟩ := Ordering.then_eq_eq.mp hcompare
  exact ⟨compare_eq_iff_eq.mp hexponent, compare_eq_iff_eq.mp hmantissa⟩

/-- So a machine number of the value of digits in canonical form has these digits. -/
theorem view_of_val_eq {x : Float} {m : ℕ} {e : ℤ} (hm : 0 < m)
    (hcanonical : Canonical (.finite .positive m e hm)) (hfits : Fits (.finite .positive m e hm))
    (hx : IsNumber x) (hval : val x = m * 2 ^ e) : view x = .finite .positive m e hm := by
  have hlimit := abs_value_lt hcanonical hfits rfl
  rw [value_above, ← hval] at hlimit
  rcases view_of_pos hx (by rw [hval]; exact magnitude_pos e hm) with hview | ⟨n, f, hn, hview⟩
  · rw [val, hview] at hlimit
    exact absurd hlimit (not_lt_of_infinity _)
  · have hcanonical' := (view_canonical x).1
    rw [hview] at hcanonical'
    rw [val, hview, value_above] at hval
    obtain ⟨hexponent, hmantissa⟩ := mantissa_unique hcanonical'.1 hcanonical.1 hcanonical'.2.1
      hcanonical.2.1 hcanonical'.2.2 hcanonical.2.2 hval
    rw [hview]
    exact finite_congr .positive hmantissa hexponent

/-- A machine number above zero is the only one of its value. -/
theorem eq_of_val_pos {x y : Float} (hx : IsNumber x) (hy : IsNumber y) (hpos : 0 < val x)
    (hsame : val x = val y) : x = y := by
  refine eq_of_view hx ?_
  have hdigits {x y : Float} {m : ℕ} {e : ℤ} {hm : 0 < m} (hx : IsNumber x)
      (hview : view y = .finite .positive m e hm) (hsame : val x = val y) : view x = view y := by
    have hcanonical := view_canonical y
    rw [hview] at hcanonical ⊢
    apply view_of_val_eq hm hcanonical.1 hcanonical.2 hx
    rw [hsame, val, hview, value_above]
  rcases view_of_pos hx hpos with hview | ⟨m, e, hm, hview⟩
  · rcases view_of_pos hy (hsame ▸ hpos) with hview' | ⟨n, f, hn, hview'⟩
    · rw [hview, hview']
    · exact hdigits hx hview' hsame
  · exact (hdigits hy hview hsame.symm).symm

/-- A numeral that rounds to a finite number above zero becomes that number. -/
theorem view_toFloat {d : Decimal} {m : ℕ} {e : ℤ} (hm : 0 < m)
    (hcanonical : Canonical (.finite .positive m e hm)) (hfits : Fits (.finite .positive m e hm))
    (hd : nearest d.amount = m * 2 ^ e) :
    view (Numeral.toFloat (.finite false d)) = .finite .positive m e hm := by
  obtain ⟨hnumber, hval⟩ := val_toFloat d
  have hlimit := abs_value_lt hcanonical hfits rfl
  rw [value_above] at hlimit
  rw [hd, clamp_of_abs_lt hlimit] at hval
  exact view_of_val_eq hm hcanonical hfits hnumber hval

/-- The sign of a numeral is put on after its digits were read. -/
theorem view_toFloat_neg {d : Decimal} {u : UnpackedFloat}
    (h : view (Numeral.toFloat (.finite false d)) = u) :
    view (Numeral.toFloat (.finite true d)) = unpack Format.binary64 (pack Format.binary64 (neg u)) := by
  have hneg : Numeral.toFloat (.finite true d) = -Numeral.toFloat (.finite false d) := rfl
  rw [hneg, view_neg, h]

/-- The mantissa and the exponent of a finite number are in canonical form. -/
theorem canonical_of_ofFloat {x : Float} {negative : Bool} {m : ℕ} {e : ℤ}
    (hx : Binary.ofFloat x = .finite negative m e) :
    m < 2 ^ 53 ∧ -1074 ≤ e ∧ (2 ^ 52 ≤ m ∨ e = -1074) := by
  have hword : binaryOf (view x) = .finite negative m e := (ofWord_eq _).symm.trans hx
  obtain ⟨hcanonical, -⟩ := view_canonical x
  cases hview : view x with
  | notANumber => rw [hview] at hword; cases hword
  | infinity s => rw [hview] at hword; cases hword
  | zero s =>
    rw [hview] at hword
    obtain ⟨-, rfl, rfl⟩ := Binary.finite.inj hword
    exact ⟨by norm_num, le_rfl, .inr rfl⟩
  | finite s n f hn =>
    rw [hview] at hword hcanonical
    obtain ⟨-, rfl, rfl⟩ := Binary.finite.inj hword
    exact hcanonical

/-- **A numeral that rounds to a finite number becomes that number**, with its sign. -/
theorem toFloat_eq {x : Float} {negative : Bool} {m : ℕ} {e : ℤ} {d : Decimal}
    (hx : Binary.ofFloat x = .finite negative m e) (hd : nearest d.amount = m * 2 ^ e)
    (hzero : m = 0 → d.digits = 0) : Numeral.toFloat (.finite negative d) = x := by
  have hword : binaryOf (view x) = .finite negative m e := (ofWord_eq _).symm.trans hx
  obtain ⟨hcanonical, hfits⟩ := view_canonical x
  cases hview : view x with
  | notANumber => rw [hview] at hword; cases hword
  | infinity s => rw [hview] at hword; cases hword
  | zero s =>
    rw [hview] at hword
    obtain ⟨hsign, hm, -⟩ := Binary.finite.inj hword
    have hplain : view (Numeral.toFloat (.finite false d)) = .zero .positive := by
      have hdigits : Numeral.toFloat (.finite false d) =
          Float.ofScientific d.digits (decide (d.exponent < 0)) d.exponent.natAbs := rfl
      rw [hdigits, hzero hm.symm]
      exact view_ofScientific_zero _ _
    refine (eq_of_view (by rw [IsNumber, hview]; exact nofun) ?_).symm
    rw [hview]
    cases s with
    | positive =>
      obtain rfl : negative = false := hsign.symm
      exact hplain.symm
    | negative =>
      obtain rfl : negative = true := hsign.symm
      rw [view_toFloat_neg hplain]
      rfl
  | finite s n f hn =>
    rw [hview] at hword hcanonical hfits
    obtain ⟨hsign, rfl, rfl⟩ := Binary.finite.inj hword
    have hplain := view_toFloat (d := d) hn hcanonical hfits hd
    refine (eq_of_view (by rw [IsNumber, hview]; exact nofun) ?_).symm
    rw [hview]
    cases s with
    | positive =>
      obtain rfl : negative = false := hsign.symm
      exact hplain.symm
    | negative =>
      obtain rfl : negative = true := hsign.symm
      rw [view_toFloat_neg hplain]
      exact (unpack_pack_finite .negative hn hcanonical hfits).symm

end Machine

end Lamella
