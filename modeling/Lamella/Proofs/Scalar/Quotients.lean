import Lamella.Proofs.Scalar.Steady
import Lamella.Value.Convert

/-!
# Quotients of integers

The word of a quotient is put together from its exponent and its rounded mantissa. Since a mantissa
that carried counts the exponent up by itself, the word stands for the machine number nearest to the
quotient; a larger dividend therefore has a quotient at least as large.

## Main definitions

- `Scalar.Proportional`: the class of scalar types whose quotients of integers keep the order.

## Main statements

- `Machine.value_of_word`: what a word put together from exponent and mantissa stands for.
- `Machine.nearestWord_eq`: the exponent and mantissa of a quotient are those of its nearest number.
- `Machine.val_ofQuotient`: a quotient of integers becomes the machine number nearest to it.
-/

namespace Lamella

namespace Machine

open Float.Model (Format UnpackedFloat)
open Float.Model.UnpackedFloat

/-! ## §1 Words put together -/

/-- The machine number of a word below that of the first infinity. -/
theorem view_ofWord {word : ℕ} (h : word ≤ 2047 * 2 ^ 52) :
    view (Float.ofBits (.ofNat word)) =
      if word / 2 ^ 52 = 2047 then .infinity .positive
      else if word / 2 ^ 52 = 0 then ofMantissa .positive (word % 2 ^ 52) (-1074)
      else ofMantissa .positive (2 ^ 52 + word % 2 ^ 52) ((word / 2 ^ 52 : ℕ) - 1075) := by
  set b : BitVec Format.binary64.numBits := (UInt64.ofNat word).toBitVec with hb
  have hword : b.toNat = word := by
    show (BitVec.ofNat 64 word).toNat = word
    rw [BitVec.toNat_ofNat, Nat.mod_eq_of_lt (by omega)]
  -- Reading a word and packing it again changes nothing
  have hview : view (Float.ofBits (.ofNat word)) = unpack Format.binary64 b := by
    obtain ⟨hcanonical, hfits⟩ := unpack_canonical b
    rcases unpack_pack hcanonical with hsame | ⟨s, m, e, hm, heq, hlarge, -⟩
    · exact hsame
    · rw [heq] at hfits
      exact absurd hfits (by show ¬ e ≤ 971; omega)
  have hsign : Sign.ofBitVec (unpackSign b) = .positive := by
    have hzero : unpackSign b = 0#1 := by
      apply BitVec.eq_of_toNat_eq
      have hhalf : Nat.pow 2 63 = 9223372036854775808 := rfl
      rw [unpackSign_toNat, hword, hhalf, BitVec.toNat_zero]
      omega
    rw [hzero]
    rfl
  have hexponent : (unpackExponent b).toNat = word / 2 ^ 52 := by
    rw [unpackExponent_toNat, hword]
    exact Nat.mod_eq_of_lt (by show word / 2 ^ 52 < 2048; omega)
  have hmantissa : (unpackMantissa b).toNat = word % 2 ^ 52 := by
    rw [unpackMantissa_toNat, hword]
    rfl
  rw [hview, unpack_eq, ofFields_eq, hsign, hexponent, hmantissa]
  split_ifs with hfull hnone
  · rfl
  · omega
  · rfl
  · rfl

/-- **What a word put together from exponent and mantissa stands for**: if the mantissa carried, the
exponent is counted up. -/
theorem value_of_word {k m : ℕ} (hshape : 2 ^ 52 ≤ m ∨ k = 0) (hm : m ≤ 2 ^ 53)
    (h : k * 2 ^ 52 + m < 2047 * 2 ^ 52) :
    IsNumber (Float.ofBits (.ofNat (k * 2 ^ 52 + m))) ∧
      val (Float.ofBits (.ofNat (k * 2 ^ 52 + m))) = m * 2 ^ ((k : ℤ) - 1074) := by
  have hview := view_ofWord h.le
  rw [if_neg (by omega)] at hview
  rw [IsNumber, val, hview]
  have hnumber : ∀ (n : ℕ) (e : ℤ), ofMantissa .positive n e ≠ .notANumber := by
    intro n e hnone
    have hfinite := ofMantissa_finite .positive n e
    rw [hnone] at hfinite
    cases hfinite
  have hvalue : ∀ (n : ℕ) (e : ℤ), value (ofMantissa .positive n e) = n * 2 ^ e := by
    intro n e
    rw [value_ofMantissa]
    exact one_mul _
  rcases lt_or_ge m (2 ^ 52) with hfew | hmany
  · -- Few digits: the exponent is the least
    obtain rfl : k = 0 := hshape.resolve_left (not_le.mpr hfew)
    rw [if_pos (by omega), hvalue]
    refine ⟨hnumber _ _, ?_⟩
    rw [zero_mul, zero_add, Nat.mod_eq_of_lt hfew]
    norm_num
  rw [if_neg (by omega), hvalue]
  refine ⟨hnumber _ _, ?_⟩
  rcases hm.lt_or_eq with hlt | rfl
  · have hfield : (k * 2 ^ 52 + m) / 2 ^ 52 = k + 1 := by omega
    have hfraction : 2 ^ 52 + (k * 2 ^ 52 + m) % 2 ^ 52 = m := by omega
    rw [hfield, hfraction]
    congr 2
    push_cast
    ring
  · -- A mantissa that carried has one digit more, and no fraction
    have hfield : (k * 2 ^ 52 + 2 ^ 53) / 2 ^ 52 = k + 2 := by omega
    have hfraction : 2 ^ 52 + (k * 2 ^ 52 + 2 ^ 53) % 2 ^ 52 = 2 ^ 52 := by omega
    rw [hfield, hfraction, show ((k + 2 : ℕ) : ℤ) - 1075 = 1 + ((k : ℤ) - 1074) by omega,
      zpow_add₀ (by norm_num), zpow_one]
    push_cast
    ring

/-! ## §2 The word of a quotient -/

/-- The spacing around a quotient is told by the digits of its parts, and by one comparison. -/
theorem spacing_of_quotient {n d : ℕ} (hn : 0 < n) (hd : 0 < d) :
    let about : ℤ := n.log2 - d.log2 - 52
    spacing (n / d) = max (-1074) (if 2 ^ (about + 52) ≤ (n / d : ℚ) then about else about - 1) := by
  intro about
  have hdpos : (0 : ℚ) < d := Nat.cast_pos.mpr hd
  have hq : (0 : ℚ) < n / d := div_pos (Nat.cast_pos.mpr hn) hdpos
  have hnlow : (2 : ℚ) ^ (n.log2 : ℤ) ≤ n := by exact_mod_cast Nat.log2_self_le hn.ne'
  have hnhigh : (n : ℚ) < 2 ^ (n.log2 + 1 : ℤ) := by exact_mod_cast Nat.lt_log2_self (n := n)
  have hdlow : (2 : ℚ) ^ (d.log2 : ℤ) ≤ d := by exact_mod_cast Nat.log2_self_le hd.ne'
  have hdhigh : (d : ℚ) < 2 ^ (d.log2 + 1 : ℤ) := by exact_mod_cast Nat.lt_log2_self (n := d)
  have hlow : (2 : ℚ) ^ (about + 51) ≤ n / d := by
    rw [le_div_iff₀ hdpos]
    calc (2 : ℚ) ^ (about + 51) * d ≤ 2 ^ (about + 51) * 2 ^ (d.log2 + 1 : ℤ) :=
          mul_le_mul_of_nonneg_left hdhigh.le (zpow_two_pos _).le
      _ = 2 ^ (n.log2 : ℤ) := by
          rw [← zpow_add₀ (by norm_num)]
          congr 1
          omega
      _ ≤ n := hnlow
  have hhigh : (n / d : ℚ) < 2 ^ (about + 53) := by
    rw [div_lt_iff₀ hdpos]
    calc (n : ℚ) < 2 ^ (n.log2 + 1 : ℤ) := hnhigh
      _ = 2 ^ (about + 53) * 2 ^ (d.log2 : ℤ) := by
          rw [← zpow_add₀ (by norm_num)]
          congr 1
          omega
      _ ≤ 2 ^ (about + 53) * d := mul_le_mul_of_nonneg_left hdlow (zpow_two_pos _).le
  -- The logarithm of the quotient is one of two integers
  have hleLog : ∀ e : ℤ, (2 : ℚ) ^ e ≤ n / d ↔ e ≤ Int.log 2 (n / d : ℚ) := fun e => by
    have h := Int.zpow_le_iff_le_log (b := 2) (by norm_num) (x := e) hq
    rwa [Nat.cast_ofNat] at h
  have hleast := (hleLog _).mp hlow
  have hmost : Int.log 2 (n / d : ℚ) < about + 53 := by
    by_contra hge
    exact absurd ((hleLog _).mpr (not_lt.mp hge)) (not_le.mpr hhigh)
  rw [spacing, abs_of_pos hq, max_comm]
  congr 1
  split_ifs with hfits
  · have := (hleLog _).mp hfits
    omega
  · have := mt (hleLog _).mpr hfits
    omega

/-- **The exponent and the mantissa of a quotient are those of its nearest machine number.** -/
theorem nearestWord_eq {n d : ℕ} (hn : 0 < n) (hd : 0 < d) :
    Binary.nearestWord 11 52 n d =
      min ((spacing (n / d) + 1074).toNat * 2 ^ 52 +
        (roundHalfEven ((n / d : ℚ) / 2 ^ spacing (n / d))).toNat) (2047 * 2 ^ 52) := by
  have hspacing := spacing_of_quotient hn hd
  have hquotient : mkRat n d = (n / d : ℚ) := by
    rw [Rat.mkRat_eq_div]
    push_cast
    rfl
  have hpower : ∀ e, Binary.magnitude (Nat.pow 2 52) e = 2 ^ (e + 52) := by
    intro e
    have hdigits : Nat.pow 2 52 = 2 ^ 52 := rfl
    rw [magnitude_eq, hdigits, Nat.cast_pow, Nat.cast_ofNat, add_comm, zpow_add₀ (by norm_num)]
    rfl
  have hone : ∀ e, Binary.magnitude 1 e = 2 ^ e := by
    intro e
    rw [magnitude_eq, Nat.cast_one, one_mul]
  have hleast : (1 - (Nat.pow 2 (11 - 1) - 1 : ℤ) - (52 : ℕ) : ℤ) = -1074 := rfl
  unfold Binary.nearestWord
  dsimp only
  rw [hquotient, hpower, hone, hleast, if_neg hn.ne', Nat.cast_ofNat, ← hspacing, sub_neg_eq_add]
  rfl

/-- A word is below that of the first infinity if its number is within the range. -/
theorem word_lt_iff {k m : ℕ} (hshape : 2 ^ 52 ≤ m ∨ k = 0) (hm : m ≤ 2 ^ 53) :
    k * 2 ^ 52 + m < 2047 * 2 ^ 52 ↔ (m : ℚ) * 2 ^ ((k : ℤ) - 1074) < limit := by
  have hpos := zpow_two_pos ((k : ℤ) - 1074)
  have hscaled : ∀ j : ℕ, (2 : ℚ) ^ j * 2 ^ ((k : ℤ) - 1074) = 2 ^ ((j : ℤ) + (k - 1074)) := by
    intro j
    rw [zpow_add₀ (by norm_num), zpow_natCast]
  have hmost : (m : ℚ) ≤ 2 ^ 53 := by exact_mod_cast hm
  constructor
  · intro h
    rcases hm.lt_or_eq with hlt | rfl
    · calc (m : ℚ) * 2 ^ ((k : ℤ) - 1074) < 2 ^ 53 * 2 ^ ((k : ℤ) - 1074) :=
            mul_lt_mul_of_pos_right (by exact_mod_cast hlt) hpos
        _ = 2 ^ ((53 : ℕ) + ((k : ℤ) - 1074)) := hscaled 53
        _ ≤ limit := zpow_le_zpow_right₀ (by norm_num) (by omega)
    · rw [Nat.cast_pow, Nat.cast_ofNat, hscaled]
      exact zpow_lt_zpow_right₀ (by norm_num) (by omega)
  · intro h
    by_contra hge
    have hfew : 2 ^ 52 ≤ m := hshape.resolve_right (by omega)
    refine absurd h (not_lt.mpr ?_)
    rcases hm.lt_or_eq with hlt | rfl
    · calc limit ≤ 2 ^ ((52 : ℕ) + ((k : ℤ) - 1074)) := zpow_le_zpow_right₀ (by norm_num) (by omega)
        _ = 2 ^ 52 * 2 ^ ((k : ℤ) - 1074) := (hscaled 52).symm
        _ ≤ m * 2 ^ ((k : ℤ) - 1074) :=
            mul_le_mul_of_nonneg_right (by exact_mod_cast hfew) hpos.le
    · rw [Nat.cast_pow, Nat.cast_ofNat, hscaled]
      exact zpow_le_zpow_right₀ (by norm_num) (by omega)

/-- The nearest machine number above zero as a mantissa and a count of spacings from the least. -/
theorem exists_mantissa {q : ℚ} (hq : 0 < q) : ∃ k m : ℕ, spacing q + 1074 = k ∧
    roundHalfEven (q / 2 ^ spacing q) = m ∧ (2 ^ 52 ≤ m ∨ k = 0) ∧ m ≤ 2 ^ 53 ∧
    nearest q = m * 2 ^ ((k : ℤ) - 1074) := by
  have hleast : -1074 ≤ spacing q := le_max_right _ _
  have hnonneg := le_mantissa_of_le (q := q) (n := 0) (by simpa using hq.le)
  obtain ⟨m, hm⟩ := Int.eq_ofNat_of_zero_le hnonneg
  obtain ⟨k, hk⟩ := Int.eq_ofNat_of_zero_le (show 0 ≤ spacing q + 1074 by omega)
  have hmost := mantissa_le hq
  have hdigits := le_mantissa hq
  rw [hm] at hmost hdigits
  refine ⟨k, m, hk, hm, ?_, by exact_mod_cast hmost, ?_⟩
  · rcases hdigits with hfine | hle
    · exact .inr (by omega)
    · exact .inl (by exact_mod_cast hle)
  · rw [nearest, hm, Int.cast_natCast, show spacing q = (k : ℤ) - 1074 by omega]

/-- **The word of a quotient stands for the machine number nearest to it**, or for an infinity. -/
theorem val_nearestWord {n d : ℕ} (hn : 0 < n) (hd : 0 < d) :
    IsNumber (Float.ofBits (.ofNat (Binary.nearestWord 11 52 n d))) ∧
      val (Float.ofBits (.ofNat (Binary.nearestWord 11 52 n d))) = clamp (nearest (n / d)) := by
  have hq : (0 : ℚ) < n / d := div_pos (Nat.cast_pos.mpr hn) (Nat.cast_pos.mpr hd)
  obtain ⟨k, m, hk, hm, hshape, hmost, hnearest⟩ := exists_mantissa hq
  have hnonneg := nearest_nonneg hq.le
  rw [nearestWord_eq hn hd, hk, hm, Int.toNat_natCast, Int.toNat_natCast]
  by_cases hlt : k * 2 ^ 52 + m < 2047 * 2 ^ 52
  · have hnear : |nearest ((n : ℚ) / d)| < limit := by
      rw [abs_of_nonneg hnonneg, hnearest]
      exact (word_lt_iff hshape hmost).mp hlt
    rw [min_eq_left hlt.le, clamp_of_abs_lt hnear, hnearest]
    exact value_of_word hshape hmost hlt
  · have hfar : limit ≤ nearest ((n : ℚ) / d) := by
      rw [hnearest]
      exact not_lt.mp (mt (word_lt_iff hshape hmost).mpr hlt)
    rw [min_eq_right (not_lt.mp hlt), clamp, if_pos hfar, ← value_positive]
    exact val_of_view_infinity (view_ofWord le_rfl)

/-- **A quotient of integers becomes the machine number nearest to it.** -/
theorem val_ofQuotient {a b : ℤ} (ha : 0 ≤ a) (hb : 0 < b) :
    IsNumber (Scalar.ofQuotient a b) ∧
      val (Scalar.ofQuotient a b) = clamp (nearest (a / b)) := by
  obtain ⟨n, rfl⟩ := Int.eq_ofNat_of_zero_le ha
  obtain ⟨d, rfl⟩ := Int.eq_ofNat_of_zero_le hb.le
  have hword : (Scalar.ofQuotient (n : ℤ) (d : ℤ) : Float) =
      Float.ofBits (.ofNat (Binary.nearestWord 11 52 n d)) := by
    show Float.ofBits (.ofNat (Binary.quotientWord 11 52 n d)) = _
    rw [Binary.quotientWord, decide_eq_false (not_lt.mpr ha), decide_eq_false (not_lt.mpr hb.le),
      Bool.xor_self, if_neg Bool.false_ne_true, zero_add, Int.natAbs_natCast, Int.natAbs_natCast]
  rw [hword, Int.cast_natCast, Int.cast_natCast]
  rcases Nat.eq_zero_or_pos n with rfl | hn
  · have hzero : Binary.nearestWord 11 52 0 d = 0 := by
      rw [Binary.nearestWord]
      exact if_pos rfl
    rw [hzero, Nat.cast_zero, zero_div, nearest_zero, clamp_zero]
    exact val_zero
  · exact val_nearestWord hn (by omega)

end Machine

/-! ## §3 Proportional scalars -/

/-- Scalars whose quotients of integers grow with the dividend: if that of a larger one is finite, so
is that of a smaller one. -/
class Scalar.Proportional (R : Type) [Scalar R] : Prop where
  reading_of_le {a a' b : ℤ} {q : ℚ} : 0 < b → 0 ≤ a → a ≤ a' →
    reading (Scalar.ofQuotient a' b : R) = .finite q →
      (∃ p, reading (Scalar.ofQuotient a b : R) = .finite p) ∧
        (Scalar.ofQuotient a b : R) ≤ Scalar.ofQuotient a' b

instance : Scalar.Proportional Rat where
  reading_of_le hb _ hle _ :=
    ⟨⟨_, rfl⟩, div_le_div_of_nonneg_right (Int.cast_le.mpr hle) (Int.cast_nonneg hb.le)⟩

open Machine in
instance : Scalar.Proportional Float where
  reading_of_le {a a' b q} hb ha hle hq := by
    obtain ⟨hnumber, hval⟩ := val_ofQuotient ha hb
    obtain ⟨hnumber', hval'⟩ := val_ofQuotient (ha.trans hle) hb
    obtain ⟨-, hlimit, -⟩ := reading_eq_finite.mp hq
    have hquotient : (a / b : ℚ) ≤ a' / b :=
      div_le_div_of_nonneg_right (Int.cast_le.mpr hle) (Int.cast_nonneg hb.le)
    have hmono : val (Scalar.ofQuotient a b) ≤ val (Scalar.ofQuotient a' b) := by
      rw [hval, hval']
      exact clamp_mono (nearest_mono hquotient)
    have hnonneg : 0 ≤ val (Scalar.ofQuotient a b) := by
      rw [hval, ← clamp_zero]
      exact clamp_mono (nearest_nonneg (div_nonneg (Int.cast_nonneg ha) (Int.cast_nonneg hb.le)))
    refine ⟨⟨_, reading_eq_finite.mpr ⟨hnumber, ?_, rfl⟩⟩, le_iff.mpr ⟨hnumber, hnumber', hmono⟩⟩
    rw [abs_of_nonneg hnonneg]
    exact hmono.trans_lt ((le_abs_self _).trans_lt hlimit)

end Lamella
