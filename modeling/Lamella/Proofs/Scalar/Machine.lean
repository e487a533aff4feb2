import Lamella.Proofs.Scalar.Nearest

/-!
# Machine numbers

A machine number is a sign, a mantissa of 53 binary digits and an exponent, an infinity, or no
number. Its value is an exact rational, infinities standing just beyond all others; the order of
machine numbers is that of their values, and an operation gives the machine number nearest to the
exact result.

## Main definitions

- `Machine.value`: the exact value of an unpacked number.
- `Machine.Canonical`: the form in which numbers are packed.

## Main statements

- `Machine.unpack_pack`: what is packed is read back, or is an infinity if it was too large.
- `Machine.roundWithAccuracy_value`: rounding a mantissa gives the nearest machine number.
-/

namespace Lamella.Machine

open Float.Model (Format UnpackedFloat totalExponent)
open Float.Model.UnpackedFloat

/-! ## §1 Values and forms -/

/-- The least power of two that is too large for a machine number. -/
def limit : ℚ := 2 ^ (1024 : ℤ)

/-- Where infinities stand: so far out that no machine number brings them back to the others. -/
def beyond : ℚ := 2 ^ (1025 : ℤ)

theorem limit_pos : 0 < limit := zpow_two_pos 1024

theorem beyond_eq : beyond = 2 * limit := by
  rw [beyond, limit, show (1025 : ℤ) = 1 + 1024 from rfl, zpow_add₀ (by norm_num), zpow_one]

/-- The value of an unpacked number. -/
def value : UnpackedFloat → ℚ
  | .finite s m e _ => (s.apply m : ℤ) * 2 ^ e
  | .zero _ => 0
  | .infinity s => (s.apply 1 : ℤ) * beyond
  | .notANumber => 0

theorem value_finite (s : Sign) {m : ℕ} (e : ℤ) (hm : 0 < m) :
    value (.finite s m e hm) = (s.apply 1 : ℤ) * (m * 2 ^ e) := by
  show ((s.apply m : ℤ) : ℚ) * 2 ^ e = _
  cases s <;> simp [Sign.apply]

theorem magnitude_pos {m : ℕ} (e : ℤ) (hm : 0 < m) : (0 : ℚ) < m * 2 ^ e :=
  mul_pos (Nat.cast_pos.mpr hm) (zpow_two_pos e)

theorem finite_congr (s : Sign) {m n : ℕ} {d e : ℤ} {hm : 0 < m} {hn : 0 < n} (hmn : m = n)
    (hde : d = e) : UnpackedFloat.finite s m d hm = .finite s n e hn := by
  subst hmn hde
  rfl

/-- The form in which numbers are packed: the mantissa has 53 binary digits, or fewer at the least
exponent. -/
def Canonical : UnpackedFloat → Prop
  | .finite _ m e _ => m < 2 ^ 53 ∧ -1074 ≤ e ∧ (2 ^ 52 ≤ m ∨ e = -1074)
  | _ => True

/-- Numbers that are not too large to be packed. -/
def Fits : UnpackedFloat → Prop
  | .finite _ _ e _ => e ≤ 971
  | _ => True

theorem toNat_one_append (v : BitVec 52) : (1#1 ++ v).toNat = 2 ^ 52 + v.toNat := by
  rw [BitVec.toNat_append, ← Nat.shiftLeft_add_eq_or_of_lt v.isLt]
  rfl

/-- The number of a sign, a biased exponent and a fraction. If the exponent is full the number is
not finite, and if it is zero there is no leading digit before those of the fraction. -/
def ofFields (s : Sign) (w : BitVec 11) (v : BitVec 52) : UnpackedFloat :=
  if w = -1#11 then if v = 0#52 then .infinity s else .notANumber
  else if w = 0#11 then
    if hv : v = 0#52 then .zero s
    else .finite s v.toNat (w.toNat - 1075 + 1)
      (Nat.pos_of_ne_zero fun h => hv (BitVec.eq_of_toNat_eq h))
  else .finite s (1#1 ++ v).toNat (w.toNat - 1075) (by rw [toNat_one_append]; omega)

theorem unpack_eq (b : BitVec Format.binary64.numBits) : unpack Format.binary64 b =
    ofFields (Sign.ofBitVec (unpackSign b)) (unpackExponent b) (unpackMantissa b) := rfl

theorem ofFields_canonical (s : Sign) (w : BitVec 11) (v : BitVec 52) :
    Canonical (ofFields s w v) ∧ Fits (ofFields s w v) := by
  have hv : v.toNat < 2 ^ 52 := v.isLt
  have hw : w.toNat < 2048 := w.isLt
  rw [ofFields]
  by_cases hfull : w = -1#11
  · rw [if_pos hfull]
    split <;> exact ⟨trivial, trivial⟩
  rw [if_neg hfull]
  by_cases hzero : w = 0#11
  · -- A zero for the exponent: there is no leading digit, and the exponent is the least
    rw [if_pos hzero]
    have hw0 : w.toNat = 0 := by rw [hzero]; rfl
    by_cases hnone : v = 0#52
    · rw [dif_pos hnone]
      exact ⟨trivial, trivial⟩
    · rw [dif_neg hnone]
      exact ⟨⟨by omega, by omega, .inr (by omega)⟩, by show (w.toNat - 1075 + 1 : ℤ) ≤ 971; omega⟩
  · -- Else a leading digit is put before the others
    rw [if_neg hzero]
    have hw0 : w.toNat ≠ 0 := fun h => hzero (BitVec.eq_of_toNat_eq h)
    have hw1 : w.toNat ≠ 2047 := fun h => hfull (BitVec.eq_of_toNat_eq h)
    have hm : (1#1 ++ v).toNat = 2 ^ 52 + v.toNat := toNat_one_append v
    exact ⟨⟨by omega, by omega, .inl (by omega)⟩, by show (w.toNat - 1075 : ℤ) ≤ 971; omega⟩

/-- Unpacked words are in canonical form. -/
theorem unpack_canonical (b : BitVec Format.binary64.numBits) :
    Canonical (unpack Format.binary64 b) ∧ Fits (unpack Format.binary64 b) := by
  rw [unpack_eq]
  exact ofFields_canonical ..

/-! ## §2 Packing -/

theorem ofBitVec_unpackSign {f : Format} (s : Sign) (e : BitVec f.exponentBits)
    (m : BitVec f.mantissaBitsWithoutImplicit) :
    Sign.ofBitVec (unpackSign (packComponents f s e m)) = s := by
  -- The sign is the first bit of the word
  have hsign : unpackSign (packComponents f s e m) = s.toBitVec := by
    refine BitVec.eq_of_getLsbD_eq fun i hi => ?_
    obtain rfl : i = 0 := by omega
    delta unpackSign
    simp [packComponents, BitVec.getLsbD_append, BitVec.getElem_append]
  rw [hsign]
  cases s <;> rfl

/-- The biased exponent of a number that fits, which is neither zero nor full. -/
theorem biased_exponent {e : ℤ} (hlow : -1074 ≤ e) (hhigh : e ≤ 971) :
    ∃ w : ℕ, (e + Format.binary64.exponentBias +
        Format.binary64.mantissaBitsWithoutImplicit).toNat = w ∧
      (w : ℤ) = e + 1075 ∧ 1 ≤ w ∧ w ≤ 2046 := by
  have hbias : (Format.binary64.exponentBias : ℤ) = 1023 := by decide
  have hfraction : (Format.binary64.mantissaBitsWithoutImplicit : ℤ) = 52 := rfl
  refine ⟨_, rfl, ?_, ?_, ?_⟩ <;> rw [hbias, hfraction] <;> omega

theorem pack_finite (s : Sign) {m : ℕ} (e : ℤ) (hm : 0 < m) :
    pack Format.binary64 (.finite s m e hm) =
      if 2 ^ 11 ≤ (e + Format.binary64.exponentBias +
          Format.binary64.mantissaBitsWithoutImplicit).toNat + 1 then
        packedInfinity Format.binary64 s
      else if m.log2 + 1 = Format.binary64.mantissaBits then
        packComponents Format.binary64 s (BitVec.ofNat 11 (e + Format.binary64.exponentBias +
          Format.binary64.mantissaBitsWithoutImplicit).toNat) (BitVec.ofNat 52 m)
      else packComponents Format.binary64 s 0#11 (BitVec.ofNat 52 m) := rfl

/-- A number that fits is read back as it was packed. -/
theorem unpack_pack_finite (s : Sign) {m : ℕ} {e : ℤ} (hm : 0 < m)
    (hcanonical : Canonical (.finite s m e hm)) (hfits : e ≤ 971) :
    unpack Format.binary64 (pack Format.binary64 (.finite s m e hm)) = .finite s m e hm := by
  obtain ⟨hbound, hleast, hshape⟩ := hcanonical
  obtain ⟨w, hw, hexact, hpos, hmax⟩ := biased_exponent hleast hfits
  have hbits : Format.binary64.mantissaBits = 53 := by decide
  rw [pack_finite, hw, if_neg (by show ¬ 2048 ≤ w + 1; omega), hbits]
  have hlog := (Nat.log2_lt hm.ne').mpr hbound
  have hword : (BitVec.ofNat 11 w).toNat = w := by
    rw [BitVec.toNat_ofNat, Nat.mod_eq_of_lt (by omega)]
  by_cases hnormal : 2 ^ 52 ≤ m
  · -- The leading digit is not written: an exponent that is neither zero nor full stands for it
    have hlog' := (Nat.le_log2 hm.ne').mpr hnormal
    rw [if_pos (by omega)]
    have hfull : BitVec.ofNat 11 w ≠ -1#11 := by
      intro h
      have hall : (-1#11).toNat = 2047 := rfl
      have := congrArg BitVec.toNat h
      omega
    have hzero : BitVec.ofNat 11 w ≠ 0#11 := by
      intro h
      have hnone : (0#11).toNat = 0 := rfl
      have := congrArg BitVec.toNat h
      omega
    have hmantissa : (1#1 ++ BitVec.ofNat 52 m).toNat = m := by
      rw [toNat_one_append, BitVec.toNat_ofNat]
      omega
    rw [unpack_eq, unpackMantissa_packComponents, unpackExponent_packComponents,
      ofBitVec_unpackSign]
    refine (if_neg hfull).trans ((if_neg hzero).trans ?_)
    refine finite_congr s hmantissa ?_
    rw [hword]
    omega
  · -- With fewer digits the exponent is written as zero
    have hlog' : m.log2 < 52 := (Nat.log2_lt hm.ne').mpr (not_le.mp hnormal)
    obtain rfl : e = -1074 := hshape.resolve_left hnormal
    rw [if_neg (by omega)]
    have hmantissa : (BitVec.ofNat 52 m).toNat = m := by
      rw [BitVec.toNat_ofNat, Nat.mod_eq_of_lt (not_le.mp hnormal)]
    have hsome : BitVec.ofNat 52 m ≠ 0#52 := by
      intro h
      have := congrArg BitVec.toNat h
      rw [hmantissa] at this
      exact hm.ne' this
    rw [unpack_eq, unpackMantissa_packComponents, unpackExponent_packComponents,
      ofBitVec_unpackSign]
    refine (if_neg (by decide)).trans ((if_pos rfl).trans ((dif_neg hsome).trans ?_))
    exact finite_congr s hmantissa rfl

/-- A packed word read back: what was packed, or an infinity if it was too large. -/
theorem unpack_pack {u : UnpackedFloat} (hcanonical : Canonical u) :
    unpack Format.binary64 (pack Format.binary64 u) = u ∨
      ∃ s m e hm, u = .finite s m e hm ∧ 972 ≤ e ∧
        unpack Format.binary64 (pack Format.binary64 u) = .infinity s := by
  cases u with
  | notANumber => exact .inl rfl
  | infinity s => exact .inl (by cases s <;> rfl)
  | zero s => exact .inl (by cases s <;> rfl)
  | finite s m e hm =>
    by_cases hfits : e ≤ 971
    · exact .inl (unpack_pack_finite s hm hcanonical hfits)
    · refine .inr ⟨s, m, e, hm, rfl, by omega, ?_⟩
      -- Packing checks the exponent before anything else
      have hbias : (Format.binary64.exponentBias : ℤ) = 1023 := by decide
      have hfraction : (Format.binary64.mantissaBitsWithoutImplicit : ℤ) = 52 := rfl
      rw [pack_finite, if_pos (by show 2048 ≤ _; rw [hbias, hfraction]; omega)]
      cases s <;> rfl

/-! ## §3 Rounding a mantissa -/

/-- A mantissa with its round and its sticky bit stands for a rational: it is the integer part, and
the bits tell how the rest compares with nothing and with one half. -/
def StandsFor (em : ExtendedMantissa) (q : ℚ) : Prop :=
  match em.roundBit, em.stickyBit with
  | false, false => q = em.mantissa
  | false, true => em.mantissa < q ∧ q < em.mantissa + 1 / 2
  | true, false => q = em.mantissa + 1 / 2
  | true, true => em.mantissa + 1 / 2 < q ∧ q < em.mantissa + 1

namespace StandsFor

variable {em : ExtendedMantissa} {q : ℚ}

theorem exact (m : ℕ) : StandsFor (.ofMantissaAndAccuracy m .exact) m := rfl

/-- Dropping a digit halves what the mantissa stands for. -/
theorem shiftRightOne (h : StandsFor em q) : StandsFor em.shiftRightOne (q / 2) := by
  obtain ⟨m, round, sticky⟩ := em
  have hsplit : (m : ℚ) = 2 * (m / 2 : ℕ) + (m % 2 : ℕ) := by
    exact_mod_cast (Nat.div_add_mod m 2).symm
  rcases Nat.mod_two_eq_zero_or_one m with heven | hodd
  · rw [heven] at hsplit
    cases round <;> cases sticky <;>
      simp only [StandsFor, ExtendedMantissa.shiftRightOne, heven, hsplit] at h ⊢ <;>
      norm_num at h ⊢ <;> first | linarith | constructor <;> linarith
  · rw [hodd] at hsplit
    have hbit : ((1 : ℕ) != 0) = true := rfl
    cases round <;> cases sticky <;>
      simp only [StandsFor, ExtendedMantissa.shiftRightOne, hodd, hsplit, hbit] at h ⊢ <;>
      norm_num at h ⊢ <;> first | linarith | constructor <;> linarith

theorem shiftRight (h : StandsFor em q) (k : ℕ) : StandsFor (em >>> k) (q / 2 ^ k) := by
  show StandsFor (k.repeat ExtendedMantissa.shiftRightOne em) _
  induction k with
  | zero =>
    rw [pow_zero, div_one]
    exact h
  | succ k ih =>
    have hnext := ih.shiftRightOne
    rwa [div_div, ← pow_succ] at hnext

/-- The bits decide which integer is nearest. -/
theorem roundedMantissa (h : StandsFor em q) : (em.roundedMantissa : ℤ) = roundHalfEven q := by
  obtain ⟨m, round, sticky⟩ := em
  -- Rounding asks only for the integer part and how the rest compares with one half
  have hfloor : ⌊q⌋ = m := by
    rw [Int.floor_eq_iff]
    cases round <;> cases sticky <;> simp only [StandsFor] at h <;> push_cast <;>
      constructor <;> linarith
  have hq : q.floor = ⌊q⌋ := rfl
  unfold roundHalfEven
  dsimp only
  rw [hq, hfloor]
  cases round <;> cases sticky <;>
    simp only [StandsFor, ExtendedMantissa.roundedMantissa, ExtendedMantissa.accuracy,
      Accuracy.roundToNearestEven] at h ⊢ <;>
    push_cast <;> split_ifs <;> first | omega | (exfalso; linarith)

theorem bounds (h : StandsFor em q) : (em.mantissa : ℚ) ≤ q ∧ q < em.mantissa + 1 := by
  obtain ⟨m, round, sticky⟩ := em
  cases round <;> cases sticky <;> simp only [StandsFor] at h ⊢ <;> constructor <;> linarith

end StandsFor

theorem mantissa_ofMantissaAndAccuracy (m : ℕ) (a : Accuracy) :
    (ExtendedMantissa.ofMantissaAndAccuracy m a).mantissa = m := by
  cases a with
  | exact => rfl
  | inexact o => cases o <;> rfl

theorem targetExponent_total (t : ℤ) : Format.binary64.targetExponent t = max (t - 53) (-1074) := by
  have hleast : Format.binary64.minExponent = -1074 := by decide
  have hbits : Format.binary64.mantissaBits = 53 := by decide
  rw [Format.targetExponent, hleast, hbits]
  rfl

theorem targetExponent_eq (m : ℕ) (e : ℤ) :
    Format.binary64.targetExponent (totalExponent m e) = max (m.log2 + e - 52) (-1074) := by
  rw [targetExponent_total, totalExponent]
  congr 1
  omega

/-- The target exponent of a mantissa is the spacing around what it stands for. A mantissa of zero
must lie below the least exponent. -/
theorem spacing_eq_targetExponent {m : ℕ} {e : ℤ} {a : Accuracy} {q : ℚ} (hq0 : 0 < q)
    (hm : 0 < m ∨ e ≤ -1022) (hq : StandsFor (.ofMantissaAndAccuracy m a) q) :
    spacing (q * 2 ^ e) = Format.binary64.targetExponent (totalExponent m e) := by
  obtain ⟨hlow, hhigh⟩ := hq.bounds
  rw [mantissa_ofMantissaAndAccuracy] at hlow hhigh
  have hpos : 0 < q * 2 ^ e := mul_pos hq0 (zpow_two_pos e)
  rcases m.eq_zero_or_pos with rfl | hm
  · -- Less than the least power of two of the mantissas at hand, so the spacing is the least
    have hleast : e ≤ -1022 := hm.resolve_left (lt_irrefl 0)
    have hsmall : q * 2 ^ e < ((2 : ℕ) : ℚ) ^ e := by
      have hone : q < 1 := by simpa using hhigh
      simpa using mul_lt_mul_of_pos_right hone (zpow_two_pos e)
    have hlog : Int.log 2 (q * 2 ^ e) < e := (Int.lt_zpow_iff_log_lt (by norm_num) hpos).mp hsmall
    rw [spacing, abs_of_pos hpos, targetExponent_eq, Nat.log2_zero]
    omega
  have hfloor : ((2 ^ m.log2 : ℕ) : ℚ) ≤ m := by exact_mod_cast Nat.log2_self_le hm.ne'
  have hceil : (m : ℚ) + 1 ≤ ((2 ^ (m.log2 + 1) : ℕ) : ℚ) := by
    exact_mod_cast (Nat.lt_log2_self (n := m))
  push_cast at hfloor hceil
  -- A mantissa and the next one have the same powers of two around them
  have hlog : Int.log 2 (q * 2 ^ e) = m.log2 + e := by
    refine le_antisymm (Int.lt_add_one_iff.mp ?_) ?_
    · refine (Int.lt_zpow_iff_log_lt (by norm_num) hpos).mp ?_
      have hsplit : ((2 : ℕ) : ℚ) ^ ((m.log2 : ℤ) + e + 1) = 2 ^ (m.log2 + 1) * 2 ^ e := by
        push_cast
        rw [← zpow_natCast, ← zpow_add₀ (by norm_num)]
        congr 1
        push_cast
        ring
      rw [hsplit]
      exact mul_lt_mul_of_pos_right (by linarith) (zpow_two_pos e)
    · refine (Int.zpow_le_iff_le_log (by norm_num) hpos).mp ?_
      have hsplit : ((2 : ℕ) : ℚ) ^ ((m.log2 : ℤ) + e) = 2 ^ m.log2 * 2 ^ e := by
        push_cast
        rw [← zpow_natCast, ← zpow_add₀ (by norm_num)]
      rw [hsplit]
      exact mul_le_mul_of_nonneg_right (by linarith) (zpow_two_pos e).le
  rw [spacing, abs_of_pos hpos, hlog, targetExponent_eq]

/-- A rounded mantissa may have one digit too many, which is then a zero and is dropped. -/
theorem carry {r : ℕ} {e : ℤ} (hr : r ≤ 2 ^ 53) (he : -1074 ≤ e) (hshape : 2 ^ 52 ≤ r ∨ e = -1074) :
    let final := shiftToTargetExponent Format.binary64 r e .exact
    final.1.mantissa < 2 ^ 53 ∧ -1074 ≤ final.2 ∧
      (2 ^ 52 ≤ final.1.mantissa ∨ final.2 = -1074) ∧
      (final.1.mantissa : ℚ) * 2 ^ final.2 = r * 2 ^ e := by
  intro final
  rcases hr.lt_or_eq with hlt | rfl
  · -- No carry: there is no digit to drop
    have hlog : r.log2 ≤ 52 := by
      by_cases hzero : r = 0
      · rw [hzero]
        decide
      · exact Nat.lt_succ_iff.mp ((Nat.log2_lt hzero).mpr hlt)
    have hshift : (Format.binary64.targetExponent (totalExponent r e) - e).toNat = 0 := by
      rw [targetExponent_eq]
      omega
    have hfinal : final = (⟨r, false, false⟩, e) := by
      show shiftToTargetExponent Format.binary64 r e .exact = _
      simp only [shiftToTargetExponent, shiftToExponent, hshift, Nat.cast_zero, add_zero]
      rfl
    rw [hfinal]
    exact ⟨hlt, he, hshape, rfl⟩
  · -- A carry: the mantissa is a power of two, and one digit is dropped
    have hshift : (Format.binary64.targetExponent (totalExponent (2 ^ 53) e) - e).toNat = 1 := by
      rw [targetExponent_eq, Nat.log2_two_pow]
      omega
    have hfinal : final = (⟨2 ^ 52, false, false⟩, e + 1) := by
      show shiftToTargetExponent Format.binary64 (2 ^ 53) e .exact = _
      simp only [shiftToTargetExponent, shiftToExponent, hshift, Nat.cast_one]
      rfl
    rw [hfinal]
    refine ⟨by norm_num, by show -1074 ≤ e + 1; omega, .inl le_rfl, ?_⟩
    show ((2 ^ 52 : ℕ) : ℚ) * 2 ^ (e + 1) = ((2 ^ 53 : ℕ) : ℚ) * 2 ^ e
    rw [zpow_add₀ (by norm_num)]
    push_cast
    ring

/-- The number of a sign, a mantissa and an exponent. -/
def ofMantissa (s : Sign) (m : ℕ) (e : ℤ) : UnpackedFloat :=
  if hzero : m = 0 then .zero s else .finite s m e (Nat.pos_of_ne_zero hzero)

theorem ofMantissa_finite (s : Sign) (m : ℕ) (e : ℤ) : (ofMantissa s m e).isFinite = true := by
  by_cases hzero : m = 0
  · rw [ofMantissa, dif_pos hzero]
    rfl
  · rw [ofMantissa, dif_neg hzero]
    rfl

theorem ofMantissa_canonical (s : Sign) {m : ℕ} {e : ℤ} (hm : m < 2 ^ 53) (hleast : -1074 ≤ e)
    (hshape : 2 ^ 52 ≤ m ∨ e = -1074) : Canonical (ofMantissa s m e) := by
  by_cases hzero : m = 0
  · rw [ofMantissa, dif_pos hzero]
    trivial
  · rw [ofMantissa, dif_neg hzero]
    exact ⟨hm, hleast, hshape⟩

theorem value_ofMantissa (s : Sign) (m : ℕ) (e : ℤ) :
    value (ofMantissa s m e) = (s.apply 1 : ℤ) * (m * 2 ^ e) := by
  by_cases hzero : m = 0
  · rw [ofMantissa, dif_pos hzero, hzero, Nat.cast_zero, zero_mul, mul_zero]
    rfl
  · rw [ofMantissa, dif_neg hzero, value_finite]

/-- Rounding shifts a mantissa to its target exponent, rounds it, and shifts it once more, since it
may have carried. -/
theorem roundWithAccuracy_eq (s : Sign) (m : ℕ) (e : ℤ) (a : Accuracy) :
    let first := shiftToTargetExponent Format.binary64 m e a
    let second := shiftToTargetExponent Format.binary64 first.1.roundedMantissa first.2 .exact
    roundWithAccuracy Format.binary64 s m e a = ofMantissa s second.1.mantissa second.2 := rfl

/-- **Rounding a mantissa gives the nearest machine number**, before one that is too large is packed
as an infinity. The exponent must not exceed the one that is aimed at, since digits are only
dropped. -/
theorem roundWithAccuracy_value (s : Sign) {m : ℕ} {e : ℤ} {a : Accuracy} {q : ℚ} (hq0 : 0 < q)
    (hm : 0 < m ∨ e ≤ -1022) (hq : StandsFor (.ofMantissaAndAccuracy m a) q)
    (htarget : e ≤ Format.binary64.targetExponent (totalExponent m e)) :
    Canonical (roundWithAccuracy Format.binary64 s m e a) ∧
      value (roundWithAccuracy Format.binary64 s m e a) =
        (s.apply 1 : ℤ) * nearest (q * 2 ^ e) := by
  have hspacing := spacing_eq_targetExponent (e := e) hq0 hm hq
  set t := Format.binary64.targetExponent (totalExponent m e) with ht
  obtain ⟨k, hk⟩ := Int.le.dest htarget
  -- Dropping digits: what is left of the mantissa stands for the rational on its grid
  set first := shiftToTargetExponent Format.binary64 m e a with hfirst
  have hexponent : first.2 = t := by
    show e + ((t - e).toNat : ℤ) = t
    omega
  have hstands : StandsFor first.1 (q / 2 ^ k) := by
    have hshift : (t - e).toNat = k := by omega
    show StandsFor (ExtendedMantissa.ofMantissaAndAccuracy m a >>> (t - e).toNat) _
    rw [hshift]
    exact hq.shiftRight k
  have hscaled : q * 2 ^ e / 2 ^ t = q / 2 ^ k := by
    rw [← hk, zpow_add₀ (by norm_num), zpow_natCast]
    have := (zpow_two_pos e).ne'
    field_simp
  -- Rounding what is dropped gives the nearest point of that grid
  set r := first.1.roundedMantissa with hr
  have hround : (r : ℤ) = roundHalfEven (q * 2 ^ e / 2 ^ t) := by
    rw [hscaled]
    exact hstands.roundedMantissa
  have hvalue : (r : ℚ) * 2 ^ t = nearest (q * 2 ^ e) := by
    rw [nearest, hspacing, ← hround]
    rfl
  have hpos : 0 < q * 2 ^ e := mul_pos hq0 (zpow_two_pos e)
  have hmost : r ≤ 2 ^ 53 := by
    have hle := mantissa_le hpos
    rw [hspacing, ← hround] at hle
    exact_mod_cast hle
  have hshape : 2 ^ 52 ≤ r ∨ first.2 = -1074 := by
    rw [hexponent]
    rcases le_mantissa hpos with hleast | hle
    · exact .inr (hspacing.symm.trans hleast)
    · rw [hspacing, ← hround] at hle
      exact .inl (by exact_mod_cast hle)
  have hleast : -1074 ≤ first.2 := by
    rw [hexponent, ht, targetExponent_eq]
    exact le_max_right _ _
  -- A carry is shifted away, which changes the form and not the value
  obtain ⟨hfits, hleast', hshape', hsame⟩ := carry hmost hleast hshape
  have hfinal : (r : ℚ) * 2 ^ first.2 = nearest (q * 2 ^ e) := by rw [hexponent, hvalue]
  have hnearest := hsame.trans hfinal
  rw [roundWithAccuracy_eq, value_ofMantissa, ← hnearest]
  exact ⟨ofMantissa_canonical s hfits hleast' hshape', rfl⟩

end Lamella.Machine
