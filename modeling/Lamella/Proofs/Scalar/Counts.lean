import Lamella.Proofs.Scalar.Signs

/-!
# Counts as narrow numbers

A sample is a machine number of 24 binary digits. Counts of samples become such numbers as well, and
stay above zero and finite on the way, so that a mean can be divided by them.

## Main definitions

- `Machine.Narrow`: narrow numbers from one up to a power of two.
- `Scalar.Signed`: the class of scalar types whose squares, sums and means are not below zero.
- `Analytic.Rooted`, `Sample.KeepsSign`: roots, and the ways between samples and measured numbers,
  that do not lead below zero either.

## Main statements

- `Machine.narrow_round`: rounding a mantissa gives a narrow number.
- `Machine.narrow_ofNat`: a count is a narrow number.
- Exact numbers and machine numbers of either width are signed.
-/

namespace Lamella

namespace Machine

open Float.Model (Format UnpackedFloat totalExponent)
open Float.Model.UnpackedFloat

/-- Narrow numbers of 24 binary digits, from one up to a power of two. -/
def Narrow (bound : ℤ) (u : UnpackedFloat) : Prop :=
  ∃ m e, ∃ hm : 0 < m, u = .finite .positive m e hm ∧ m.log2 = 23 ∧ 0 ≤ e + 23 ∧ e + 23 ≤ bound

/-! ## §1 Rounding to 24 digits -/

theorem targetExponent_narrow (m : ℕ) (e : ℤ) :
    Format.binary32.targetExponent (totalExponent m e) = max (m.log2 + e - 23) (-149) := by
  have hleast : Format.binary32.minExponent = -149 := by decide
  have hbits : Format.binary32.mantissaBits = 24 := by decide
  rw [Format.targetExponent, hleast, hbits, totalExponent]
  congr 1
  push_cast
  ring

/-- Dropping digits up to the last 24 and rounding leaves 24 digits, or the next power of two. -/
theorem rounded_bounds {m : ℕ} (hdigits : 23 ≤ m.log2) :
    let r := (ExtendedMantissa.ofMantissaAndAccuracy m .exact >>> (m.log2 - 23)).roundedMantissa
    2 ^ 23 ≤ r ∧ r ≤ 2 ^ 24 := by
  intro r
  have hm : m ≠ 0 := by
    rintro rfl
    rw [Nat.log2_zero] at hdigits
    omega
  have hround : (r : ℤ) = roundHalfEven ((m : ℚ) / 2 ^ (m.log2 - 23)) :=
    ((StandsFor.exact m).shiftRight (m.log2 - 23)).roundedMantissa
  have hpower : (0 : ℚ) < 2 ^ (m.log2 - 23) := by positivity
  have hlow : ((2 ^ 23 : ℤ) : ℚ) ≤ (m : ℚ) / 2 ^ (m.log2 - 23) := by
    rw [le_div_iff₀ hpower]
    have hleast := Nat.log2_self_le hm
    have hsplit : 2 ^ m.log2 = 2 ^ 23 * 2 ^ (m.log2 - 23) := by rw [← pow_add]; congr 1; omega
    rw [hsplit] at hleast
    exact_mod_cast hleast
  have hhigh : (m : ℚ) / 2 ^ (m.log2 - 23) ≤ ((2 ^ 24 : ℤ) : ℚ) := by
    rw [div_le_iff₀ hpower]
    have hmost := (Nat.lt_log2_self (n := m)).le
    have hsplit : 2 ^ (m.log2 + 1) = 2 ^ 24 * 2 ^ (m.log2 - 23) := by rw [← pow_add]; congr 1; omega
    rw [hsplit] at hmost
    exact_mod_cast hmost
  have hlow' := roundHalfEven_mono hlow
  have hhigh' := roundHalfEven_mono hhigh
  rw [roundHalfEven_intCast, ← hround] at hlow' hhigh'
  exact ⟨by exact_mod_cast hlow', by exact_mod_cast hhigh'⟩

/-- A rounded mantissa may have one digit too many, which is then a zero and is dropped. -/
theorem narrow_carry {r : ℕ} {e : ℤ} (hleast : 2 ^ 23 ≤ r) (hmost : r ≤ 2 ^ 24)
    (hlow : 0 ≤ e + 23) :
    let final := shiftToTargetExponent Format.binary32 r e .exact
    final.1.mantissa.log2 = 23 ∧ e ≤ final.2 ∧ final.2 ≤ e + 1 := by
  intro final
  rcases hmost.lt_or_eq with hlt | rfl
  · have hlog : r.log2 = 23 := (Nat.log2_eq_iff (by omega)).mpr ⟨hleast, hlt⟩
    have hshift : (Format.binary32.targetExponent (totalExponent r e) - e).toNat = 0 := by
      rw [targetExponent_narrow, hlog]
      omega
    have hfinal : final = (⟨r, false, false⟩, e) := by
      show shiftToTargetExponent Format.binary32 r e .exact = _
      simp only [shiftToTargetExponent, shiftToExponent, hshift, Nat.cast_zero, add_zero]
      rfl
    rw [hfinal]
    exact ⟨hlog, le_rfl, by omega⟩
  · have hshift : (Format.binary32.targetExponent (totalExponent (2 ^ 24) e) - e).toNat = 1 := by
      rw [targetExponent_narrow, Nat.log2_two_pow]
      omega
    have hfinal : final = (⟨2 ^ 23, false, false⟩, e + 1) := by
      show shiftToTargetExponent Format.binary32 (2 ^ 24) e .exact = _
      simp only [shiftToTargetExponent, shiftToExponent, hshift, Nat.cast_one]
      rfl
    rw [hfinal]
    exact ⟨Nat.log2_two_pow, by omega, le_rfl⟩

/-- **Rounding a mantissa of enough digits gives a narrow number.** -/
theorem narrow_round {m : ℕ} {e bound : ℤ} (hdigits : 23 ≤ m.log2) (hlow : 0 ≤ m.log2 + e)
    (hhigh : m.log2 + e < bound) :
    Narrow bound (roundWithAccuracy Format.binary32 .positive m e .exact) := by
  obtain ⟨hleast, hmost⟩ := rounded_bounds hdigits
  have hshift : (Format.binary32.targetExponent (totalExponent m e) - e).toNat = m.log2 - 23 := by
    rw [targetExponent_narrow]
    omega
  have hfirst : shiftToTargetExponent Format.binary32 m e .exact =
      (ExtendedMantissa.ofMantissaAndAccuracy m .exact >>> (m.log2 - 23),
        e + (m.log2 - 23 : ℕ)) := by
    simp only [shiftToTargetExponent, shiftToExponent, hshift]
  obtain ⟨hlog, hexponent, hexponent'⟩ :=
    narrow_carry (e := e + (m.log2 - 23 : ℕ)) hleast hmost (by omega)
  unfold roundWithAccuracy
  rw [hfirst]
  dsimp only
  split
  · -- The mantissa that is left has digits
    rename_i hzero
    rw [hzero, Nat.log2_zero] at hlog
    omega
  · exact ⟨_, _, _, rfl, hlog, by omega, by omega⟩

/-! ## §2 Packing -/

theorem narrow_append {v : BitVec 23} : (1#1 ++ v).toNat.log2 = 23 := by
  have hvalue : (1#1 ++ v).toNat = 2 ^ 23 + v.toNat := by
    rw [BitVec.toNat_append, ← Nat.shiftLeft_add_eq_or_of_lt v.isLt]
    rfl
  have hv : v.toNat < 2 ^ 23 := v.isLt
  rw [hvalue, Nat.log2_eq_iff (by omega)]
  omega

/-- **A narrow number is read back as one.** -/
theorem narrow_unpack_pack {u : UnpackedFloat} {bound : ℤ} (hbound : bound ≤ 127)
    (h : Narrow bound u) : Narrow bound (unpack Format.binary32 (pack Format.binary32 u)) := by
  obtain ⟨m, e, hm, rfl, hlog, hlow, hhigh⟩ := h
  have hbias : (Format.binary32.exponentBias : ℤ) = 127 := by decide
  have hfraction : (Format.binary32.mantissaBitsWithoutImplicit : ℤ) = 23 := rfl
  have hbits : Format.binary32.mantissaBits = 24 := by decide
  obtain ⟨w, hw, hexact, hpos, hmost⟩ : ∃ w : ℕ, (e + Format.binary32.exponentBias +
      Format.binary32.mantissaBitsWithoutImplicit).toNat = w ∧ (w : ℤ) = e + 150 ∧ 1 ≤ w ∧
        w ≤ 254 := by
    refine ⟨_, rfl, ?_, ?_, ?_⟩ <;> rw [hbias, hfraction] <;> omega
  have hpack : pack Format.binary32 (.finite .positive m e hm) =
      packComponents Format.binary32 .positive (BitVec.ofNat 8 w) (BitVec.ofNat 23 m) := by
    unfold pack
    dsimp only
    rw [hw, if_neg (by show ¬ 256 ≤ w + 1; omega), if_pos (by rw [hlog, hbits])]
  have hword : (BitVec.ofNat 8 w).toNat = w := by
    rw [BitVec.toNat_ofNat, Nat.mod_eq_of_lt (by omega)]
  have hfull : BitVec.ofNat 8 w ≠ -1#8 := ofNat_ne_full (by show ¬ 256 ≤ w + 1; omega)
  have hzero : BitVec.ofNat 8 w ≠ 0#8 := by
    intro heq
    have := congrArg BitVec.toNat heq
    rw [hword, BitVec.toNat_zero] at this
    omega
  rw [hpack]
  unfold unpack
  simp only [unpackExponent_packComponents, unpackMantissa_packComponents, ofBitVec_unpackSign]
  rw [if_neg hfull, if_neg hzero]
  refine ⟨_, _, _, rfl, narrow_append, ?_, ?_⟩ <;> rw [hword, hbias, hfraction] <;> omega

/-! ## §3 Counts -/

/-- A narrow machine number taken apart. -/
def narrowView (x : Float32) : UnpackedFloat := x.toModel.unpack

/-- A count that is rounded as it is. -/
theorem narrow_round_count {n : ℕ} (hn : 0 < n) (hlog : n.log2 < 63) :
    Narrow 63 (UnpackedFloat.round Format.binary32 .positive n 0) := by
  set t := Format.binary32.targetExponent (totalExponent n 0) with ht
  rw [targetExponent_narrow] at ht
  have hlog' := log2_shiftLeft hn (0 - t).toNat
  have hround : UnpackedFloat.round Format.binary32 .positive n 0 =
      roundWithAccuracy Format.binary32 .positive (n <<< (0 - t).toNat) (0 - (0 - t).toNat)
        .exact := rfl
  rw [hround]
  exact narrow_round (by omega) (by omega) (by omega)

theorem narrow_ofNat_unpacked {n : ℕ} (hn : 0 < n) (hlog : n.log2 < 63) :
    Narrow 63 (UnpackedFloat.ofNat Format.binary32 n) := by
  have hpos : compare (n : ℤ) 0 = .gt := compare_gt_iff_gt.mpr (by omega)
  have hround : UnpackedFloat.ofNat Format.binary32 n =
      UnpackedFloat.round Format.binary32 .positive n 0 := by
    show UnpackedFloat.normalize Format.binary32 n 0 .positive = _
    unfold UnpackedFloat.normalize
    rw [hpos]
    rfl
  rw [hround]
  exact narrow_round_count hn hlog

/-- Scaling by one rounds again. -/
theorem narrow_mul_one {u : UnpackedFloat} {bound : ℤ} (h : Narrow bound u) (hone : 0 < 2 ^ 23) :
    Narrow (bound + 1) (mul Format.binary32 u (.finite .positive (2 ^ 23) (-23) hone)) := by
  obtain ⟨m, e, hm, rfl, hlog, hlow, hhigh⟩ := h
  have hlog' := log2_shiftLeft hm 23
  rw [Nat.shiftLeft_eq] at hlog'
  exact narrow_round (m := m * 2 ^ 23) (by omega) (by omega) (by omega)

/-- **A count of samples is a narrow number.** -/
theorem narrow_ofNat {n : ℕ} (hn : 0 < n) (hmost : n < 2 ^ 63) :
    Narrow 64 (narrowView (Scalar.ofNat n)) := by
  have hlog : n.log2 < 63 := (Nat.log2_lt hn.ne').mpr hmost
  have hofNat : (Scalar.ofNat n : Float32) = Float32.ofScientific n false 0 := rfl
  rw [hofNat]
  unfold Float32.ofScientific
  split
  · -- Few digits are a number as they are, and are scaled by one
    have hword : n.toUInt64.toNat = n := by
      rw [Nat.toUInt64_eq, UInt64.toNat_ofNat']
      omega
    have hview : narrowView n.toUInt64.toFloat32 = unpack Format.binary32 (pack Format.binary32
        (UnpackedFloat.ofNat Format.binary32 n)) := by
      show unpack Format.binary32 (pack Format.binary32
        (UnpackedFloat.ofNat Format.binary32 n.toUInt64.toNat)) = _
      rw [hword]
    have hone : Float32.exactlyRepresentablePowersOfTen[0].toModel.unpack =
        .finite .positive (2 ^ 23) (-23) (by norm_num) := rfl
    have hcount := narrow_unpack_pack (by norm_num) (narrow_ofNat_unpacked hn hlog)
    rw [← hview] at hcount
    have hscaled := narrow_unpack_pack (by norm_num) (narrow_mul_one hcount (by norm_num))
    rw [← hone] at hscaled
    exact hscaled
  · -- More digits are multiplied by one as they are
    have hlog' := log2_shiftLeft hn 24
    have hscientific : UnpackedFloat.ofScientific Format.binary32 n 0 =
        roundWithAccuracy Format.binary32 .positive (n <<< 24 * 10 ^ 0) (-24 + 0) .exact := by
      unfold UnpackedFloat.ofScientific
      rw [dif_neg hn.ne', if_neg (by decide), if_neg (by show ¬ (0 : ℤ) < -(256 + n.log2); omega),
        if_pos le_rfl]
      rfl
    show Narrow 64 (unpack Format.binary32 (pack Format.binary32
      (UnpackedFloat.ofScientific Format.binary32 n 0)))
    rw [hscientific, pow_zero, mul_one]
    exact narrow_unpack_pack (by norm_num) (narrow_round (by omega) (by omega) (by omega))

/-- A count is also a finite number above zero among the wide ones. -/
theorem view_ofNat {n : ℕ} (hn : 0 < n) (hmost : n < 2 ^ 63) :
    ∃ m e, ∃ hm : 0 < m, view (Scalar.ofNat n) = .finite .positive m e hm := by
  obtain ⟨hnumber, hval⟩ := val_ofInt n
  rw [Int.cast_natCast] at hval
  have hlow : nearest 1 ≤ nearest n := nearest_mono (by exact_mod_cast hn)
  have hhigh : nearest n ≤ nearest (2 ^ (63 : ℤ)) := nearest_mono (by exact_mod_cast hmost.le)
  have hone : nearest 1 = 1 := by
    simpa using nearest_of_mantissa (m := 1) (e := 0) (by norm_num) (by norm_num)
  have htop : nearest (2 ^ (63 : ℤ)) = 2 ^ (63 : ℤ) := by
    simpa using nearest_of_mantissa (m := 1) (e := 63) (by norm_num) (by norm_num)
  rw [hone] at hlow
  rw [htop] at hhigh
  have hlimit : |nearest (n : ℚ)| < limit := by
    rw [abs_of_nonneg (by linarith)]
    exact hhigh.trans_lt (zpow_lt_zpow_right₀ (by norm_num) (by norm_num))
  rw [clamp_of_abs_lt hlimit] at hval
  rcases view_of_pos hnumber (by linarith) with hview | hview
  · -- An infinity would have a value beyond the limit
    have hfinite := isFinite_of_lt hnumber (hval ▸ hlimit)
    rw [hview] at hfinite
    cases hfinite
  · exact hview

/-! ## §4 Numbers that are not below zero -/

theorem nonneg_iff {x : Float} : Scalar.ofInt 0 ≤ x ↔ Upright (view x) := by
  have hle : Scalar.ofInt 0 ≤ x ↔ UnpackedFloat.le (.zero .positive) (view x) = true :=
    decide_eq_true_iff
  exact hle.trans (zero_le_iff_upright .positive (view x))

theorem narrow_le_iff {x y : Float32} :
    x ≤ y ↔ UnpackedFloat.le (narrowView x) (narrowView y) = true := decide_eq_true_iff

theorem narrow_nonneg_iff {x : Float32} : Scalar.ofInt 0 ≤ x ↔ Upright (narrowView x) := by
  have hzero : narrowView (Scalar.ofInt 0) = .zero .positive := rfl
  rw [narrow_le_iff, hzero, zero_le_iff_upright]

theorem narrow_ne_of_le_self {x : Float32} (h : x ≤ x) : narrowView x ≠ .notANumber := by
  intro hnone
  rw [narrow_le_iff, hnone] at h
  cases h

end Machine

/-! ## §5 Signed scalars -/

/-- Scalars of which squares, sums and means of what is not below zero are not below zero either, and
are numbers. -/
class Scalar.Signed (R : Type) [Scalar R] : Prop where
  zero_nonneg : (Scalar.ofInt 0 : R) ≤ Scalar.ofInt 0
  square_nonneg {x : R} : x ≤ x → Scalar.ofInt 0 ≤ x * x
  add_nonneg {a b : R} : Scalar.ofInt 0 ≤ a → Scalar.ofInt 0 ≤ b → Scalar.ofInt 0 ≤ a + b
  div_count_nonneg {a : R} {n : ℕ} : Scalar.ofInt 0 ≤ a → 0 < n → n < 2 ^ 63 →
    Scalar.ofInt 0 ≤ a / Scalar.ofNat n

/-- Scalars of which a root is not below zero. -/
class Analytic.Rooted (R : Type) [Analytic R] : Prop where
  sqrt_nonneg {x : R} : Scalar.ofInt 0 ≤ x → Scalar.ofInt 0 ≤ Analytic.sqrt x

/-- Measured numbers and samples of which one is not below zero just because it was made from the
other. -/
class Sample.KeepsSign (F S : Type) [Scalar F] [Scalar S] [Sample F S] : Prop where
  narrow_nonneg {x : F} : Scalar.ofInt 0 ≤ x → (Scalar.ofInt 0 : S) ≤ Sample.narrow x
  widen_nonneg {y : S} : Scalar.ofInt 0 ≤ y → (Scalar.ofInt 0 : F) ≤ Sample.widen y

instance : Scalar.Signed Rat where
  zero_nonneg := le_refl (0 : ℚ)
  square_nonneg _ := mul_self_nonneg _
  add_nonneg ha hb := add_nonneg ha hb
  div_count_nonneg {_ n} ha _ _ := div_nonneg ha (Int.cast_nonneg (Int.natCast_nonneg n))

instance : Sample.KeepsSign Rat Rat where
  narrow_nonneg h := h
  widen_nonneg h := h

open Machine in
instance : Scalar.Signed Float where
  zero_nonneg := nonneg_iff.mpr trivial
  square_nonneg h := nonneg_iff.mpr
    (upright_unpack_pack _ (upright_mul_self _ (le_iff.mp h).1))
  add_nonneg ha hb := nonneg_iff.mpr
    (upright_unpack_pack _ (upright_add _ (nonneg_iff.mp ha) (nonneg_iff.mp hb)))
  div_count_nonneg {a n} ha hn hmost := by
    obtain ⟨m, e, hm, hview⟩ := view_ofNat hn hmost
    rw [nonneg_iff, view_div, hview]
    exact upright_unpack_pack _ (upright_div _ (nonneg_iff.mp ha) hm)

open Machine in
instance : Scalar.Signed Float32 where
  zero_nonneg := narrow_nonneg_iff.mpr trivial
  square_nonneg h := narrow_nonneg_iff.mpr
    (upright_unpack_pack _ (upright_mul_self _ (narrow_ne_of_le_self h)))
  add_nonneg ha hb := narrow_nonneg_iff.mpr
    (upright_unpack_pack _ (upright_add _ (narrow_nonneg_iff.mp ha) (narrow_nonneg_iff.mp hb)))
  div_count_nonneg {a n} ha hn hmost := by
    obtain ⟨m, e, hm, hview, -⟩ := narrow_ofNat hn hmost
    have hquotient := upright_unpack_pack .binary32
      (upright_div .binary32 (narrow_nonneg_iff.mp ha) (e := e) hm)
    rw [← hview] at hquotient
    exact narrow_nonneg_iff.mpr hquotient

open Machine in
instance : Analytic.Rooted Float where
  sqrt_nonneg h := nonneg_iff.mpr (upright_unpack_pack _ (upright_sqrt _ (nonneg_iff.mp h)))

end Lamella
