import Lamella.Proofs.Scalar.Accuracy

/-!
# Words and their values

A machine number is decoded from the fields of its word, and it is unpacked by the rules of its
arithmetic. Both come to the same number, so the exact value of a word can be told from either.

## Main statements

- `Machine.reading_ofWord`: a word is decoded as it is unpacked.
- `Machine.reading_eq_finite`: a machine number reads as its value, if that is finite.
-/

namespace Lamella.Machine

open Float.Model (Format UnpackedFloat)
open Float.Model.UnpackedFloat

/-! ## §1 Values of words -/

theorem magnitude_eq (m : ℕ) (e : ℤ) : Binary.magnitude m e = m * 2 ^ e := by
  unfold Binary.magnitude
  split_ifs with he
  · obtain ⟨k, rfl⟩ := Int.eq_ofNat_of_zero_le he
    push_cast
    simp
  · obtain ⟨k, hk⟩ := Int.eq_ofNat_of_zero_le (show 0 ≤ -e by omega)
    obtain rfl : e = -k := by omega
    rw [Rat.mkRat_eq_div]
    simp [div_eq_mul_inv]

/-- What an unpacked number reads as. -/
def readingOf : UnpackedFloat → Reading
  | .infinity s => .infinite (s matches .negative)
  | .notANumber => .undefined
  | u => .finite (value u)

/-- The sign, the mantissa and the exponent of an unpacked number, as they are decoded. -/
def binaryOf : UnpackedFloat → Binary
  | .finite s m e _ => .finite (s matches .negative) m e
  | .zero s => .finite (s matches .negative) 0 (-1074)
  | .infinity s => .infinite (s matches .negative)
  | .notANumber => .undefined

/-- What is decoded stands for the value. -/
theorem reading_binaryOf (u : UnpackedFloat) : (binaryOf u).reading = readingOf u := by
  cases u with
  | notANumber => rfl
  | infinity s => rfl
  | zero s =>
    have hmagnitude : Binary.magnitude 0 (-1074) = 0 := by rw [magnitude_eq, Nat.cast_zero, zero_mul]
    cases s
    · exact congrArg Reading.finite (by rw [hmagnitude, neg_zero]; rfl)
    · exact congrArg Reading.finite hmagnitude
  | finite s m e hm =>
    have hread : readingOf (.finite s m e hm) = .finite (value (.finite s m e hm)) := rfl
    rw [hread]
    cases s
    · rw [value_below, ← magnitude_eq]
      rfl
    · rw [value_above, ← magnitude_eq]
      rfl

theorem binaryOf_ofMantissa (s : Sign) {m : ℕ} {e : ℤ} (h : m ≠ 0 ∨ e = -1074) :
    binaryOf (ofMantissa s m e) = .finite (s matches .negative) m e := by
  by_cases hzero : m = 0
  · obtain rfl := h.resolve_left (not_not_intro hzero)
    rw [ofMantissa, dif_pos hzero, hzero]
    rfl
  · rw [ofMantissa, dif_neg hzero]
    rfl

section

variable (b : BitVec Format.binary64.numBits)

theorem unpackSign_toNat : (unpackSign b).toNat = b.toNat / Nat.pow 2 63 % 2 := by
  show (BitVec.extractLsb 63 63 b).toNat = _
  rw [BitVec.extractLsb_toNat, Nat.shiftRight_eq_div_pow]

theorem unpackExponent_toNat :
    (unpackExponent b).toNat = b.toNat / Nat.pow 2 52 % Nat.pow 2 11 := by
  show (BitVec.extractLsb 62 52 b).toNat = _
  rw [BitVec.extractLsb_toNat, Nat.shiftRight_eq_div_pow]

theorem unpackMantissa_toNat : (unpackMantissa b).toNat = b.toNat % Nat.pow 2 52 := by
  show (BitVec.extractLsb 51 0 b).toNat = _
  rw [BitVec.extractLsb_toNat, Nat.shiftRight_zero]

/-- The number of the fields of a word, in terms of the numbers they are. -/
theorem ofFields_eq (s : Sign) (w : BitVec 11) (v : BitVec 52) : ofFields s w v =
    if w.toNat = 2047 then if v.toNat = 0 then .infinity s else .notANumber
    else if w.toNat = 0 then ofMantissa s v.toNat (-1074)
    else ofMantissa s (2 ^ 52 + v.toNat) (w.toNat - 1075) := by
  have hfull : w = -1#11 ↔ w.toNat = 2047 := BitVec.toNat_inj.symm
  have hzero : w = 0#11 ↔ w.toNat = 0 := BitVec.toNat_inj.symm
  have hnone : v = 0#52 ↔ v.toNat = 0 := BitVec.toNat_inj.symm
  unfold ofFields
  by_cases h1 : w.toNat = 2047
  · rw [if_pos (hfull.mpr h1), if_pos h1]
    exact if_congr hnone rfl rfl
  · rw [if_neg (mt hfull.mp h1), if_neg h1]
    by_cases h2 : w.toNat = 0
    · rw [if_pos (hzero.mpr h2), if_pos h2, ofMantissa]
      by_cases h3 : v.toNat = 0
      · rw [dif_pos (hnone.mpr h3), dif_pos h3]
      · rw [dif_neg (mt hnone.mp h3), dif_neg h3]
        exact finite_congr s rfl (by omega)
    · rw [if_neg (mt hzero.mp h2), if_neg h2, ofMantissa, dif_neg (by omega)]
      exact finite_congr s (toNat_one_append v) rfl

/-- **A word is decoded as it is unpacked.** -/
theorem ofWord_eq : Binary.ofWord 11 52 b.toNat = binaryOf (unpack Format.binary64 b) := by
  have hnegative : (b.toNat / Nat.pow 2 63 % 2 == 1) =
      (Sign.ofBitVec (unpackSign b) matches .negative) := by
    rw [← unpackSign_toNat]
    generalize unpackSign b = sign
    revert sign
    decide
  have hfull : Nat.pow 2 11 - 1 = 2047 := rfl
  have hbias : (Nat.pow 2 (11 - 1) - 1 : ℤ) = 1023 := rfl
  rw [unpack_eq, ofFields_eq, Binary.ofWord, hnegative, hfull, ← unpackExponent_toNat,
    ← unpackMantissa_toNat]
  split_ifs
  · rfl
  · rfl
  · exact (binaryOf_ofMantissa _ (.inr rfl)).symm
  · -- The exponent of the word is counted from the last digit of the mantissa
    rw [binaryOf_ofMantissa _ (.inl (by omega)), hbias]
    congr 1
    omega

/-- A word reads as its value. -/
theorem reading_ofWord :
    (Binary.ofWord 11 52 b.toNat).reading = readingOf (unpack Format.binary64 b) := by
  rw [ofWord_eq, reading_binaryOf]

end

theorem not_lt_of_infinity (s : Sign) : ¬ |value (.infinity s)| < limit := by
  have hpos := limit_pos
  have habs : |value (.infinity s)| = 2 * limit := by
    cases s
    · rw [value_negative, abs_neg, beyond_eq, abs_of_pos (by linarith)]
    · rw [value_positive, beyond_eq, abs_of_pos (by linarith)]
  linarith

theorem readingOf_eq_finite {u : UnpackedFloat} {q : ℚ} (hread : readingOf u = .finite (value u))
    (hnumber : u ≠ .notANumber) (hlt : |value u| < limit) :
    readingOf u = .finite q ↔ u ≠ .notANumber ∧ |value u| < limit ∧ value u = q := by
  rw [hread, Reading.finite.injEq]
  exact ⟨fun hvalue => ⟨hnumber, hlt, hvalue⟩, fun h => h.2.2⟩

/-- **A machine number reads as its value**, if that is finite. -/
theorem reading_eq_finite {x : Float} {q : ℚ} :
    Scalar.reading x = .finite q ↔ IsNumber x ∧ |val x| < limit ∧ val x = q := by
  have hword : Scalar.reading x = readingOf (view x) := reading_ofWord _
  obtain ⟨hcanonical, hfits⟩ := view_canonical x
  have hlt := abs_value_lt hcanonical hfits
  rw [hword, IsNumber, val]
  cases hview : view x with
  | notANumber => simp [readingOf]
  | infinity s => simp [readingOf, not_lt_of_infinity s]
  | zero s =>
    rw [hview] at hlt
    exact readingOf_eq_finite rfl (fun h => by cases h) (hlt rfl)
  | finite s m e hm =>
    rw [hview] at hlt
    exact readingOf_eq_finite rfl (fun h => by cases h) (hlt rfl)

/-- A number within the limit is finite. -/
theorem isFinite_of_lt {a : Float} (ha : IsNumber a) (hlimit : |val a| < limit) :
    (view a).isFinite = true := by
  have hpos := limit_pos
  have hbeyond := beyond_eq
  obtain ⟨hlow, hhigh⟩ := abs_lt.mp hlimit
  rcases val_cases ha with ⟨-, hval⟩ | ⟨-, hval⟩ | ⟨hfinite, -⟩
  · linarith
  · linarith
  · exact hfinite

end Lamella.Machine
