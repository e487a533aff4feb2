import Lamella.Proofs.Scalar.Readings
import Lamella.Recording
import Mathlib

/-!
# Signs that last

A number that is not below zero has one of few shapes: a zero, or digits or an infinity with the
positive sign. Squares, sums, quotients by a count and roots keep to these shapes, whatever the
width of the numbers, and so does packing, however it rounds.

## Main definitions

- `Machine.Upright`: unpacked numbers that are not below zero.

## Main statements

- `Machine.upright_mul_self`, `Machine.upright_sqrt`: squares and roots are not below zero.
- `Machine.upright_unpack_pack`: packing keeps a number from going below zero.
-/

namespace Lamella

namespace Machine

open Float.Model (Format UnpackedFloat)
open Float.Model.UnpackedFloat

/-! ## §1 Shapes -/

/-- An unpacked number that is not below zero. -/
def Upright : UnpackedFloat → Prop
  | .zero _ => True
  | .infinity s => s = .positive
  | .finite s _ _ _ => s = .positive
  | .notANumber => False

/-- Zero is at most just the numbers that are not below zero. -/
theorem zero_le_iff_upright (s : Sign) (u : UnpackedFloat) :
    UnpackedFloat.le (.zero s) u = true ↔ Upright u := by
  cases u with
  | notANumber => exact ⟨nofun, nofun⟩
  | zero t => exact ⟨fun _ => trivial, fun _ => rfl⟩
  | infinity t =>
    cases t with
    | positive => exact ⟨fun _ => rfl, fun _ => rfl⟩
    | negative => exact ⟨fun h => Bool.noConfusion h, fun h => Sign.noConfusion h⟩
  | finite t m e hm =>
    cases t with
    | positive => exact ⟨fun _ => rfl, fun _ => rfl⟩
    | negative => exact ⟨fun h => Bool.noConfusion h, fun h => Sign.noConfusion h⟩

variable (f : Format) {u v : UnpackedFloat}

theorem upright_roundWithAccuracy (m : ℕ) (e : ℤ) (a : Accuracy) :
    Upright (roundWithAccuracy f .positive m e a) := by
  unfold roundWithAccuracy
  dsimp only
  split
  · trivial
  · rfl

theorem upright_normalize {n : ℤ} (hn : 0 ≤ n) (e : ℤ) :
    Upright (UnpackedFloat.normalize f n e .positive) := by
  unfold UnpackedFloat.normalize
  cases hsign : compare n 0 with
  | lt => exact absurd (compare_lt_iff_lt.mp hsign) (not_lt.mpr hn)
  | eq => trivial
  | gt => exact upright_roundWithAccuracy f ..

/-! ## §2 Operations -/

theorem upright_add (hu : Upright u) (hv : Upright v) : Upright (add f u v) := by
  cases u with
  | notANumber => exact hu.elim
  | zero s =>
    cases v with
    | notANumber => exact hv.elim
    | zero t => cases s <;> cases t <;> trivial
    | infinity t => exact hv
    | finite t n e hn => exact hv
  | infinity s =>
    obtain rfl : s = .positive := hu
    cases v with
    | notANumber => exact hv.elim
    | zero t => rfl
    | infinity t =>
      obtain rfl : t = .positive := hv
      rfl
    | finite t n e hn => rfl
  | finite s m e hm =>
    obtain rfl : s = .positive := hu
    cases v with
    | notANumber => exact hv.elim
    | zero t => rfl
    | infinity t => exact hv
    | finite t n d hn =>
      obtain rfl : t = .positive := hv
      exact upright_normalize f (Int.add_nonneg (Int.natCast_nonneg _) (Int.natCast_nonneg _)) _

theorem upright_mul_self (hu : u ≠ .notANumber) : Upright (mul f u u) := by
  cases u with
  | notANumber => exact absurd rfl hu
  | zero s => trivial
  | infinity s => cases s <;> rfl
  | finite s m e hm => cases s <;> exact upright_roundWithAccuracy f ..

/-- A quotient by digits above zero. -/
theorem upright_div (hu : Upright u) {m : ℕ} {e : ℤ} (hm : 0 < m) :
    Upright (div f u (.finite .positive m e hm)) := by
  cases u with
  | notANumber => exact hu.elim
  | zero s => trivial
  | infinity s =>
    obtain rfl : s = .positive := hu
    rfl
  | finite s n d hn =>
    obtain rfl : s = .positive := hu
    exact upright_roundWithAccuracy f ..

theorem upright_sqrt (hu : Upright u) : Upright (sqrt f u) := by
  cases u with
  | notANumber => exact hu.elim
  | zero s => trivial
  | infinity s =>
    obtain rfl : s = .positive := hu
    rfl
  | finite s m e hm =>
    obtain rfl : s = .positive := hu
    exact upright_roundWithAccuracy f ..

/-! ## §3 Packing -/

theorem upright_packComponents {w : BitVec f.exponentBits}
    {v : BitVec f.mantissaBitsWithoutImplicit} (h : w = -1#f.exponentBits → v = 0) :
    Upright (unpack f (packComponents f .positive w v)) := by
  have hsign : Sign.ofBitVec (unpackSign (packComponents f .positive w v)) = .positive :=
    ofBitVec_unpackSign ..
  unfold unpack
  simp only [unpackExponent_packComponents, unpackMantissa_packComponents, hsign]
  split_ifs with hfull hnone hzero hnone
  · rfl
  · exact absurd (h hfull) hnone
  · trivial
  · rfl
  · rfl

/-- The exponent of finite numbers is not full. -/
theorem ofNat_ne_full {w n : ℕ} (h : ¬ 2 ^ w ≤ n + 1) : BitVec.ofNat w n ≠ -1#w := by
  intro heq
  have htoNat := congrArg BitVec.toNat heq
  rw [BitVec.neg_one_eq_allOnes, BitVec.toNat_allOnes, BitVec.toNat_ofNat,
    Nat.mod_eq_of_lt (by omega)] at htoNat
  omega

theorem zero_ne_full : 0#f.exponentBits ≠ -1#f.exponentBits := by
  have hwide := Nat.pow_le_pow_right (n := 2) (by norm_num) f.he
  exact ofNat_ne_full (by omega)

theorem upright_packedZero (s : Sign) : Upright (unpack f (packedZero f s)) := by
  unfold unpack packedZero
  simp only [unpackExponent_packComponents, unpackMantissa_packComponents]
  split_ifs with hfull _ hzero hnone
  · exact absurd hfull (zero_ne_full f)
  · exact absurd hfull (zero_ne_full f)
  · trivial
  · exact absurd rfl hnone
  · exact absurd rfl hzero

/-- **Packing keeps a number from going below zero.** -/
theorem upright_unpack_pack (hu : Upright u) : Upright (unpack f (pack f u)) := by
  cases u with
  | notANumber => exact hu.elim
  | zero s => exact upright_packedZero f s
  | infinity s =>
    obtain rfl : s = .positive := hu
    exact upright_packComponents f fun _ => rfl
  | finite s m e hm =>
    obtain rfl : s = .positive := hu
    unfold pack
    dsimp only
    split_ifs with hlarge hnormal
    · exact upright_packComponents f fun _ => rfl
    · exact upright_packComponents f fun h => absurd h (ofNat_ne_full hlarge)
    · exact upright_packComponents f fun h => absurd h (zero_ne_full f)

end Machine

end Lamella
