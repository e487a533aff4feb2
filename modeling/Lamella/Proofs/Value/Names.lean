import Lamella.Proofs.Value.Exchange

/-!
# Numbers with names

Scalars that are no finite numbers are written by names, and the names are read as such scalars. So
where there is one scalar for each name, every scalar is read back.

## Main definitions

- `Scalar.Named`: the class of scalar types with one scalar for each name.

## Main statements

- Exact numbers and machine numbers are named.
- `Value.readsBack_scalar`: every scalar is read back.
-/

namespace Lamella

/-- Scalars of which those that are no finite numbers are what their names are read as. -/
class Scalar.Named (R : Type) [Scalar R] : Prop where
  ofNumeral_infinite {x : R} {negative : Bool} (h : Scalar.reading x = .infinite negative) :
    Scalar.ofNumeral? (.infinite negative) = some x
  ofNumeral_undefined {x : R} (h : Scalar.reading x = .undefined) :
    Scalar.ofNumeral? .undefined = some x

/-! ## §1 Scalars that have names -/

/-- All exact numbers are finite. -/
instance : Scalar.Named Rat where
  ofNumeral_infinite h := by cases h
  ofNumeral_undefined h := by cases h

namespace Machine

open Float.Model UnpackedFloat

/-- How a word is unpacked is seen from the binary that it encodes, but for the sign of zero. -/
theorem view_eq_infinity {x : Float} {negative : Bool} (h : Binary.ofFloat x = .infinite negative) :
    view x = .infinity (if negative then .negative else .positive) := by
  have hword : binaryOf (view x) = .infinite negative := (ofWord_eq _).symm.trans h
  cases hview : view x with
  | infinity s =>
    rw [hview] at hword
    obtain rfl := Binary.infinite.inj hword
    cases s <;> rfl
  | _ =>
    rw [hview] at hword
    cases hword

theorem view_eq_notANumber {x : Float} (h : Binary.ofFloat x = .undefined) :
    view x = .notANumber := by
  have hword : binaryOf (view x) = .undefined := (ofWord_eq _).symm.trans h
  cases hview : view x with
  | notANumber => rfl
  | _ =>
    rw [hview] at hword
    cases hword

/-- Only a full exponent with a fraction gives no number. -/
theorem full_of_ofFields {s : Sign} {w : BitVec 11} {v : BitVec 52}
    (h : ofFields s w v = .notANumber) : w = -1#11 ∧ v ≠ 0#52 := by
  rw [ofFields] at h
  by_cases hfull : w = -1#11
  · rw [if_pos hfull] at h
    refine ⟨hfull, fun hv => ?_⟩
    rw [if_pos hv] at h
    cases h
  rw [if_neg hfull] at h
  by_cases hzero : w = 0#11
  · rw [if_pos hzero] at h
    by_cases hv : v = 0#52
    · rw [dif_pos hv] at h
      cases h
    · rw [dif_neg hv] at h
      cases h
  · rw [if_neg hzero] at h
    cases h

/-- There is one word only that encodes no number. -/
theorem eq_packedNaN {x : Float} (h : view x = .notANumber) :
    x.toModel.toBits.toBitVec = packedNaN Format.binary64 := by
  -- A word is valid only if it is that one when its exponent is full and it has a fraction
  obtain ⟨hfull, hfraction⟩ := full_of_ofFields ((unpack_eq _).symm.trans h)
  exact x.toModel.valid.eq_packedNaN hfull hfraction

theorem eq_of_notANumber {x y : Float} (hx : view x = .notANumber) (hy : view y = .notANumber) :
    x = y := by
  have hword : x.toModel.toBits.toBitVec = y.toModel.toBits.toBitVec :=
    (eq_packedNaN hx).trans (eq_packedNaN hy).symm
  obtain ⟨⟨⟨b⟩, hb⟩⟩ := x
  obtain ⟨⟨⟨c⟩, hc⟩⟩ := y
  obtain rfl : b = c := hword
  rfl

/-- What the names of infinities and of no number become. -/
theorem ofFloat_named : (∀ negative, Binary.ofFloat (Numeral.toFloat (.infinite negative)) =
      .infinite negative) ∧ Binary.ofFloat (Numeral.toFloat .undefined) = .undefined := by
  decide +kernel

end Machine

/-- Machine numbers have one word for each name. -/
instance : Scalar.Named Float where
  ofNumeral_infinite {x negative} h := by
    have hx : Binary.ofFloat x = .infinite negative := by
      have hreading : (Binary.ofFloat x).reading = .infinite negative := h
      cases hbinary : Binary.ofFloat x with
      | infinite s =>
        rw [hbinary] at hreading
        rw [Reading.infinite.inj hreading]
      | undefined => rw [hbinary] at hreading; cases hreading
      | finite s m e => rw [hbinary] at hreading; cases s <;> cases hreading
    have hview := Machine.view_eq_infinity hx
    have hnamed := Machine.view_eq_infinity (Machine.ofFloat_named.1 negative)
    refine congrArg some (Machine.eq_of_view ?_ (hnamed.trans hview.symm))
    rw [Machine.IsNumber, hnamed]
    exact nofun
  ofNumeral_undefined {x} h := by
    have hx : Binary.ofFloat x = .undefined := by
      have hreading : (Binary.ofFloat x).reading = .undefined := h
      cases hbinary : Binary.ofFloat x with
      | undefined => rfl
      | infinite s => rw [hbinary] at hreading; cases hreading
      | finite s m e => rw [hbinary] at hreading; cases s <;> cases hreading
    exact congrArg some (Machine.eq_of_notANumber
      (Machine.view_eq_notANumber Machine.ofFloat_named.2) (Machine.view_eq_notANumber hx))

namespace Value

variable {R : Type} [Scalar R]

/-! ## §2 Every scalar is read back -/

/-- **Every scalar is read back**, be it a finite number or one that has a name. -/
theorem readsBack_scalar [Scalar.Legible R] [Scalar.Named R] (depth level : ℕ) (x : R) :
    ReadsBack depth level (.num x) := by
  cases hreading : Scalar.reading x with
  | finite q => exact readsBack_num hreading
  | infinite negative =>
    have hnamed : (readNamed (.infinite negative) : Except Flaw.Cause (Value R)) = .ok (.num x) := by
      rw [readNamed, Scalar.Named.ofNumeral_infinite hreading]
    cases negative with
    | true =>
      refine readsBack_word (by rw [write, writtenScalar, hreading]) ?_
      simp [wordValues, hnamed]
    | false =>
      refine readsBack_word (by rw [write, writtenScalar, hreading]) ?_
      simp [wordValues, hnamed]
  | undefined =>
    have hnamed : (readNamed .undefined : Except Flaw.Cause (Value R)) = .ok (.num x) := by
      rw [readNamed, Scalar.Named.ofNumeral_undefined hreading]
    refine readsBack_word (by rw [write, writtenScalar, hreading]) ?_
    simp [wordValues, hnamed]

end Value

end Lamella
