import Lamella.Grid
import Mathlib.Algebra.Order.Field.Rat
import Mathlib.Data.Rat.Floor
import Mathlib.Tactic.FieldSimp
import Mathlib.Tactic.Linarith
import Mathlib.Tactic.NormNum
import Mathlib.Tactic.Positivity

/-!
# Exact scalars

At the rational numbers the operations of a scalar type are those of an ordered field, every scalar
has an integer next to it, and the steps of a grid are told apart by their times.

## Main statements

- `Scalar.same_rat`, `Scalar.abs_rat`: equality of value and magnitude.
- `Grid.make_rat`: a grid can be made of every tempo above zero.
- `Grid.step_pos`: a step lasts.
- `Grid.stepIndex_stepTime`: the step nearest to the time of a step is that step.
-/

namespace Lamella

/-! ## §1 Operations -/

namespace Scalar

@[simp] theorem ofInt_rat (n : Int) : (ofInt n : Rat) = n := rfl

theorem same_rat (a b : Rat) : same a b = decide (a = b) := by
  rw [same, ← Bool.decide_and, decide_eq_decide]
  exact ⟨fun h => le_antisymm h.1 h.2, fun h => ⟨h.le, h.ge⟩⟩

theorem isZero_rat (a : Rat) : isZero a = decide (a = 0) := same_rat a 0

theorem abs_rat (a : Rat) : Scalar.abs a = |a| := by
  unfold Scalar.abs
  rw [isZero_rat]
  by_cases hneg : a < ofInt 0
  · rw [if_pos hneg]
    exact (abs_of_neg hneg).symm
  · have hnonneg : 0 ≤ a := not_lt.mp hneg
    rw [if_neg hneg, abs_of_nonneg hnonneg]
    by_cases hzero : a = 0 <;> simp [hzero]

end Scalar

/-- An integer is its own nearest integer. -/
theorem roundHalfEven_intCast (n : Int) : roundHalfEven n = n := by
  have hfloor : ((n : Rat)).floor = n := Rat.floor_intCast n
  simp [roundHalfEven, hfloor]

theorem roundHalfEven_nonneg {q : Rat} (hq : 0 ≤ q) : 0 ≤ roundHalfEven q := by
  have hfloor : 0 ≤ q.floor := Rat.le_floor_iff.mpr (by simpa using hq)
  unfold roundHalfEven
  dsimp only
  split_ifs <;> omega

theorem Value.quotient_rat {b : Rat} (hb : b ≠ 0) (a : Rat) : Value.quotient a b = .ok (a / b) := by
  have hzero : Scalar.isZero b = false := by rw [Scalar.isZero_rat, decide_eq_false hb]
  simp [Value.quotient, Scalar.quotient?, hzero]

/-! ## §2 Steps of a grid -/

namespace Grid

/-- A grid can be made of every tempo above zero and every metre. -/
theorem make_rat {tempo : Rat} (h : 0 < tempo) {source : Metre.Source Rat} {metre : Metre}
    (hmetre : source.resolve = .ok metre) :
    ∃ g : Grid Rat, Grid.make tempo source = .ok g ∧ g.tempo = tempo ∧ g.metre = metre ∧
      g.cells = 1 := by
  have hpos : ¬ tempo ≤ Scalar.ofInt 0 := not_le.mpr h
  refine ⟨⟨tempo, metre, 1, hpos, le_refl 1⟩, ?_, rfl, rfl, rfl⟩
  rw [Grid.make, dif_neg hpos, dif_pos (le_refl 1), hmetre]
  rfl

variable (g : Grid Rat)

theorem tempo_pos_rat : 0 < g.tempo := not_le.mp g.tempo_pos

theorem denominator_pos : 0 < g.metre.denominator := by
  have hmem := g.metre.denominator_mem
  simp only [List.mem_cons, List.not_mem_nil, or_false] at hmem
  omega

/-- A step lasts. -/
theorem step_pos : 0 < g.step := by
  have htempo := g.tempo_pos_rat
  have hdenominator : (0 : Rat) < g.metre.denominator := Int.cast_pos.mpr g.denominator_pos
  have heq : g.step = 60.0 / g.tempo * 4 / g.metre.denominator := rfl
  rw [heq]
  positivity

theorem stepTime_nonneg {i : Int} (hi : 0 ≤ i) : 0 ≤ g.stepTime i :=
  mul_nonneg (Int.cast_nonneg hi) g.step_pos.le

/-- The step nearest to a time, in steps. -/
theorem stepIndex_rat (t : Rat) : g.stepIndex t = .ok (roundHalfEven (t / g.step)) := by
  unfold stepIndex nearest
  rw [Value.quotient_rat g.step_pos.ne']
  rfl

theorem roundHalfEven_stepTime (i : Int) : roundHalfEven (g.stepTime i / g.step) = i := by
  have hquotient : g.stepTime i / g.step = i := mul_div_cancel_right₀ (i : Rat) g.step_pos.ne'
  rw [hquotient, roundHalfEven_intCast]

/-- The step nearest to the time of a step is that step. -/
theorem stepIndex_stepTime (i : Int) : g.stepIndex (g.stepTime i) = .ok i := by
  rw [stepIndex_rat, roundHalfEven_stepTime]

end Grid

end Lamella
