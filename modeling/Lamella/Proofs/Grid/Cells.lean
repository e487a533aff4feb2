import Lamella.Proofs.Result
import Lamella.Proofs.Scalar.Nearest

/-!
# Notes on the cells of a grid

In exact time every note can be moved onto the cells of a grid, however fine the cells are. A time
goes to the nearest cell, an exact half to the even one, and a duration to the nearest count of
cells, but to no less than one. So moving keeps the order of times and moves none of them far, and
what lies on cells stays there.

## Main definitions

- `Grid.span`: how long a cell lasts.
- `Grid.cellOf`: the cell nearest to a time.
- `Grid.onCells`: a note on the cells.

## Main statements

- `Grid.snap_eq`, `Grid.quantizeNote_eq`: times and notes are moved onto cells.
- `Grid.onCells_onCells`: a note on the cells stays there.
- `Grid.quantize_projects`: what becomes of any notes.
-/

namespace Lamella

/-- A note that does not begin too early and lasts can be made. -/
theorem Note.make_eq {R : Type} [Scalar R] {key : Int} {time duration : R} {id : Value R}
    (htime : ¬ time < Scalar.ofInt 0) (hduration : ¬ duration ≤ Scalar.ofInt 0) :
    Note.make key time duration id =
      .ok { key, time, duration, id, time_not_neg := htime, duration_pos := hduration } := by
  rw [Note.make, dif_neg htime, dif_neg hduration]

theorem Scalar.larger_rat (a b : Rat) : Scalar.larger a b = max a b := by
  unfold Scalar.larger
  split_ifs with h
  · exact (max_eq_right h.le).symm
  · exact (max_eq_left (not_lt.mp h)).symm

namespace Grid

variable (g : Grid Rat)

/-! ## §1 The nearest cell -/

/-- How long a cell lasts. -/
def span : Rat := g.step / g.cells

theorem span_pos : 0 < g.span :=
  div_pos g.step_pos (Int.cast_pos.mpr (Int.lt_of_lt_of_le Int.zero_lt_one g.cells_pos))

/-- With one cell a step, a cell lasts as long as a step. -/
theorem span_eq_step (hcells : g.cells = 1) : g.span = g.step := by
  rw [span, hcells, Int.cast_one, div_one]

theorem cell_eq : g.cell = .ok g.span := rfl

/-- The cell nearest to a time, in cells. -/
def cellOf (t : Rat) : Int := roundHalfEven (t / g.span)

/-- A time goes to the nearest cell. -/
theorem snap_eq (t : Rat) : g.snap t = .ok (g.cellOf t * g.span) := by
  unfold snap nearest
  rw [g.cell_eq, Except.ok_bind, Value.quotient_rat g.span_pos.ne']
  rfl

theorem cellOf_nonneg {t : Rat} (ht : 0 ≤ t) : 0 ≤ g.cellOf t :=
  roundHalfEven_nonneg (div_nonneg ht g.span_pos.le)

theorem cellOf_mono {s t : Rat} (h : s ≤ t) : g.cellOf s ≤ g.cellOf t :=
  roundHalfEven_mono ((div_le_div_iff_of_pos_right g.span_pos).mpr h)

/-- A cell is the nearest to its own time. -/
theorem cellOf_mul (i : Int) : g.cellOf (i * g.span) = i := by
  rw [cellOf, mul_div_cancel_right₀ _ g.span_pos.ne', roundHalfEven_intCast]

/-- No time is further than half a cell from the nearest one. -/
theorem cellOf_error (t : Rat) : |g.cellOf t * g.span - t| ≤ g.span / 2 := by
  have hpos := g.span_pos
  -- In cells this is the error of rounding to an integer
  have hscaled : g.cellOf t * g.span - t = (roundHalfEven (t / g.span) - t / g.span) * g.span := by
    rw [sub_mul, div_mul_cancel₀ _ hpos.ne', cellOf]
  rw [hscaled, abs_mul, abs_of_pos hpos]
  calc |(roundHalfEven (t / g.span) : ℚ) - t / g.span| * g.span
      ≤ 1 / 2 * g.span := mul_le_mul_of_nonneg_right (roundHalfEven_error _) hpos.le
    _ = g.span / 2 := by ring

/-! ## §2 Notes on the cells -/

/-- A note on the cells: on the cell nearest to its time, and of the count of cells nearest to its
duration, which is at least one. -/
def onCells (n : Note Rat) : Note Rat where
  key := n.key
  time := g.cellOf n.time * g.span
  duration := (max (g.cellOf n.duration) 1 : Int) * g.span
  id := n.id
  time_not_neg := not_lt.mpr
    (mul_nonneg (Int.cast_nonneg (g.cellOf_nonneg (not_lt.mp n.time_not_neg))) g.span_pos.le)
  duration_pos := not_le.mpr
    (mul_pos (Int.cast_pos.mpr (lt_max_of_lt_right Int.zero_lt_one)) g.span_pos)

theorem duration_eq (n : Note Rat) :
    (g.onCells n).duration = (max (g.cellOf n.duration) 1 : Int) * g.span := rfl

/-- **Every note is moved onto the cells.** -/
theorem quantizeNote_eq (n : Note Rat) : g.quantizeNote n = .ok (g.onCells n) := by
  have htime : Scalar.larger (Scalar.ofInt 0) (g.cellOf n.time * g.span) =
      g.cellOf n.time * g.span := by
    rw [Scalar.larger_rat]
    exact max_eq_right (not_lt.mp (g.onCells n).time_not_neg)
  -- A duration below one cell becomes one cell
  have hduration : (if g.cellOf n.duration * g.span < g.span then g.span
      else g.cellOf n.duration * g.span) = (max (g.cellOf n.duration) 1 : Int) * g.span := by
    have hless : g.cellOf n.duration * g.span < g.span ↔ g.cellOf n.duration < 1 := by
      rw [mul_lt_iff_lt_one_left g.span_pos]
      exact_mod_cast Iff.rfl
    split_ifs with h
    · rw [max_eq_right (hless.mp h).le, Int.cast_one, one_mul]
    · rw [max_eq_left (not_lt.mp fun h' => h (hless.mpr h'))]
  unfold quantizeNote
  rw [g.snap_eq, g.snap_eq, g.cell_eq]
  show Note.make n.key (Scalar.larger (Scalar.ofInt 0) (g.cellOf n.time * g.span))
    (if g.cellOf n.duration * g.span < g.span then g.span else g.cellOf n.duration * g.span)
      n.id = _
  rw [htime, hduration]
  exact Note.make_eq (g.onCells n).time_not_neg (g.onCells n).duration_pos

theorem quantize_eq (notes : List (Note Rat)) : g.quantize notes = .ok (notes.map g.onCells) :=
  Except.mapM_eq_map fun n _ => g.quantizeNote_eq n

/-- **A note on the cells stays there.** -/
theorem onCells_onCells (n : Note Rat) : g.onCells (g.onCells n) = g.onCells n := by
  simp only [onCells, g.cellOf_mul, max_assoc, max_self]

/-- A duration moves by at most half a cell, unless it is that short itself. -/
theorem duration_onCells (n : Note Rat) : |(g.onCells n).duration - n.duration| ≤ g.span / 2 ∨
    n.duration ≤ g.span / 2 ∧ (g.onCells n).duration = g.span := by
  have herror := g.cellOf_error n.duration
  rcases le_or_gt 1 (g.cellOf n.duration) with hone | hnone
  · left
    rw [g.duration_eq, max_eq_left hone]
    exact herror
  · have hzero : g.cellOf n.duration = 0 := by
      have := g.cellOf_nonneg (not_le.mp n.duration_pos).le
      omega
    right
    rw [hzero, Int.cast_zero, zero_mul, zero_sub, abs_neg] at herror
    refine ⟨(le_abs_self _).trans herror, ?_⟩
    rw [g.duration_eq, max_eq_right hnone.le, Int.cast_one, one_mul]

/-- With one cell a step, the nearest cell is the nearest step. -/
theorem snap_step (hcells : g.cells = 1) (t : Rat) :
    ∃ i, g.stepIndex t = .ok i ∧ g.snap t = .ok (g.stepTime i) := by
  refine ⟨_, g.stepIndex_rat t, ?_⟩
  rw [g.snap_eq, cellOf, g.span_eq_step hcells]
  rfl

/-- With one cell a step, a note begins at the step nearest to it. -/
theorem time_onCells (hcells : g.cells = 1) (n : Note Rat) :
    (g.onCells n).time = g.stepTime (roundHalfEven (n.time / g.step)) := by
  show (roundHalfEven (n.time / g.span) : ℚ) * g.span = _
  rw [g.span_eq_step hcells]
  rfl

/-- **What becomes of any notes.** They can always be moved onto the cells, each by itself and in
their order. A note keeps its key and its id; its time moves by at most half a cell and becomes a
count of cells, and its duration becomes a count of cells above zero, moving as little unless it was
shorter than half a cell. Moved again, notes stay where they are, and of two notes none comes to
begin before one that did not begin later. With one cell a step, the cell nearest to a time is the
step nearest to it. -/
theorem quantize_projects : ∃ span : Rat, g.cell = .ok span ∧ span = g.step / g.cells ∧ 0 < span ∧
    ∃ moved : Note Rat → Note Rat,
      (∀ notes, g.quantize notes = .ok (notes.map moved)) ∧
      (∀ n, (moved n).key = n.key ∧ (moved n).id = n.id ∧ |(moved n).time - n.time| ≤ span / 2 ∧
        (∃ c : ℕ, (moved n).time = c * span) ∧ (∃ c : ℕ, 0 < c ∧ (moved n).duration = c * span) ∧
        (|(moved n).duration - n.duration| ≤ span / 2 ∨
          n.duration ≤ span / 2 ∧ (moved n).duration = span)) ∧
      (∀ notes, (g.quantize notes >>= g.quantize) = g.quantize notes) ∧
      (∀ m n, m.time ≤ n.time → (moved m).time ≤ (moved n).time) ∧
      (g.cells = 1 → ∀ t, ∃ i, g.stepIndex t = .ok i ∧ g.snap t = .ok (g.stepTime i)) := by
  refine ⟨g.span, g.cell_eq, rfl, g.span_pos, g.onCells, g.quantize_eq, fun n => ?_, fun notes => ?_,
    fun m n hle => ?_, g.snap_step⟩
  · have hcell := g.cellOf_nonneg (not_lt.mp n.time_not_neg)
    refine ⟨rfl, rfl, g.cellOf_error n.time, ⟨(g.cellOf n.time).toNat, ?_⟩,
      ⟨(max (g.cellOf n.duration) 1).toNat, by omega, ?_⟩, g.duration_onCells n⟩
    · rw [← Int.cast_natCast, Int.toNat_of_nonneg hcell]
      rfl
    · rw [← Int.cast_natCast, Int.toNat_of_nonneg (by omega)]
      rfl
  · rw [g.quantize_eq, Except.ok_bind, g.quantize_eq, List.map_map]
    refine congrArg Except.ok (List.map_congr_left fun n _ => ?_)
    exact g.onCells_onCells n
  · exact mul_le_mul_of_nonneg_right (Int.cast_le.mpr (g.cellOf_mono hle)) g.span_pos.le

end Grid

end Lamella
