import Lamella.Layout.Basic
import Lamella.Pitch
import Lamella.Proofs.Scalar.Exact
import Mathlib.Data.Int.Log
import Mathlib.Data.Rat.Sqrt

/-!
# Exact octaves

Powers of two and their logarithms are exact at whole octaves. In between, exact numbers can only
come near to them: here an octave is gone through evenly, so that the logarithm still undoes the
power. Pitches are kept exactly by these frequencies, and the tuning A has its own in each octave.

## Main definitions

- `Octaves.analytic`: exact numbers as frequencies and pitches.
- `Octaves.layout`: keys that lie octaves apart.

## Main statements

- `Octaves.log2_exp2`: the logarithm undoes the power.
- `Octaves.ofFrequency_frequencyOfNumber`: frequencies of whole pitch numbers keep them.
-/

namespace Lamella

namespace Octaves

/-- Exact numbers with powers of two that grow evenly within each octave. Angles are not measured in
exact numbers. -/
scoped instance analytic : Analytic Rat where
  log2 q := Int.log 2 q + (q / 2 ^ Int.log 2 q - 1)
  exp2 q := 2 ^ q.floor * (1 + (q - q.floor))
  sin _ := 0
  sqrt q := Rat.sqrt q
  pi := 22 / 7

theorem log2_exp2 (q : Rat) : Analytic.log2 (Analytic.exp2 q) = q := by
  have hpower : (0 : ℚ) < 2 ^ q.floor := zpow_pos (by norm_num) _
  have hlow : (q.floor : ℚ) ≤ q := Int.floor_le q
  have hhigh : q < q.floor + 1 := Int.lt_floor_add_one q
  -- Within an octave the power stays below the next one
  have hlog : Int.log 2 ((2 : ℚ) ^ q.floor * (1 + (q - q.floor))) = q.floor := by
    have hpos : (0 : ℚ) < 2 ^ q.floor * (1 + (q - q.floor)) := mul_pos hpower (by linarith)
    refine le_antisymm (Int.lt_add_one_iff.mp ?_) ?_
    · refine (Int.lt_zpow_iff_log_lt (by norm_num) hpos).mp ?_
      rw [Nat.cast_ofNat, zpow_add_one₀ (by norm_num)]
      exact mul_lt_mul_of_pos_left (by linarith) hpower
    · refine (Int.zpow_le_iff_le_log (by norm_num) hpos).mp ?_
      rw [Nat.cast_ofNat]
      exact le_mul_of_one_le_right hpower.le (by linarith)
  show (Int.log 2 ((2 : ℚ) ^ q.floor * (1 + (q - q.floor))) : ℚ) +
    (2 ^ q.floor * (1 + (q - q.floor)) /
      2 ^ Int.log 2 ((2 : ℚ) ^ q.floor * (1 + (q - q.floor))) - 1) = q
  rw [hlog, mul_div_cancel_left₀ _ hpower.ne']
  ring

theorem exp2_pos (q : Rat) : 0 < Analytic.exp2 q := by
  have hlow : (q.floor : ℚ) ≤ q := Int.floor_le q
  exact mul_pos (zpow_pos (by norm_num) _) (by linarith)

theorem frequencyOfNumber_eq (n : Int) :
    Pitch.frequencyOfNumber n = .ok (440 * Analytic.exp2 ((n - 69) / 12 : Rat)) := by
  have hoctaves : ((n - 69 : ℤ) : ℚ) / 12.0 = (n - 69) / 12 := by
    push_cast
    norm_num
  show Pitch.frequencyAbove (((n - 69 : ℤ) : ℚ) / 12.0) = _
  rw [hoctaves]
  show Except.ok ((440.0 : ℚ) * _) = _
  norm_num

/-- **The frequency of a whole pitch number keeps it.** -/
theorem ofFrequency_frequencyOfNumber {n : Int} {f : Rat}
    (h : Pitch.frequencyOfNumber n = .ok f) : Pitch.ofFrequency f = n := by
  rw [frequencyOfNumber_eq] at h
  obtain rfl := Except.ok.inj h
  have hpos : (0 : ℚ) < 440 * Analytic.exp2 ((n - 69) / 12 : Rat) :=
    mul_pos (by norm_num) (exp2_pos _)
  have hpos' : ¬ 440 * Analytic.exp2 ((n - 69) / 12 : Rat) ≤ Scalar.ofInt 0 := not_le.mpr hpos
  have hratio : 440 * Analytic.exp2 ((n - 69) / 12 : Rat) / 440.0 =
      Analytic.exp2 ((n - 69) / 12 : Rat) := by
    have htuning : (440.0 : ℚ) = 440 := by norm_num
    rw [htuning, mul_div_cancel_left₀ _ (by norm_num)]
  rw [Pitch.ofFrequency, if_neg hpos', hratio, log2_exp2]
  show (69 : ℤ) + (12 : ℤ) * (((n : ℚ) - 69) / 12) = n
  push_cast
  ring

/-- The key that sounds the tuning A in an octave above its own. -/
def key (index : Int) (label : String) : Key Rat where
  index := index
  frequency := 440 * 2 ^ index
  degree := 6
  markers := index
  displayDegree := label
  displayNote := "A"
  noteName := "A"
  octave := 4 + index

/-- Three keys. The last two display one label, which leads to the last. -/
def layout : Layout Rat where
  keys := [key 0 "6", key 1 "6°", key 2 "6°"]
  name := "octaves"
  calibrated := true
  keys_ne := by decide
  indices_eq := by decide

end Octaves

end Lamella
