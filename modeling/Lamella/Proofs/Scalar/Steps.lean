import Lamella.Proofs.Result
import Lamella.Proofs.Scalar.Exact
import Lamella.Proofs.Scalar.Percent

/-!
# Steps that lead back

The time of a step is divided by the length of a step to find the step again. In exact arithmetic
this undoes the product. Machine numbers round both, each time by a 2 ^ 53th part at most, so that
the quotient is nearer to the step than to any other, as long as there are not too many steps and
their times are finite.

## Main definitions

- `Grid.TellsApart`: grids whose steps lead back to themselves, up to a count of them.
- `Grid.StartsAtZero`: grids that put nothing before the first step.
- `Grid.PutsAlike`: grids that put times which are the same on the same step.

## Main statements

- `Grid.tellsApart_rat`, `Grid.tellsApart_float`: when the steps of a grid lead back.
- `Grid.startsAtZero_rat`, `Grid.startsAtZero_float`: nothing is put before the first step.
- `Grid.putsAlike_rat`, `Grid.putsAlike_float`: the same times are put on the same step.
-/

namespace Lamella

section

variable {R : Type} [Scalar R]

/-- A grid whose steps last, and up to a count of them begin at times that lead back to them. -/
structure Grid.TellsApart (g : Grid R) (count : Nat) : Prop where
  lasts : 0 < count → ¬ g.step ≤ Scalar.ofInt 0
  time_not_neg : ∀ i : Nat, i < count → ¬ g.stepTime i < Scalar.ofInt 0
  time_le_self : ∀ i : Nat, i < count → g.stepTime i ≤ g.stepTime i
  stepIndex_stepTime : ∀ i : Nat, i < count → g.stepIndex (g.stepTime i) = .ok (i : Int)

/-- A grid that puts no time from zero on before the first step. -/
def Grid.StartsAtZero (g : Grid R) : Prop :=
  ∀ (t : R) (i : Int), ¬ t < Scalar.ofInt 0 → g.stepIndex t = .ok i → 0 ≤ i

/-- A grid that puts times from zero on which are the same on the same step. -/
def Grid.PutsAlike (g : Grid R) : Prop :=
  ∀ s t : R, ¬ s < Scalar.ofInt 0 → s ≤ t → t ≤ s → g.stepIndex s = g.stepIndex t

/-- A time is put on a step if steps last and the quotient is finite. -/
theorem Grid.stepIndex_eq_ok {g : Grid R} {t : R} {i : Int} : g.stepIndex t = .ok i ↔
    Scalar.isZero g.step = false ∧
      ∃ q, Scalar.reading (t / g.step) = .finite q ∧ roundHalfEven q = i := by
  rw [stepIndex, nearest, Value.quotient, Scalar.quotient?]
  cases hzero : Scalar.isZero g.step with
  | true => simp [bind, Except.bind]
  | false =>
    rw [if_neg Bool.false_ne_true, Except.ok_bind, Except.mapError_eq_ok, Scalar.round]
    cases Scalar.reading (t / g.step) with
    | finite q => simp [Reading.rational, Except.map]
    | infinite negative => simp [Reading.rational, Except.map]
    | undefined => simp [Reading.rational, Except.map]

end

/-! ## §1 Exact numbers -/

theorem Grid.startsAtZero_rat (g : Grid Rat) : g.StartsAtZero := by
  intro t i ht hi
  rw [stepIndex_rat] at hi
  rw [← Except.ok.inj hi]
  exact roundHalfEven_nonneg (div_nonneg (not_lt.mp ht) g.step_pos.le)

theorem Grid.putsAlike_rat (g : Grid Rat) : g.PutsAlike := fun _ _ _ hst hts =>
  congrArg g.stepIndex (le_antisymm hst hts)

theorem Grid.tellsApart_rat (g : Grid Rat) (count : Nat) : g.TellsApart count where
  lasts _ := not_le.mpr g.step_pos
  time_not_neg i _ := not_lt.mpr (g.stepTime_nonneg (Int.natCast_nonneg i))
  time_le_self _ _ := le_rfl
  stepIndex_stepTime i _ := g.stepIndex_stepTime i

namespace Machine

open Float.Model (Format UnpackedFloat)
open Float.Model.UnpackedFloat

variable {a b : Float}

/-! ## §2 Signs -/

theorem view_of_val_eq_zero (ha : IsNumber a) (h : val a = 0) : ∃ s, view a = .zero s := by
  unfold val at h
  cases hview : view a with
  | notANumber => exact absurd hview ha
  | infinity s =>
    have hlimit := limit_pos
    rw [hview] at h
    exact absurd (by rw [h, abs_zero]; exact hlimit) (not_lt_of_infinity s)
  | zero s => exact ⟨s, rfl⟩
  | finite s m e hm =>
    rw [hview, value_finite] at h
    have hpos := magnitude_pos e hm
    cases s with
    | positive => exact absurd h (by simpa [Sign.apply] using hpos.ne')
    | negative => exact absurd h (by simpa [Sign.apply] using hpos.ne')

/-- A product with a number above zero is not below zero, if the other factor is not. -/
theorem mul_val_nonneg (h : IsNumber (a * b)) (ha : 0 ≤ val a) (hb : 0 < val b) :
    0 ≤ val (a * b) := by
  obtain ⟨hna, hnb⟩ := isNumber_of_mul h
  rcases ha.eq_or_lt with hzero | hpos
  · -- Zero stays zero, or the product is no number
    obtain ⟨s, hva⟩ := view_of_val_eq_zero hna hzero.symm
    have hproduct : mul Format.binary64 (view a) (view b) = .notANumber ∨
        ∃ t, mul Format.binary64 (view a) (view b) = .zero t := by
      rw [hva]
      rcases view_of_pos hnb hb with hvb | ⟨n, f, hn, hvb⟩ <;> rw [hvb]
      · exact .inl rfl
      · exact .inr ⟨_, rfl⟩
    rw [val, view_mul]
    rcases hproduct with hproduct | ⟨t, hproduct⟩
    · rw [hproduct]
      exact le_rfl
    · rw [hproduct]
      cases t <;> exact le_rfl
  · have hinfinite : mul Format.binary64 (view a) (view b) = .infinity .positive →
        0 ≤ val (a * b) := by
      intro hmul
      rw [val, view_mul, hmul, unpack_pack_infinity, value_positive, beyond_eq]
      linarith [limit_pos]
    rcases view_of_pos hna hpos with hva | ⟨m, e, hm, hva⟩ <;>
      rcases view_of_pos hnb hb with hvb | ⟨n, f, hn, hvb⟩
    · exact hinfinite (by rw [hva, hvb]; rfl)
    · exact hinfinite (by rw [hva, hvb]; rfl)
    · exact hinfinite (by rw [hva, hvb]; rfl)
    · have hpacked := (mul_rounds (view_canonical a).1 (view_canonical b).1 (by rw [hva]; rfl)
        (by rw [hvb]; rfl)).packed.2
      rw [← view_mul] at hpacked
      refine le_of_le_of_eq ?_ hpacked.symm
      rw [← clamp_zero]
      exact clamp_mono (nearest_nonneg (mul_nonneg hpos.le hb.le))

/-- A quotient by what is above zero is not below zero, if what is divided is not. -/
theorem div_val_nonneg_of_number (h : IsNumber (a / b)) (ha : 0 ≤ val a) (hb : 0 < val b) :
    0 ≤ val (a / b) := by
  rcases ha.eq_or_lt with hzero | hpos
  · obtain ⟨hna, hnb⟩ := isNumber_of_div h
    obtain ⟨s, hva⟩ := view_of_val_eq_zero hna hzero.symm
    have hquotient : ∃ t, div Format.binary64 (view a) (view b) = .zero t := by
      rw [hva]
      rcases view_of_pos hnb hb with hvb | ⟨n, f, hn, hvb⟩ <;> rw [hvb] <;> exact ⟨_, rfl⟩
    obtain ⟨t, hquotient⟩ := hquotient
    rw [val, view_div, hquotient]
    cases t <;> exact le_rfl
  · exact div_val_nonneg h hpos hb

/-! ## §3 The error of a product and a quotient -/

/-- A number that was multiplied by a count and divided again is nearest to the count. -/
theorem round_quotient {s : ℚ} {n : ℤ} (hs : 0 < s) (hmultiple : s = n * 2 ^ (-1074 : ℤ)) {i : ℕ}
    (hi : i ≤ 2 ^ 50) : |nearest (nearest (i * s) / s) - i| < 1 / 2 := by
  have hi' : (i : ℚ) ≤ 2 ^ 50 := by exact_mod_cast hi
  have hi0 : (0 : ℚ) ≤ i := Nat.cast_nonneg i
  have hproduct : |nearest (i * s) - i * s| ≤ i * s / 2 ^ 53 := by
    have hclose := nearest_multiple_close (q := i * s) (n := i * n)
      (by rw [hmultiple, Int.cast_mul, Int.cast_natCast, mul_assoc])
    rwa [abs_of_nonneg (mul_nonneg hi0 hs.le)] at hclose
  -- Dividing keeps the error in proportion, and rounding the quotient adds another one
  set p := nearest (i * s) / s with hp
  have hquotient : |p - i| ≤ i / 2 ^ 53 := by
    have heq : p - i = (nearest (i * s) - i * s) / s := by
      rw [hp, sub_div, mul_div_cancel_right₀ _ hs.ne']
    rw [heq, abs_div, abs_of_pos hs, div_le_iff₀ hs]
    calc |nearest (i * s) - i * s| ≤ i * s / 2 ^ 53 := hproduct
      _ = i / 2 ^ 53 * s := by ring
  have hsize : |p| ≤ i + i / 2 ^ 53 := by
    have := abs_sub_abs_le_abs_sub p i
    rw [abs_of_nonneg hi0] at this
    linarith
  have hleast : leastError ≤ 1 / 8 := by
    rw [leastError, show (1 / 8 : ℚ) = 2 ^ (-3 : ℤ) by norm_num]
    exact zpow_le_zpow_right₀ (by norm_num) (by norm_num)
  have hround := nearest_close p
  calc |nearest p - i| ≤ |nearest p - p| + |p - i| := abs_sub_le _ _ _
    _ ≤ (i + i / 2 ^ 53) / 2 ^ 53 + leastError + i / 2 ^ 53 := by
        have : |p| / 2 ^ 53 ≤ (i + i / 2 ^ 53) / 2 ^ 53 := by gcongr
        linarith
    _ < 1 / 2 := by
        linarith

/-! ## §4 The steps of a grid -/

theorem val_ofInt_of_small {n : ℤ} (hn : |n| < 2 ^ 53) :
    IsNumber (Scalar.ofInt n) ∧ val (Scalar.ofInt n) = n := by
  obtain ⟨hnumber, hval⟩ := val_ofInt n
  have hlimit : |(n : ℚ)| < limit := by
    refine lt_limit_of_le (e := 53) ?_ (by norm_num)
    exact_mod_cast hn.le
  exact ⟨hnumber, by rw [hval, nearest_intCast hn, clamp_of_abs_lt hlimit]⟩

/-- No step lasts less than nothing. -/
theorem step_val_nonneg {g : Grid Float} (h : IsNumber g.step) : 0 ≤ val g.step := by
  have hbeats := (isNumber_of_div h).1
  have hbeat := (isNumber_of_mul hbeats).1
  have htempo := (isNumber_of_div hbeat).2
  have hsixty : (Scalar.ofInt 0 : Float) < 60.0 := by decide +kernel
  have hsixty := (lt_iff.mp hsixty).2.2
  rw [val_zero.2] at hsixty
  have hfour : (0 : ℚ) < val (Scalar.ofInt 4) := by
    rw [(val_ofInt_of_small (n := 4) (by norm_num)).2]
    norm_num
  have hdenominator : (0 : ℚ) < val (Scalar.ofInt g.metre.denominator) := by
    have hmem := g.metre.denominator_mem
    simp only [List.mem_cons, List.not_mem_nil, or_false] at hmem
    have hpos : 0 < g.metre.denominator := by omega
    rw [(val_ofInt_of_small (by rw [abs_of_pos hpos]; omega)).2]
    exact Int.cast_pos.mpr hpos
  have hquarter := div_val_nonneg hbeat hsixty (val_pos_of_not_le htempo g.tempo_pos)
  exact div_val_nonneg_of_number h (mul_val_nonneg hbeats hquarter hfour) hdenominator

theorem step_val_pos {g : Grid Float} (h : IsNumber g.step) (hne : Scalar.isZero g.step = false) :
    0 < val g.step := by
  refine lt_of_le_of_ne (step_val_nonneg h) fun hzero => ?_
  have hsame : Scalar.isZero g.step = true := by
    rw [Scalar.isZero, Scalar.same, Bool.and_eq_true, decide_eq_true_eq, decide_eq_true_eq]
    have hval : val g.step = val (Scalar.ofInt 0) := by rw [← hzero, val_zero.2]
    exact ⟨le_iff.mpr ⟨h, val_zero.1, hval.le⟩, le_iff.mpr ⟨val_zero.1, h, hval.ge⟩⟩
  rw [hsame] at hne
  cases hne

/-- The time of a step, if it is finite. -/
theorem val_stepTime {g : Grid Float} {i : ℕ} (hi : i ≤ 2 ^ 50)
    (h : ∃ q, Scalar.reading (g.stepTime i) = .finite q) :
    (IsNumber (g.stepTime i) ∧ |val (g.stepTime i)| < limit) ∧
      (IsNumber g.step ∧ |val g.step| < limit) ∧
      val (g.stepTime i) = nearest (i * val g.step) := by
  obtain ⟨q, hq⟩ := h
  obtain ⟨hnumber, hlimit, -⟩ := reading_eq_finite.mp hq
  have hfinite := (isFinite_of_mul hnumber hlimit).2
  obtain ⟨hcanonical, hfits⟩ := view_canonical g.step
  have hval := val_mul hnumber hlimit
  rw [(val_ofInt_of_small (n := (i : ℤ)) (by rw [abs_of_nonneg (by omega)]; omega)).2] at hval
  exact ⟨⟨hnumber, hlimit⟩, ⟨(isNumber_of_mul hnumber).2, abs_value_lt hcanonical hfits hfinite⟩,
    hval⟩

end Machine

open Machine in
/-- **A grid of machine numbers puts nothing before the first step.** -/
theorem Grid.startsAtZero_float (g : Grid Float) : g.StartsAtZero := by
  intro t i ht hi
  obtain ⟨hne, q, hq, rfl⟩ := stepIndex_eq_ok.mp hi
  obtain ⟨hnumber, -, rfl⟩ := reading_eq_finite.mp hq
  obtain ⟨htnumber, hstep⟩ := isNumber_of_div hnumber
  exact roundHalfEven_nonneg (div_val_nonneg_of_number hnumber (val_nonneg_of_not_lt htnumber ht)
    (step_val_pos hstep hne))

open Machine in
/-- **The steps of a grid of machine numbers lead back to themselves**, if their times are finite
and there are not too many. -/
theorem Grid.tellsApart_float (g : Grid Float) {count : Nat} (hcount : count ≤ 2 ^ 50)
    (hne : 0 < count → Scalar.isZero g.step = false)
    (hfinite : ∀ i : Nat, i < count → ∃ q, Scalar.reading (g.stepTime i) = .finite q) :
    g.TellsApart count where
  lasts hpos hle := by
    obtain ⟨-, ⟨hstep, -⟩, -⟩ := val_stepTime (Nat.zero_le _) (hfinite 0 hpos)
    have hval := (le_iff.mp hle).2.2
    rw [val_zero.2] at hval
    exact absurd (step_val_pos hstep (hne hpos)) (not_lt.mpr hval)
  time_not_neg i hi hlt := by
    obtain ⟨-, ⟨hstep, -⟩, htime⟩ := val_stepTime (by omega) (hfinite i hi)
    have hval := (lt_iff.mp hlt).2.2
    rw [val_zero.2, htime] at hval
    exact absurd (nearest_nonneg (mul_nonneg (Nat.cast_nonneg i) (step_val_nonneg hstep)))
      (not_le.mpr hval)
  time_le_self i hi := by
    obtain ⟨⟨hnumber, -⟩, -⟩ := val_stepTime (by omega) (hfinite i hi)
    exact le_iff.mpr ⟨hnumber, hnumber, le_rfl⟩
  stepIndex_stepTime i hi := by
    have hzero := hne (by omega)
    obtain ⟨⟨hnumber, hlimit⟩, ⟨hstep, hstepLimit⟩, htime⟩ :=
      val_stepTime (by omega) (hfinite i hi)
    have hpos := step_val_pos hstep hzero
    obtain ⟨n, hn⟩ := exists_multiple hstep hstepLimit
    have hnear := round_quotient hpos hn (i := i) (by omega)
    obtain ⟨hquotient, hval⟩ := val_div hnumber hstep hpos hstepLimit
    rcases hval with ⟨h, -⟩ | ⟨h, -⟩ | ⟨-, hval⟩
    · rw [h, ← value_positive] at hlimit
      exact absurd hlimit (not_lt_of_infinity _)
    · rw [h, ← value_negative] at hlimit
      exact absurd hlimit (not_lt_of_infinity _)
    · rw [htime] at hval
      set q := Lamella.nearest (Lamella.nearest (i * val g.step) / val g.step)
      -- The quotient is finite, since it is near to the count
      have hsize : |q| < limit := by
        have hi' : (i : ℚ) ≤ 2 ^ 50 := by exact_mod_cast (by omega : i ≤ 2 ^ 50)
        have habs := abs_sub_abs_le_abs_sub q i
        rw [abs_of_nonneg (Nat.cast_nonneg i : (0 : ℚ) ≤ i)] at habs
        exact lt_limit_of_le (e := 51) (by norm_num; linarith) (by norm_num)
      rw [clamp_of_abs_lt hsize] at hval
      refine stepIndex_eq_ok.mpr ⟨hzero, q, reading_eq_finite.mpr ⟨hquotient, ?_, hval⟩, ?_⟩
      · rwa [hval]
      · exact roundHalfEven_of_near (by rwa [Int.cast_natCast])

/-! ## §5 Times that are the same -/

namespace Machine

open Float.Model (Format UnpackedFloat)
open Float.Model.UnpackedFloat

variable {a b : Float}

/-- Zeros have the same quotients, whatever their signs. -/
theorem reading_div_of_zero {s t : Sign} (ha : view a = .zero s) (hb : view b = .zero t)
    (c : Float) : Scalar.reading (a / c) = Scalar.reading (b / c) := by
  have hread (x : Float) : Scalar.reading x = readingOf (view x) := reading_ofWord _
  have hzero (r : Sign) : readingOf (unpack Format.binary64 (pack Format.binary64 (.zero r))) =
      .finite 0 := by cases r <;> rfl
  rw [hread, hread, view_div, view_div, ha, hb]
  cases view c with
  | notANumber => rfl
  | infinity r => exact (hzero _).trans (hzero _).symm
  | zero r => rfl
  | finite r m e hm => exact (hzero _).trans (hzero _).symm

end Machine

open Machine in
/-- **A grid of machine numbers puts times that are the same on the same step**, also where it puts
them on none. -/
theorem Grid.putsAlike_float (g : Grid Float) : g.PutsAlike := by
  intro s t hs hst hts
  obtain ⟨hns, hnt, hle⟩ := le_iff.mp hst
  have hsame : val s = val t := le_antisymm hle (le_iff.mp hts).2.2
  rcases (val_nonneg_of_not_lt hns hs).eq_or_lt with hzero | hpos
  · -- Zeros may differ in sign, which no quotient of them tells
    obtain ⟨_, hvs⟩ := view_of_val_eq_zero hns hzero.symm
    obtain ⟨_, hvt⟩ := view_of_val_eq_zero hnt (hsame ▸ hzero.symm)
    have hreading := reading_div_of_zero hvs hvt g.step
    unfold stepIndex nearest Value.quotient Scalar.quotient?
    cases Scalar.isZero g.step with
    | true => rfl
    | false =>
      show (Scalar.round (s / g.step)).mapError _ = (Scalar.round (t / g.step)).mapError _
      rw [Scalar.round, Scalar.round, hreading]
  · rw [eq_of_val_pos hns hnt hpos hsame]

end Lamella
