import Lamella.Proofs.Result
import Lamella.Proofs.Scalar.Percent
import Lamella.Proofs.Score.Tally

/-!
# Bounds of a score

Rules take any integers for values and any scalars for multipliers, so that a judgment can take
points away, and an accuracy can lie outside of a percentage. This tells which rules and which
scores keep the bounds: the combos are bounded by the hits under any rules; the points go down just
with a judgment that is worth less than minus one half; the accuracy is below zero just where the
judged notes are; and it is above a hundred at most by rounding, or where it overflows.

## Main definitions

- `Scoring.Pays`: a judgment that takes nothing from the score.
- `Scoring.Generous`: rules in which nothing is below zero.
- `Keeper.Returns`: a row of calls all of which return.

## Main statements

- `Keeper.register_of_returns`: a registration that returns changes nothing or applies a judgment.
- `Keeper.Balanced.serve`: what calls that return keep.
- `Keeper.score_within_bounds`: the bounds of a score after calls that return.
-/

namespace Lamella

/-! ## §1 What rules take away -/

namespace Scoring

section

variable {R : Type} [Scalar R]

/-- A judgment of a tier that takes nothing from the score at a combo: what it is worth is at least
minus one half, which is rounded up to nothing. -/
def Pays (s : Scoring R) (combo : Nat) (t : Tier) : Prop :=
  -(0.5 : R) ≤ Scalar.ofInt (s.worth.of t) * s.multiplier combo

/-- Rules in which nothing is below zero. -/
structure Generous (s : Scoring R) : Prop where
  worth : ∀ t, 0 ≤ s.worth.of t
  multiplier : ∀ threshold ∈ s.thresholds, ¬ threshold.2 < Scalar.ofInt 0

/-- A multiplier is one, or that of a threshold. -/
theorem multiplier_cases (s : Scoring R) (combo : Int) :
    s.multiplier combo = 1.0 ∨ ∃ threshold ∈ s.thresholds, s.multiplier combo = threshold.2 := by
  have hfold : ∀ (thresholds : List (Int × R)) (m : R),
      thresholds.foldl (fun m t => if t.1 ≤ combo then t.2 else m) m = m ∨
        ∃ threshold ∈ thresholds,
          thresholds.foldl (fun m t => if t.1 ≤ combo then t.2 else m) m = threshold.2 := by
    intro thresholds
    induction thresholds with
    | nil => exact fun m => .inl rfl
    | cons first rest ih =>
      intro m
      rw [List.foldl_cons]
      rcases ih (if first.1 ≤ combo then first.2 else m) with hsame | ⟨later, hlater, heq⟩
      · rw [hsame]
        split_ifs
        · exact .inr ⟨first, List.mem_cons_self, rfl⟩
        · exact .inl rfl
      · exact .inr ⟨later, List.mem_cons_of_mem _ hlater, heq⟩
  exact hfold s.thresholds 1.0

end

end Scoring

namespace Worth

theorem of_le_best (w : Worth) (t : Tier) : w.of t ≤ w.best := by
  cases t <;> simp only [of, best] <;> omega

end Worth

namespace Score

variable {R : Type}

/-- Notes are worth at most what the best of them would be. -/
theorem earned_le (s : Score R) (w : Worth) : s.earned w ≤ s.judged * w.best := by
  have hterm : ∀ (n : Nat) t, n * w.of t ≤ n * w.best := fun n t =>
    mul_le_mul_of_nonneg_left (w.of_le_best t) n.cast_nonneg
  have hsum := add_le_add (add_le_add (add_le_add (hterm s.perfect .perfect)
    (hterm s.good .good)) (hterm s.okay .okay)) (hterm s.miss .miss)
  refine le_of_le_of_eq hsum ?_
  rw [judged]
  push_cast
  ring

/-- Notes are worth no more, above or below zero, than as many of the value furthest from it. -/
theorem abs_earned_le (s : Score R) {w : Worth} {bound : Int} (h : ∀ t, |w.of t| ≤ bound) :
    |s.earned w| ≤ s.judged * bound := by
  have hterm : ∀ (n : Nat) t, |(n * w.of t : Int)| ≤ n * bound := fun n t => by
    rw [abs_mul, Nat.abs_cast]
    exact mul_le_mul_of_nonneg_left (h t) n.cast_nonneg
  have hsum := (abs_add_le _ _).trans (add_le_add ((abs_add_le _ _).trans (add_le_add
    ((abs_add_le _ _).trans (add_le_add (hterm s.perfect .perfect) (hterm s.good .good)))
    (hterm s.okay .okay))) (hterm s.miss .miss))
  refine le_of_le_of_eq hsum ?_
  rw [judged]
  push_cast
  ring

end Score

/-! ## §2 Gains and accuracies of machine numbers -/

namespace Machine

/-- Integers of up to 200 binary digits have a machine number near them. -/
theorem exists_scalarOfInt {n : Int} (h : |n| ≤ 2 ^ 200) :
    ∃ x : Float, Value.scalarOfInt n = .ok x := by
  obtain ⟨hnumber, hval⟩ := val_ofInt n
  have hsmall : |(n : ℚ)| ≤ 2 ^ (200 : ℤ) := by exact_mod_cast h
  have hlimit : |nearest n| < limit :=
    lt_limit_of_le (abs_nearest_le (by norm_num) hsmall) (by norm_num)
  rw [clamp_of_abs_lt hlimit] at hval
  have hread := reading_eq_finite.mpr ⟨hnumber, by rw [hval]; exact hlimit, rfl⟩
  refine ⟨Scalar.ofInt n, ?_⟩
  unfold Value.scalarOfInt Scalar.ofInt?
  dsimp only
  rw [hread]

/-- What lies where the infinity above zero does is that infinity. -/
theorem reading_of_beyond {x : Float} (hx : IsNumber x) (h : val x = beyond) :
    Scalar.reading x = .infinite false := by
  have hlimit := limit_pos
  have hbeyond := beyond_eq
  rcases val_cases hx with ⟨hview, -⟩ | ⟨-, hval⟩ | ⟨-, hval⟩
  · have hword : Scalar.reading x = readingOf (view x) := reading_ofWord _
    rw [hword, hview]
    rfl
  · linarith
  · linarith [(abs_lt.mp hval).2]

theorem val_half : IsNumber (0.5 : Float) ∧ val (0.5 : Float) = 1 / 2 := by
  have hview : view (0.5 : Float) = .finite .positive (2 ^ 52) (-53) (by norm_num) := rfl
  obtain ⟨hnumber, hval⟩ := number_of_view hview
  refine ⟨hnumber, hval.trans ?_⟩
  show ((2 ^ 52 : ℕ) : ℚ) * 2 ^ (-53 : ℤ) = 1 / 2
  norm_num

theorem val_place : IsNumber (100.00000000000001 : Float) ∧
    val (100.00000000000001 : Float) = 100 + 2 ^ (-46 : ℤ) := by
  have hview : view (100.00000000000001 : Float) =
      .finite .positive (100 * 2 ^ 46 + 1) (-46) (by norm_num) := rfl
  obtain ⟨hnumber, hval⟩ := number_of_view hview
  refine ⟨hnumber, hval.trans ?_⟩
  show ((100 * 2 ^ 46 + 1 : ℕ) : ℚ) * 2 ^ (-46 : ℤ) = 100 + 2 ^ (-46 : ℤ)
  norm_num

theorem abs_val_half : |val (0.5 : Float)| < limit := by
  rw [val_half.2]
  exact lt_limit_of_le (e := 0) (by norm_num) (by norm_num)

end Machine

/-- Rules reach the accuracy of as many notes as make up integers of 200 binary digits with
the value furthest from zero. -/
theorem Scoring.reaches_of_le {s : Scoring Float} {count : Nat} {bound : Int}
    (hbound : ∀ t, |s.worth.of t| ≤ bound) (hcount : count * bound ≤ 2 ^ 200) :
    s.Reaches count := by
  intro score hscore
  have hpos : 0 ≤ bound := (abs_nonneg _).trans (hbound .perfect)
  have hjudged : (score.judged : Int) * bound ≤ 2 ^ 200 :=
    (mul_le_mul_of_nonneg_right (by exact_mod_cast hscore) hpos).trans hcount
  have hbest : |s.worth.best| ≤ bound := by
    have hreach : ∃ t, s.worth.best = s.worth.of t := by
      unfold Worth.best
      rcases max_choice (max (max s.worth.perfect s.worth.good) s.worth.okay) s.worth.miss with
        h | h
      · rw [h]
        rcases max_choice (max s.worth.perfect s.worth.good) s.worth.okay with h | h
        · rw [h]
          rcases max_choice s.worth.perfect s.worth.good with h | h
          · exact ⟨.perfect, h⟩
          · exact ⟨.good, h⟩
        · exact ⟨.okay, h⟩
      · exact ⟨.miss, h⟩
    obtain ⟨t, ht⟩ := hreach
    rw [ht]
    exact hbound t
  obtain ⟨earned, hearned⟩ := Machine.exists_scalarOfInt
    ((score.abs_earned_le hbound).trans hjudged)
  obtain ⟨possible, hpossible⟩ := Machine.exists_scalarOfInt
    (n := score.judged * s.worth.best) (by
      rw [abs_mul, Nat.abs_cast]
      exact (mul_le_mul_of_nonneg_left hbest score.judged.cast_nonneg).trans hjudged)
  unfold Keeper.accuracy
  split_ifs
  · exact ⟨_, rfl⟩
  · exact ⟨_, rfl⟩
  · rw [hearned, hpossible]
    exact ⟨_, rfl⟩

namespace Keeper

/-- A floor is that of a finite scalar. -/
theorem reading_of_floor {R : Type} [Scalar R] {x : R} {n : Int} (h : Scalar.floor x = .ok n) :
    ∃ q, Scalar.reading x = .finite q ∧ q.floor = n := by
  unfold Scalar.floor at h
  cases hread : Scalar.reading x with
  | undefined =>
    rw [hread] at h
    cases h
  | infinite negative =>
    rw [hread] at h
    cases h
  | finite q =>
    rw [hread] at h
    exact ⟨q, rfl, Except.ok.inj h⟩

section

open Machine

variable {scoring : Scoring Float} {combo : Nat} {t : Tier} {points : Int}

/-- What is gained is the floor of a finite number: half a point more than what the judgment is
worth, which is finite as well. -/
theorem gain_finite (h : gain scoring combo t = .ok points) :
    let worth : Float := Scalar.ofInt (scoring.worth.of t) * scoring.multiplier combo
    IsNumber worth ∧ |val worth| < limit ∧ (val (worth + 0.5)).floor = points := by
  intro worth
  unfold gain at h
  obtain ⟨value, hvalue, hfloor⟩ := Except.bind_eq_ok.mp h
  obtain ⟨rfl, -⟩ := of_scalarOfInt hvalue
  obtain ⟨q, hq, hpoints⟩ := reading_of_floor (Except.mapError_eq_ok.mp hfloor)
  obtain ⟨hnumber, hlimit, rfl⟩ := reading_eq_finite.mp hq
  exact ⟨(isNumber_of_add hnumber).1, abs_val_lt_of_add hnumber hlimit abs_val_half, hpoints⟩

/-- **A gain is below zero just if the judgment takes something away.** -/
theorem gain_nonneg_iff (h : gain scoring combo t = .ok points) :
    0 ≤ points ↔ scoring.Pays combo t := by
  obtain ⟨hnumber, hlimit, rfl⟩ := gain_finite h
  obtain ⟨hhalf, hvalhalf⟩ := val_half
  obtain ⟨hneghalf, hvalneghalf⟩ := val_neg hhalf
  have hsum := add_nonneg_iff hnumber hhalf hlimit abs_val_half
  rw [hvalhalf] at hsum
  rw [Rat.le_floor_iff, Int.cast_zero, hsum, Scoring.Pays, le_iff, hvalneghalf, hvalhalf,
    ← neg_le_iff_add_nonneg]
  exact ⟨fun hle => ⟨hneghalf, hnumber, hle⟩, fun hle => hle.2.2⟩

/-- Generous rules take nothing away. -/
theorem pays_of_generous (hgenerous : scoring.Generous) (h : gain scoring combo t = .ok points) :
    scoring.Pays combo t := by
  obtain ⟨hnumber, hlimit, -⟩ := gain_finite h
  obtain ⟨hvalue, hvalvalue⟩ := val_ofInt (scoring.worth.of t)
  obtain ⟨hhalf, hvalhalf⟩ := val_half
  obtain ⟨hneghalf, hvalneghalf⟩ := val_neg hhalf
  have hmultiplier := (isNumber_of_mul hnumber).2
  have hworth0 : 0 ≤ val (Scalar.ofInt (scoring.worth.of t)) := by
    rw [hvalvalue, ← clamp_zero]
    exact clamp_mono (nearest_nonneg (by exact_mod_cast hgenerous.worth t))
  have hmultiplier0 : 0 ≤ val (scoring.multiplier combo) := by
    rcases scoring.multiplier_cases combo with hone | ⟨threshold, hmem, heq⟩
    · have hval : val (1.0 : Float) = 1 := val_one.2
      rw [hone, hval]
      norm_num
    · rw [heq] at hmultiplier ⊢
      exact val_nonneg_of_not_lt hmultiplier (hgenerous.multiplier threshold hmem)
  refine le_iff.mpr ⟨hneghalf, hnumber, ?_⟩
  rw [hvalneghalf, hvalhalf, val_mul hnumber hlimit]
  exact (by norm_num : -(1 / 2 : ℚ) ≤ 0).trans (nearest_nonneg (mul_nonneg hworth0 hmultiplier0))

/-- Once something could be gained, the accuracy is the percentage of two integers that are machine
numbers. -/
theorem accuracy_parts {w : Worth} {s : Score Float} {percent : Float} (hjudged : s.judged ≠ 0)
    (hbest : 0 < w.best) (h : accuracy w s = .ok percent) : ∃ earned possible : Float,
      (IsNumber earned ∧ |val earned| < limit ∧ val earned = nearest (s.earned w)) ∧
      (IsNumber possible ∧ |val possible| < limit ∧
        val possible = nearest (s.judged * w.best : ℤ) ∧ 1 ≤ val possible) ∧
      percent = 100.0 * earned / possible := by
  rw [accuracy, if_neg hjudged, if_neg (not_le.mpr hbest)] at h
  obtain ⟨earned, hearned, h⟩ := Except.bind_eq_ok.mp h
  obtain ⟨possible, hpossible, h⟩ := Except.bind_eq_ok.mp h
  have hcount : 1 ≤ (s.judged * w.best : ℤ) := by
    have hone : 1 ≤ s.judged := Nat.one_le_iff_ne_zero.mpr hjudged
    exact one_le_mul_of_one_le_of_one_le (by exact_mod_cast hone) hbest
  have hlow : 1 ≤ nearest (s.judged * w.best : ℤ) := by
    have hone : nearest (1 : ℤ) = 1 := (nearest_intCast (by decide)).trans Int.cast_one
    rw [← hone]
    exact nearest_mono (by exact_mod_cast hcount)
  obtain ⟨-, hnumber, hlimit, hval⟩ := of_scalarOfInt hearned
  obtain ⟨-, hnumber', hlimit', hval'⟩ := of_scalarOfInt hpossible
  exact ⟨earned, possible, ⟨hnumber, hlimit, hval⟩, ⟨hnumber', hlimit', hval', by rwa [hval']⟩,
    (Except.ok.inj h).symm⟩

theorem nearest_int_cases (n : ℤ) : (0 ≤ nearest n ↔ 0 ≤ n) ∧ (0 ≤ nearest n ∨ nearest n ≤ -1) := by
  rcases le_or_gt 0 n with hn | hn
  · have hnonneg := nearest_nonneg (q := n) (by exact_mod_cast hn)
    exact ⟨⟨fun _ => hn, fun _ => hnonneg⟩, .inl hnonneg⟩
  · have hone : nearest (-1) = -1 := by
      simpa using nearest_of_mantissa (m := -1) (e := 0) (by decide) (by norm_num)
    have hle : nearest n ≤ -1 := by
      rw [← hone]
      exact nearest_mono (by exact_mod_cast Int.le_sub_one_of_lt hn)
    exact ⟨⟨fun h => by linarith, fun h => by omega⟩, .inr hle⟩

variable {w : Worth} {s : Score Float} {percent : Float}

/-- **An accuracy is below zero just where the judged notes are**, and something could be gained. -/
theorem accuracy_nonneg_iff (h : accuracy w s = .ok percent) :
    Scalar.ofInt 0 ≤ percent ↔ s.judged = 0 ∨ w.best ≤ 0 ∨ 0 ≤ s.earned w := by
  by_cases hjudged : s.judged = 0
  · rw [accuracy, if_pos hjudged] at h
    obtain rfl := Except.ok.inj h
    exact ⟨fun _ => .inl hjudged, fun _ => by decide +kernel⟩
  by_cases hbest : w.best ≤ 0
  · rw [accuracy, if_neg hjudged, if_pos hbest] at h
    obtain rfl := Except.ok.inj h
    exact ⟨fun _ => .inr (.inl hbest), fun _ => by decide +kernel⟩
  obtain ⟨earned, possible, ⟨hna, hla, hvala⟩, ⟨hnb, hlb, -, hone⟩, rfl⟩ :=
    accuracy_parts hjudged (not_le.mp hbest) h
  obtain ⟨hsign, hinteger⟩ := nearest_int_cases (s.earned w)
  rw [← hvala] at hsign hinteger
  have hnumber := (val_div (val_hundred_mul hna hla).1 hnb (zero_lt_one.trans_le hone) hlb).1
  rw [le_iff, val_zero.2, percent_nonneg_iff hna hla hnb hlb hone hinteger, hsign]
  exact ⟨fun hle => .inr (.inr hle.2.2), fun hle => ⟨val_zero.1, hnumber,
    (hle.resolve_left hjudged).resolve_left hbest⟩⟩

/-- **An accuracy is at most a hundred**, as long as a hundred times what the notes could be worth
has 53 binary digits; beyond that it is at most one place above a hundred, unless it overflows. -/
theorem accuracy_le (h : accuracy w s = .ok percent) :
    (100 * (s.judged * w.best) < 2 ^ 53 → percent ≤ 100.0) ∧
      (percent ≤ 100.00000000000001 ∨ Scalar.reading percent = .infinite false) := by
  by_cases hjudged : s.judged = 0
  · rw [accuracy, if_pos hjudged] at h
    obtain rfl := Except.ok.inj h
    exact ⟨fun _ => by decide +kernel, .inl (by decide +kernel)⟩
  by_cases hbest : w.best ≤ 0
  · rw [accuracy, if_neg hjudged, if_pos hbest] at h
    obtain rfl := Except.ok.inj h
    exact ⟨fun _ => by decide +kernel, .inl (by decide +kernel)⟩
  obtain ⟨earned, possible, ⟨hna, hla, hvala⟩, ⟨hnb, hlb, hvalb, hone⟩, rfl⟩ :=
    accuracy_parts hjudged (not_le.mp hbest) h
  have hnumber := (val_div (val_hundred_mul hna hla).1 hnb (zero_lt_one.trans_le hone) hlb).1
  have hle : val earned ≤ val possible := by
    rw [hvala, hvalb]
    exact nearest_mono (by exact_mod_cast s.earned_le w)
  constructor
  · intro hsmall
    have hpossible : 0 < (s.judged * w.best : ℤ) :=
      mul_pos (by exact_mod_cast Nat.pos_of_ne_zero hjudged) (not_le.mp hbest)
    -- What the notes could be worth is exact, as is a hundred times as much
    rw [nearest_intCast (abs_lt.mpr ⟨by omega, by omega⟩)] at hvalb
    have hscaled : 100 * val possible = ((100 * (s.judged * w.best) : ℤ) : ℚ) := by
      rw [hvalb]
      push_cast
      ring
    have hlimit : 100 * val possible < limit := by
      rw [hscaled]
      exact lt_limit_of_le (e := 53) (by exact_mod_cast hsmall.le) (by norm_num)
    refine le_iff.mpr ⟨hnumber, val_hundred.1, ?_⟩
    rw [val_hundred.2]
    refine percent_le_hundred hna hla hnb hlb hone hle ?_ hlimit
    rw [hscaled]
    exact nearest_intCast (abs_lt.mpr ⟨by omega, hsmall⟩)
  · rcases percent_le hna hla hnb hlb hone hle with hplace | hbeyond
    · refine .inl (le_iff.mpr ⟨hnumber, val_place.1, ?_⟩)
      rw [val_place.2]
      exact hplace
    · exact .inr (reading_of_beyond hnumber hbeyond)

/-- An accuracy of exact numbers is at most a hundred. -/
theorem accuracy_le_of_exact {s : Score Rat} {percent : Rat} (h : accuracy w s = .ok percent) :
    percent ≤ 100 := by
  rw [accuracy_rat] at h
  obtain rfl := Except.ok.inj h
  split_ifs with hjudged hbest
  · exact le_rfl
  · norm_num
  · have hpossible : (0 : Rat) < s.judged * w.best :=
      mul_pos (by exact_mod_cast Nat.pos_of_ne_zero hjudged) (by exact_mod_cast not_le.mp hbest)
    rw [div_le_iff₀ hpossible]
    exact mul_le_mul_of_nonneg_left (by exact_mod_cast s.earned_le w) (by norm_num)

end

/-! ## §3 Calls that return -/

section

variable {R : Type} [Scalar R]

/-- A registration that returns changes nothing, or applies the judgment. -/
theorem register_of_returns {k : Keeper R} {id : Value R} {t : Tier} {applied : Bool}
    (h : (k.register id t).1 = .ok applied) :
    k.register id t = (.ok false, k) ∨
      ∃ points percent, k.register id t = (.ok true, k.apply id t points percent) := by
  unfold register at h ⊢
  split at h
  · rename_i hfrozen
    exact .inl (if_pos hfrozen)
  · rename_i hopen
    rw [if_neg hopen]
    split at h
    · cases h
    · exact .inl rfl
    · dsimp only at h ⊢
      split at h
      · cases h
      · rename_i points _
        split at h
        · cases h
        · rename_i percent _
          exact .inr ⟨points, percent, rfl⟩

/-- Whether a call returns. -/
def Answers (k : Keeper R) : Call R → Prop
  | .register id t => ∃ applied, (k.register id t).1 = .ok applied
  | .freeze => True

/-- A row of calls each of which returns. -/
def Returns (k : Keeper R) : List (Call R) → Prop
  | [] => True
  | call :: rest => k.Answers call ∧ (k.answer call).Returns rest

/-- What a keeper keeps as long as its calls return: no more hits in a row than the most, no more
than the most than hits at all, and the accuracy of its score. -/
structure Balanced (k : Keeper R) : Prop where
  combo : k.score.combo ≤ k.score.maxCombo
  maxCombo : k.score.maxCombo ≤ k.score.perfect + k.score.good + k.score.okay
  rated : k.IsRated

namespace Balanced

theorem fresh (scoring : Scoring R) : (Keeper.fresh scoring).Balanced :=
  ⟨le_rfl, le_rfl, isRated_fresh scoring⟩

/-- A call that returns keeps the balance. -/
theorem answer {k : Keeper R} (h : k.Balanced) {call : Call R} (hanswers : k.Answers call) :
    (k.answer call).Balanced := by
  cases call with
  | freeze => exact ⟨h.combo, h.maxCombo, h.rated⟩
  | register id t =>
    obtain ⟨applied, happlied⟩ := hanswers
    show (k.register id t).2.Balanced
    rcases register_of_returns happlied with hsame | ⟨points, percent, hregister⟩
    · rw [hsame]
      exact h
    · have hrated := isRated_of_register hregister
      rw [hregister]
      -- A hit makes the combo and the hits one more, a miss ends the combo
      have hcombo := h.combo
      have hmax := h.maxCombo
      refine ⟨?_, ?_, hrated⟩
      · rw [maxCombo_apply]
        exact le_max_right _ _
      · cases t <;> simp [apply, Score.advance, Score.bump, Tier.isHit] <;> omega

/-- **Calls that return keep the balance.** -/
theorem serve {k : Keeper R} (h : k.Balanced) {calls : List (Call R)} (hreturns : k.Returns calls) :
    (k.serve calls).Balanced := by
  induction calls generalizing k with
  | nil => exact h
  | cons call rest ih => exact ih (h.answer hreturns.1) hreturns.2

end Balanced

theorem scoring_serve (k : Keeper R) (calls : List (Call R)) :
    (k.serve calls).scoring = k.scoring := by
  induction calls generalizing k with
  | nil => rfl
  | cons call rest ih =>
    refine (ih (k.answer call)).trans ?_
    cases call with
    | register id t => exact (register_frame k id t).1
    | freeze => rfl

end

/-- Under generous rules no call takes points away. -/
theorem points_le_answer {k : Keeper Float} (hgenerous : k.scoring.Generous) {call : Call Float}
    (hanswers : k.Answers call) : k.score.points ≤ (k.answer call).score.points := by
  cases call with
  | freeze => exact le_rfl
  | register id t =>
    obtain ⟨applied, happlied⟩ := hanswers
    show k.score.points ≤ (k.register id t).2.score.points
    rcases register_of_returns happlied with hsame | ⟨points, percent, hregister⟩
    · rw [hsame]
    · obtain ⟨gained, hgain, hsum⟩ := points_of_register hregister
      have hgained := (gain_nonneg_iff hgain).mpr (pays_of_generous hgenerous hgain)
      rw [hregister]
      show k.score.points ≤ (k.apply id t points percent).score.points
      omega

/-- Under generous rules the points never fall below those at the start. -/
theorem points_le_serve {k : Keeper Float} (hgenerous : k.scoring.Generous)
    {calls : List (Call Float)} (hreturns : k.Returns calls) :
    k.score.points ≤ (k.serve calls).score.points := by
  induction calls generalizing k with
  | nil => exact le_rfl
  | cons call rest ih =>
    have hscoring : (k.answer call).scoring = k.scoring := scoring_serve k [call]
    exact (points_le_answer hgenerous hreturns.1).trans (ih (hscoring ▸ hgenerous) hreturns.2)

/-- **The bounds of a score.** After any calls that return:

- the combo is at most the best combo, and that at most the hits;
- a judgment that is applied next takes points away just if it does not pay;
- under rules in which nothing is below zero the points are not, nor does a call that returns take
  any away;
- the accuracy is not below zero just where nothing was judged, nothing can be gained, or what was
  judged is not worth less than nothing;
- the accuracy is at most a hundred, as long as a hundred times what the judged notes could be worth
  has 53 binary digits; beyond that it is at most one place above, or overflows to infinity. -/
theorem score_within_bounds {scoring : Scoring Float} {calls : List (Call Float)}
    (hreturns : (fresh scoring).Returns calls) :
    let k := (fresh scoring).serve calls
    (k.score.combo ≤ k.score.maxCombo ∧
      k.score.maxCombo ≤ k.score.perfect + k.score.good + k.score.okay) ∧
    (∀ id t l, k.register id t = (.ok true, l) →
      (k.score.points ≤ l.score.points ↔ scoring.Pays l.score.combo t)) ∧
    (scoring.Generous → 0 ≤ k.score.points ∧
      ∀ call, k.Answers call → k.score.points ≤ (k.answer call).score.points) ∧
    (Scalar.ofInt 0 ≤ k.score.accuracy ↔
      k.score.judged = 0 ∨ scoring.worth.best ≤ 0 ∨ 0 ≤ k.score.earned scoring.worth) ∧
    (100 * (k.score.judged * scoring.worth.best) < 2 ^ 53 → k.score.accuracy ≤ 100.0) ∧
    (k.score.accuracy ≤ 100.00000000000001 ∨
      Scalar.reading k.score.accuracy = .infinite false) := by
  intro k
  have hbalanced : k.Balanced := (Balanced.fresh scoring).serve hreturns
  have hscoring : k.scoring = scoring := scoring_serve _ _
  have hrated : accuracy scoring.worth k.score = .ok k.score.accuracy := hscoring ▸ hbalanced.rated
  refine ⟨⟨hbalanced.combo, hbalanced.maxCombo⟩, ?_, ?_, accuracy_nonneg_iff hrated,
    (accuracy_le hrated).1, (accuracy_le hrated).2⟩
  · intro id t l hregister
    obtain ⟨gained, hgain, hsum⟩ := points_of_register hregister
    rw [hscoring] at hgain
    rw [hsum, ← gain_nonneg_iff hgain]
    omega
  · intro hgenerous
    exact ⟨points_le_serve hgenerous hreturns,
      fun call hanswers => points_le_answer (hscoring ▸ hgenerous) hanswers⟩

/-- A perfect hit under the usual rules. -/
theorem score_within_bounds_of_perfect_hit :
    let k := (fresh (.usual : Scoring Float)).serve [.register (.str "a") .perfect]
    k.score.maxCombo ≤ k.score.perfect + k.score.good + k.score.okay ∧ 0 ≤ k.score.points ∧
      Scalar.ofInt 0 ≤ k.score.accuracy ∧ k.score.accuracy ≤ 100.0 := by
  have hreturns : (fresh (.usual : Scoring Float)).Returns [.register (.str "a") .perfect] :=
    ⟨⟨true, by decide +kernel⟩, trivial⟩
  have hgenerous : (.usual : Scoring Float).Generous :=
    ⟨fun t => by cases t <;> decide, by decide +kernel⟩
  obtain ⟨⟨-, hhits⟩, -, hpoints, haccuracy, hhundred, -⟩ := score_within_bounds hreturns
  exact ⟨hhits, (hpoints hgenerous).1, haccuracy.mpr (.inr (.inr (by decide))),
    hhundred (by decide)⟩

/-- Four rules under which a single judgment leaves the bounds: a miss worth less than nothing, a
multiplier below zero, a value of which a hundred times as much is rounded up, and one of which a
hundred times as much is out of range. -/
theorem score_out_of_bounds :
    (let rules : Scoring Float := ⟨⟨100, 75, 50, -50⟩, [], .nil⟩;
      (fresh rules).Returns [.register (.str "a") .miss] ∧
      ((fresh rules).serve [.register (.str "a") .miss]).score.points = -50 ∧
      ((fresh rules).serve [.register (.str "a") .miss]).score.accuracy < Scalar.ofInt 0) ∧
    (let rules : Scoring Float := ⟨.usual, [(1, -1.0)], by simp⟩;
      (fresh rules).Returns [.register (.str "a") .perfect] ∧
      ((fresh rules).serve [.register (.str "a") .perfect]).score.points = -100) ∧
    (let rules : Scoring Float := ⟨⟨360287970189643, 75, 50, 0⟩, [], .nil⟩;
      (fresh rules).Returns [.register (.str "a") .perfect] ∧
      100.0 < ((fresh rules).serve [.register (.str "a") .perfect]).score.accuracy) ∧
    (let rules : Scoring Float := ⟨⟨10 ^ 307, 75, 50, 0⟩, [], .nil⟩;
      (fresh rules).Returns [.register (.str "a") .perfect] ∧
      100.0 < ((fresh rules).serve [.register (.str "a") .perfect]).score.accuracy) := by
  refine ⟨⟨⟨⟨true, ?_⟩, trivial⟩, ?_, ?_⟩, ⟨⟨⟨true, ?_⟩, trivial⟩, ?_⟩, ⟨⟨⟨true, ?_⟩, trivial⟩, ?_⟩,
    ⟨⟨⟨true, ?_⟩, trivial⟩, ?_⟩⟩ <;> decide +kernel

end Keeper

end Lamella
