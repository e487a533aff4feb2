import Lamella.Proofs.Scalar.Accuracy
import Lamella.Proofs.Session.Timing

/-!
# Where the edges of the window can part

The edges that the tests of a note's time draw are machine numbers, each computed in its own way.
They part only where a note lies so near to the exact edge of the window that the errors of rounding
decide: away from it by more than a margin, which is a few units in the last place of the numbers
involved, they meet, and so the tests agree.

## Main definitions

- `Session.margin`: how far from the edge of the window rounding can matter.

## Main statements

- `Session.edgesMeet_of_apart`: off the edge of the window by more than the margin, the edges meet.
- `Session.tests_agree_of_apart`: so in every run the tests agree on the notes there.
-/

namespace Lamella.Session

open Machine

variable {F : Type} [Analytic F] {c : Setup F Float} {now time : Float}

/-- How far from the edge of the window rounding can matter, in seconds: three times the error of
rounding a number of the size of both times and the window together. -/
def margin (now time window : ℚ) : ℚ := 3 * ((|now| + |time| + window / 1000) / 2 ^ 53 + leastError)

theorem thousand_exact : IsNumber (1000.0 : Float) ∧ val (1000.0 : Float) = 1000 := by
  have hview : view (1000.0 : Float) =
      .finite .positive (1000 * 2 ^ 43) (-43) (by norm_num) := rfl
  obtain ⟨hnumber, hval⟩ := number_of_view hview
  refine ⟨hnumber, hval.trans ?_⟩
  show ((1000 * 2 ^ 43 : ℕ) : ℚ) * 2 ^ (-43 : ℤ) = 1000
  norm_num

theorem thousand_bounded : Bounded 10 (1000.0 : Float) := by
  refine ⟨thousand_exact.1, ?_⟩
  rw [thousand_exact.2]
  norm_num

/-! ## §1 What the tests compare -/

section

variable (hwindow : Bounded 1000 c.settings.hitWindow)

include hwindow

theorem hitWindow_nonneg : 0 ≤ val c.settings.hitWindow :=
  (val_pos_of_not_le hwindow.number c.settings.hitWindow_pos).le

/-- The window in seconds. -/
theorem hitSeconds_approximates :
    Approximates c.settings.hitSeconds (val c.settings.hitWindow / 1000)
      (val c.settings.hitWindow / 1000 / 2 ^ 53 + leastError) ∧
    Bounded 1000 c.settings.hitSeconds := by
  obtain ⟨hval, hbounded⟩ := div_bounded hwindow thousand_bounded (by norm_num) (by norm_num)
    (by norm_num) (by rw [thousand_exact.2]; norm_num)
  rw [thousand_exact.2] at hval
  have hnear := approximates_of_nearest hbounded.number hval
  rw [abs_of_nonneg (div_nonneg (hitWindow_nonneg hwindow) (by norm_num))] at hnear
  exact ⟨hnear, hbounded⟩

variable (hnow : Bounded 1000 now)

include hnow

/-- The ends of the hit zone. -/
theorem zone_approximates (time : Float) :
    Approximates (now - c.settings.hitSeconds) (val now - val c.settings.hitWindow / 1000)
      (margin (val now) (val time) (val c.settings.hitWindow)) ∧
    Approximates (now + c.settings.hitSeconds) (val now + val c.settings.hitWindow / 1000)
      (margin (val now) (val time) (val c.settings.hitWindow)) := by
  obtain ⟨hseconds, hbounded⟩ := hitSeconds_approximates hwindow
  have hnonneg := hitWindow_nonneg hwindow
  have hleast := leastError_pos
  have hnow0 := abs_nonneg (val now)
  have htime0 := abs_nonneg (val time)
  have herror := hseconds.error
  -- The window in seconds is off by its own rounding already, so each end is off by two errors
  set K := val c.settings.hitWindow / 1000 with hK
  have hK0 : 0 ≤ K := div_nonneg hnonneg (by norm_num)
  have hfar : |val now - K| ≤ |val now| + K := (abs_sub _ _).trans_eq (by rw [abs_of_nonneg hK0])
  have hfar' : |val now + K| ≤ |val now| + K :=
    (abs_add_le _ _).trans_eq (by rw [abs_of_nonneg hK0])
  obtain ⟨hsub, hsubBounded⟩ := sub_bounded hnow hbounded (by norm_num) (by norm_num)
  obtain ⟨hadd, haddBounded⟩ := add_bounded hnow hbounded (by norm_num) (by norm_num)
  have hbefore : |val now - val c.settings.hitSeconds - (val now - K)| ≤
      K / 2 ^ 53 + leastError := by
    rwa [sub_sub_sub_cancel_left, abs_sub_comm]
  have hahead : |val now + val c.settings.hitSeconds - (val now + K)| ≤
      K / 2 ^ 53 + leastError := by
    rwa [add_sub_add_left_eq_sub]
  unfold margin
  rw [← hK]
  constructor
  · refine (approximates_of_near hsubBounded.number hsub hbefore).mono ?_
    linarith
  · refine (approximates_of_near haddBounded.number hadd hahead).mono ?_
    linarith

end

section

variable (hnow : Bounded 1000 now) (htime : Bounded 1000 time)

include hnow htime

/-- How late a note is. -/
theorem lateness_approximates :
    Approximates (now - time) (val now - val time)
      ((|val now| + |val time|) / 2 ^ 53 + leastError) ∧ Bounded 1001 (now - time) := by
  obtain ⟨hval, hbounded⟩ := sub_bounded hnow htime (by norm_num) (by norm_num)
  refine ⟨(approximates_of_nearest hbounded.number hval).mono ?_, hbounded⟩
  linarith [abs_sub (val now) (val time)]

/-- How far a note is off, in milliseconds. -/
theorem distance_approximates {window : ℚ} (hwindow : 0 ≤ window) :
    Approximates (Scalar.abs ((now - time) * 1000.0)) (|val now - val time| * 1000)
      (margin (val now) (val time) window * 1000) := by
  obtain ⟨hlate, hbounded⟩ := lateness_approximates hnow htime
  obtain ⟨hval, hmulBounded⟩ := mul_bounded hbounded thousand_bounded (by norm_num) (by norm_num)
    (by norm_num) (by norm_num)
  obtain ⟨hnumber, habs⟩ := val_abs hmulBounded.number
  have hfar := abs_sub (val now) (val time)
  have hnow0 := abs_nonneg (val now)
  have htime0 := abs_nonneg (val time)
  have hleast := leastError_pos
  -- Milliseconds magnify the error of the difference, and are rounded once more
  have herror : |val (now - time) * val 1000.0 - (val now - val time) * 1000| ≤
      ((|val now| + |val time|) / 2 ^ 53 + leastError) * 1000 := by
    rw [thousand_exact.2, ← sub_mul, abs_mul, abs_of_pos (by norm_num : (0 : ℚ) < 1000)]
    exact mul_le_mul_of_nonneg_right hlate.error (by norm_num)
  have hmul := (approximates_of_near hmulBounded.number hval herror).error
  rw [abs_mul, abs_of_pos (by norm_num : (0 : ℚ) < 1000)] at hmul
  refine ⟨hnumber, ?_⟩
  unfold margin
  calc |val (Scalar.abs ((now - time) * 1000.0)) - |val now - val time| * 1000|
      = |(|val ((now - time) * 1000.0)| - |(val now - val time) * 1000|)| := by
        rw [habs, abs_mul _ (1000 : ℚ), abs_of_pos (by norm_num : (0 : ℚ) < 1000)]
    _ ≤ |val ((now - time) * 1000.0) - (val now - val time) * 1000| :=
        abs_abs_sub_abs_le_abs_sub _ _
    _ ≤ 3 * ((|val now| + |val time| + window / 1000) / 2 ^ 53 + leastError) * 1000 := by
        linarith

end

/-! ## §2 Off the edge -/

/-- Off the edge of the window by more than the margin the edges meet. -/
theorem edgesMeet_of_apart (hwindows : c.windows.hit = c.settings.hitWindow)
    (hnow : Bounded 1000 now) (htime : Bounded 1000 time)
    (hwindow : Bounded 1000 c.settings.hitWindow)
    (hapart : margin (val now) (val time) (val c.settings.hitWindow) <
      |(|val now - val time| - val c.settings.hitWindow / 1000)|) :
    EdgesMeet c now time := by
  obtain ⟨hbefore, hahead⟩ := zone_approximates hwindow hnow time
  obtain ⟨hseconds, -⟩ := hitSeconds_approximates hwindow
  obtain ⟨hlate, -⟩ := lateness_approximates hnow htime
  have hdistance := distance_approximates hnow htime (hitWindow_nonneg hwindow)
  have hself := approximates_self htime.number
  have hwindow0 : 0 ≤ val c.settings.hitWindow / 1000 :=
    div_nonneg (hitWindow_nonneg hwindow) (by norm_num)
  -- What is off the edge of the window is off both ends of the hit zone
  have hbegin := abs_abs_sub_abs_le_abs_sub (val now - val time) (val c.settings.hitWindow / 1000)
  have hend := abs_abs_sub_abs_le_abs_sub (val now - val time) (-(val c.settings.hitWindow / 1000))
  rw [abs_of_nonneg hwindow0] at hbegin
  rw [abs_neg, abs_of_nonneg hwindow0, sub_neg_eq_add] at hend
  -- So each comparison of computed numbers comes out as that of the exact ones
  have hbefore_iff : time < now - c.settings.hitSeconds ↔
      val time < val now - val c.settings.hitWindow / 1000 := by
    refine hself.lt_iff hbefore ?_
    rw [zero_add, abs_sub_comm, sub_right_comm]
    exact hapart.trans_le hbegin
  have hahead_iff : now + c.settings.hitSeconds < time ↔
      val now + val c.settings.hitWindow / 1000 < val time := by
    refine hahead.lt_iff hself ?_
    rw [add_zero, add_sub_right_comm]
    exact hapart.trans_le hend
  have hlate_iff : c.settings.hitSeconds < now - time ↔
      val c.settings.hitWindow / 1000 < val now - val time := by
    have hsmall : val c.settings.hitWindow / 1000 / 2 ^ 53 + leastError +
        ((|val now| + |val time|) / 2 ^ 53 + leastError) ≤
          margin (val now) (val time) (val c.settings.hitWindow) := by
      unfold margin
      linarith [abs_nonneg (val now), abs_nonneg (val time), leastError_pos]
    refine hseconds.lt_iff hlate (hsmall.trans_lt ?_)
    rw [abs_sub_comm]
    exact hapart.trans_le hbegin
  have hdistance_iff : Scalar.abs ((now - time) * 1000.0) ≤ c.settings.hitWindow ↔
      |val now - val time| * 1000 ≤ val c.settings.hitWindow := by
    refine hdistance.le_iff (approximates_self hwindow.number) ?_
    calc margin (val now) (val time) (val c.settings.hitWindow) * 1000 + 0
        < |(|val now - val time| - val c.settings.hitWindow / 1000)| * 1000 := by linarith
      _ = |(|val now - val time| * 1000 - val c.settings.hitWindow)| := by
          rw [← abs_of_pos (by norm_num : (0 : ℚ) < 1000), ← abs_mul, sub_mul,
            abs_of_pos (by norm_num : (0 : ℚ) < 1000), div_mul_cancel₀ _ (by norm_num)]
  constructor
  · right
    rw [hbefore_iff, hlate_iff]
    constructor <;> intro h <;> linarith
  · unfold MeetsTiers
    rw [hbefore_iff, hahead_iff, hwindows, hdistance_iff, ← le_div_iff₀ (by norm_num), abs_le]
    constructor
    · rintro ⟨hnotbefore, hnotahead⟩
      constructor <;> linarith
    · rintro ⟨hearly, hdue⟩
      constructor <;> linarith

/-- **The tests agree on every note off the edge.** In every session that a run reaches and that is
not finished, the tests agree on each note that was not judged and whose distance from the time that
is heard differs from the window by more than the margin. -/
theorem tests_agree_of_apart (hgains : c.scoring.Gains)
    (hwindows : c.windows.hit = c.settings.hitWindow) (hwindow : Bounded 1000 c.settings.hitWindow)
    (events : List (Float × Event F Float))
    (hstarted : ∀ started song, (started, Event.start song) ∈ events →
      c.Plays song ∧ song.InOrder)
    (hgoing : ((fresh c).run c events).phase ≠ .finished) :
    let s := (fresh c).run c events
    ∀ n ∈ s.notes, s.keeper.isJudged n.id = false →
      Bounded 1000 (s.inputTime c) → Bounded 1000 n.time →
      margin (val (s.inputTime c)) (val n.time) (val c.settings.hitWindow) <
        |(|val (s.inputTime c) - val n.time| - val c.settings.hitWindow / 1000)| →
      s.TestsAgree c n := by
  intro s n hn hnew hnow htime hapart
  have hs : s.Sound c := sound_run hgains fun started song hmem => (hstarted started song hmem).1
  have horder := inOrder_of_run (c := c) fun started song hmem => (hstarted started song hmem).2
  have hopen : s.keeper.frozen = false :=
    Bool.eq_false_iff.mpr fun hfrozen => hgoing (hs.steady.frozen_iff.mp hfrozen)
  have hmeet := edgesMeet_of_apart hwindows hnow htime hwindow hapart
  exact (hs.tests_agree_iff hgains hopen horder hn hnew).mpr hmeet

end Lamella.Session
