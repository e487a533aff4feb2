import Lamella.Proofs.Layout.Nearest
import Lamella.Proofs.Session.Scanning

/-!
# The gate for live estimates

A live estimate is matched, or judged in a session, only once it has passed the gate. Its frequency
has to lie in two ranges, so that a frequency that is no number is held back. Clarity and volume are
held back if they are below their thresholds. A scalar that is no number is below nothing and nothing
is below it, so an estimate without a clarity passes, as does every estimate where a threshold is no
number. The tolerance of a match is tested in this way too.

## Main definitions

- `Matcher.Passes`: what the gate asks of an estimate.

## Main statements

- `Matcher.accepts_iff`: the gate accepts just what passes.
- `closestKey_spec`: what is known of a match.
- `passes_of_matched_or_judged`: nothing is matched or judged that does not pass.
-/

namespace Lamella

/-! ## §1 Thresholds -/

/-- A scalar is not below a threshold just if it is at least as large, as far as both are numbers. -/
theorem Scalar.not_lt_iff {R : Type} [Scalar R] [Scalar.Steady R] {a least : R} :
    ¬ a < least ↔ (least ≤ a ↔ least ≤ least ∧ a ≤ a) := by
  constructor
  · exact fun hnot => ⟨Steady.le_refl_of_le, fun h => le_of_not_lt h.1 h.2 hnot⟩
  · intro hiff hlt
    obtain ⟨ha, hleast⟩ := Steady.le_refl_of_le (le_of_lt hlt)
    exact not_le_of_lt hlt (hiff.mpr ⟨hleast, ha⟩)

section

variable {F : Type} [Analytic F] [Scalar.Steady F]

/-- A distance that does not exceed a tolerance is within it, as far as both are numbers. -/
theorem not_add_slack_lt_iff {tolerance x : F} : ¬ tolerance + toleranceSlack < x ↔
    (x ≤ tolerance + toleranceSlack ↔ tolerance ≤ tolerance ∧ x ≤ x) := by
  by_cases htolerance : tolerance ≤ tolerance
  · by_cases hx : x ≤ x
    · rw [add_slack_lt_iff htolerance hx]
      simp [htolerance, hx]
    · have hle : ¬ x ≤ tolerance + toleranceSlack := fun h => hx (Scalar.Steady.le_refl_of_le h).1
      have hlt : ¬ tolerance + toleranceSlack < x := fun h =>
        hx (Scalar.Steady.le_refl_of_le (Scalar.le_of_lt h)).2
      simp [hle, hlt, hx]
  · have hle : ¬ x ≤ tolerance + toleranceSlack := fun h =>
      htolerance (Scalar.Steady.le_refl_of_add (Scalar.Steady.le_refl_of_le h).2)
    simp [hle, htolerance, not_add_slack_lt htolerance]

end

/-! ## §2 Passing the gate -/

section

variable {F : Type} [Analytic F]

/-- What the gate asks of an estimate. Of a clarity or volume it asks to reach the threshold only
where both are numbers. -/
structure Matcher.Passes (m : Matcher F) (p : HeardPitch F) : Prop where
  clarity : m.leastClarity ≤ p.clarity ↔ m.leastClarity ≤ m.leastClarity ∧ p.clarity ≤ p.clarity
  volume : ∀ v ∈ p.volume, m.leastVolume ≤ v ↔ m.leastVolume ≤ m.leastVolume ∧ v ≤ v
  frequency : lowestPlausible ≤ p.frequency ∧ p.frequency ≤ highestPlausible
  inRange : m.layout.range.1 - rangeMargin ≤ p.frequency ∧
    p.frequency ≤ m.layout.range.2 + rangeMargin

/-- **The gate accepts just what passes.** -/
theorem Matcher.accepts_iff [Scalar.Steady F] {m : Matcher F} {p : HeardPitch F} :
    m.accepts p = true ↔ m.Passes p := by
  have hvolume : (!p.volume.any fun v => decide (v < m.leastVolume)) = true ↔
      ∀ v ∈ p.volume, ¬ v < m.leastVolume := by
    cases p.volume <;> simp
  simp only [accepts, Layout.reaches, Bool.and_eq_true, hvolume, Bool.not_eq_true',
    decide_eq_false_iff_not, decide_eq_true_eq, Scalar.not_lt_iff]
  constructor
  · rintro ⟨⟨⟨⟨hclarity, hvolume⟩, hlowest⟩, hhighest⟩, hrange⟩
    exact ⟨hclarity, hvolume, ⟨hlowest, hhighest⟩, hrange⟩
  · rintro ⟨hclarity, hvolume, ⟨hlowest, hhighest⟩, hrange⟩
    exact ⟨⟨⟨⟨hclarity, hvolume⟩, hlowest⟩, hhighest⟩, hrange⟩

/-! ## §3 What is matched and judged -/

/-- The search for the nearest key ends at the match it began with, or at a key with its cents. -/
theorem mem_of_foldlM_nearer {f : F} {keys : List (Key F)} {best : Option (Match F)} {m : Match F}
    (h : keys.foldlM (nearer f) best = .ok (some m)) :
    best = some m ∨ m.key ∈ keys ∧ Pitch.cents f m.key.frequency = .ok m.cents := by
  induction keys generalizing best with
  | nil =>
    cases h
    exact .inl rfl
  | cons k keys ih =>
    rw [List.foldlM_cons] at h
    obtain ⟨next, hnext, hrest⟩ := Except.bind_eq_ok.mp h
    obtain ⟨cents, hcents, hbetter⟩ := Except.bind_eq_ok.mp hnext
    rcases ih hrest with rfl | ⟨hmem, hfound⟩
    · -- The match is that of the first key, or the one before it
      have hcases : m = ⟨k, cents⟩ ∨ best = some m := by
        cases best with
        | none =>
          cases hbetter
          exact .inl rfl
        | some b =>
          dsimp only at hbetter
          split_ifs at hbetter
          · cases hbetter
            exact .inl rfl
          · cases hbetter
            exact .inr rfl
      rcases hcases with rfl | hbest
      · exact .inr ⟨List.mem_cons_self, hcents⟩
      · exact .inl hbest
    · exact .inr ⟨List.mem_cons_of_mem k hmem, hfound⟩

/-- A match is a key of the layout with its cents, which do not exceed the tolerance. -/
theorem closestKey_spec {f tolerance : F} {l : Layout F} {found : Match F}
    (h : closestKey f l tolerance = .ok (some found)) :
    found.key ∈ l.keys ∧ Pitch.cents f found.key.frequency = .ok found.cents ∧
      ¬ tolerance + toleranceSlack < Scalar.abs found.cents := by
  unfold closestKey at h
  split_ifs at h
  · cases h
  · obtain ⟨best, hbest, hnear⟩ := Except.bind_eq_ok.mp h
    obtain ⟨rfl, hwithin⟩ := Option.filter_eq_some_iff.mp (Except.ok.inj hnear)
    rcases mem_of_foldlM_nearer hbest with hnone | ⟨hmem, hcents⟩
    · cases hnone
    · exact ⟨hmem, hcents, by simpa using hwithin⟩

variable {R : Type} [Scalar R]

/-- An estimate that the gate holds back changes nothing in a session. -/
theorem Session.judge_of_refused {c : Setup F R} {p : HeardPitch F}
    (h : c.matcher.accepts p = false) (s : Session F R) : s.judge c p = (.ok none, s) := by
  unfold judge
  rw [if_pos (by simp [h])]

variable [Scalar.Steady F]

/-- **Nothing is matched or judged that does not pass the gate**, and the gate holds nothing else
back. A match is a key of the layout, and its distance is within the tolerance as far as both are
numbers. An estimate that hits a note, or changes anything else in a session, has passed the gate of
the session's settings. -/
theorem passes_of_matched_or_judged :
    (∀ (m : Matcher F) (p : HeardPitch F) (found : Match F), m.matchPitch p = .ok (some found) →
      m.Passes p ∧ found.key ∈ m.layout.keys ∧
        Pitch.cents p.frequency found.key.frequency = .ok found.cents ∧
        (Scalar.abs found.cents ≤ m.tolerance + toleranceSlack ↔
          m.tolerance ≤ m.tolerance ∧ Scalar.abs found.cents ≤ Scalar.abs found.cents)) ∧
    (∀ (c : Setup F R) (p : HeardPitch F) (s : Session F R),
      (∃ hit, (s.judge c p).1 = .ok (some hit)) ∨ (s.judge c p).2 ≠ s → c.matcher.Passes p) ∧
    ∀ (m : Matcher F) (p : HeardPitch F), m.Passes p →
      m.matchPitch p = closestKey p.frequency m.layout m.tolerance := by
  refine ⟨fun m p found h => ?_, fun c p s h => ?_, fun m p h => if_pos (Matcher.accepts_iff.mpr h)⟩
  · unfold Matcher.matchPitch at h
    split_ifs at h with haccepts
    · obtain ⟨hmem, hcents, hnear⟩ := closestKey_spec h
      exact ⟨Matcher.accepts_iff.mp haccepts, hmem, hcents, not_add_slack_lt_iff.mp hnear⟩
    · cases h
  · refine Matcher.accepts_iff.mp ?_
    by_contra hrefused
    rw [s.judge_of_refused (Bool.eq_false_iff.mpr hrefused)] at h
    rcases h with ⟨hit, hhit⟩ | hchanged
    · cases hhit
    · exact hchanged rfl

end

/-! ## §4 Estimates for a single key -/

/-- A matcher for a single key, with the usual thresholds. -/
def Matcher.sole (tolerance : Float) : Matcher Float :=
  ⟨Session.soleKey, tolerance, defaultClarity, defaultVolume⟩

/-- With a tolerance that nothing exceeds, all that passes the gate is matched with the single key. -/
theorem Matcher.exists_match_sole {p : HeardPitch Float} (h : (sole (1 / 0)).accepts p = true)
    (hpos : ¬ p.frequency ≤ Scalar.ofInt 0) :
    ∃ found, (sole (1 / 0)).matchPitch p = .ok (some found) := by
  have hpitched : ∀ k ∈ Session.soleKey.keys, Scalar.isZero k.frequency = false := by
    decide +kernel
  have hcents : ∀ k ∈ Session.soleKey.keys, Pitch.cents p.frequency k.frequency =
      .ok (1200.0 * Analytic.log2 (p.frequency / k.frequency)) :=
    fun k hk => Pitch.cents_of_pitched (hpitched k hk) p.frequency
  have hclosest := closestKey_eq hpos hcents rfl (1 / 0)
  have hunbounded : ¬ (1 / 0 : Float) + toleranceSlack <
      Scalar.abs (1200.0 * Analytic.log2 (p.frequency / 261.6255653005986)) := by
    have hslack : (1 / 0 : Float) + toleranceSlack = 1 / 0 := by decide +kernel
    rw [hslack]
    exact Session.infinite_tolerance.2 _
  rw [if_neg hunbounded] at hclosest
  exact ⟨_, (if_pos h).trans hclosest⟩

/-- In a session on the single key with such a tolerance all that passes the gate hits the only note
of a song that has begun, if the note is in the window then. -/
theorem Session.exists_judge_sole (settings : Settings Float Rat)
    (hunbounded : ∀ x : Float, ¬ settings.tolerance < x) :
    let c := soleSetup settings .usual usualWindows_rat.2
    ¬ 0 < -c.leadIn - c.settings.latencySeconds - c.settings.hitSeconds →
    ¬ -c.leadIn - c.settings.latencySeconds + c.settings.hitSeconds < 0 →
    ∀ p : HeardPitch Float, c.matcher.accepts p = true → ∃ song : Song Rat, song.Made ∧
      ∃ hit, (((fresh c).run c [(0, .start song)]).judge c p).1 = .ok (some hit) := by
  intro c hlow hhigh p haccepts
  let n : Note Rat := soleNote "a" 0 (by decide) (by decide)
  obtain ⟨song, hmade, hnotes⟩ : ∃ song : Song Rat, song.Made ∧ song.notes = [n] :=
    exists_made_sole le_rfl (by norm_num)
  let s := (fresh c).run c [(0, .start song)]
  have hpitched : ∀ k ∈ c.layout.keys, Scalar.isZero k.frequency = false := by
    show ∀ k ∈ soleKey.keys, Scalar.isZero k.frequency = false
    decide +kernel
  obtain ⟨-, cents, hfirst⟩ := firstHit_of_start (n := n) hpitched hunbounded hnotes
    (by show soleKey.has 0; decide) hlow hhigh (fresh c) 0 p
  have hjudge := judge_of_some (s := s) rfl haccepts hfirst
  obtain ⟨points, percent, hrecord⟩ := record_exact (s := s) rfl
    (hitOf c (-c.leadIn - c.settings.latencySeconds) n cents) rfl (Keeper.isJudged_fresh _ _)
  exact ⟨song, hmade, _, by rw [hjudge, hrecord]; rfl⟩

/-- An estimate with a clarity and a volume above the thresholds is matched and hits a note, and so
they are known to reach them, those of a matcher as those of a session. -/
theorem passes_of_clear_estimate :
    let p : HeardPitch Float := ⟨300.0, 0.99, some 0.5, 0⟩
    let m := Matcher.sole (1 / 0)
    let settings : Settings Float Rat := Session.tolerant
      (Session.usualSettings (by decide) Session.usualWindows_rat.1) (1 / 0)
      Session.infinite_tolerance.1
    let c : Setup Float Rat := Session.soleSetup settings .usual Session.usualWindows_rat.2
    (∃ found, m.matchPitch p = .ok (some found) ∧ m.leastClarity ≤ p.clarity ∧
      (∀ v ∈ p.volume, m.leastVolume ≤ v) ∧ found.key ∈ m.layout.keys) ∧
    (∃ song : Song Rat, song.Made ∧
      ∃ hit, (((Session.fresh c).run c [(0, .start song)]).judge c p).1 = .ok (some hit)) ∧
    c.settings.clarity ≤ p.clarity ∧ ∀ v ∈ p.volume, c.settings.volume ≤ v := by
  intro p m settings c
  obtain ⟨hmatched, hjudged, -⟩ := passes_of_matched_or_judged (F := Float) (R := Rat)
  have hvolume : ∀ v ∈ p.volume, m.leastVolume ≤ m.leastVolume ∧ v ≤ v := by
    intro v hv
    cases hv
    decide +kernel
  obtain ⟨found, hfound⟩ := Matcher.exists_match_sole (p := p) (by decide +kernel) (by decide)
  obtain ⟨hpasses, hmem, -⟩ := hmatched m p found hfound
  obtain ⟨song, hmade, hit, hhit⟩ := Session.exists_judge_sole settings
    Session.infinite_tolerance.2 (by decide +kernel) (by decide +kernel) p (by decide +kernel)
  have hgate := hjudged c p _ (.inl ⟨hit, hhit⟩)
  exact ⟨⟨found, hfound, hpasses.clarity.mpr (by decide +kernel),
    fun v hv => (hpasses.volume v hv).mpr (hvolume v hv), hmem⟩, ⟨song, hmade, hit, hhit⟩,
    hgate.clarity.mpr (by decide +kernel), fun v hv => (hgate.volume v hv).mpr (hvolume v hv)⟩

/-- An estimate whose clarity and volume are no numbers is matched and hits a note, although it does
not reach the thresholds. -/
theorem unclear_estimates_pass :
    let p : HeardPitch Float := ⟨300.0, 0 / 0, some (0 / 0), 0⟩
    let m := Matcher.sole (1 / 0)
    (¬ m.leastClarity ≤ p.clarity ∧ (∀ v ∈ p.volume, ¬ m.leastVolume ≤ v) ∧
      ∃ found, m.matchPitch p = .ok (some found)) ∧
    ∃ song : Song Rat, song.Made ∧
      let c : Setup Float Rat := Session.soleSetup (Session.tolerant
        (Session.usualSettings (by decide) Session.usualWindows_rat.1) (1 / 0)
        Session.infinite_tolerance.1) .usual Session.usualWindows_rat.2
      let s := (Session.fresh c).run c [(0, .start song)]
      ¬ c.settings.clarity ≤ p.clarity ∧ ∃ hit, (s.judge c p).1 = .ok (some hit) := by
  intro p m
  constructor
  · exact ⟨by decide +kernel, by decide +kernel,
      Matcher.exists_match_sole (by decide +kernel) (by decide)⟩
  · let settings : Settings Float Rat := Session.tolerant
      (Session.usualSettings (by decide) Session.usualWindows_rat.1) (1 / 0)
      Session.infinite_tolerance.1
    obtain ⟨song, hmade, hit, hhit⟩ := Session.exists_judge_sole settings
      Session.infinite_tolerance.2 (by decide +kernel) (by decide +kernel) p (by decide +kernel)
    exact ⟨song, hmade, by decide +kernel, hit, hhit⟩

end Lamella
