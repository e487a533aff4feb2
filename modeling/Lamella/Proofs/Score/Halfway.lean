import Lamella.Proofs.Score.Keeping

/-!
# Registrations that stop half-way

A registration marks its note and moves the combo on before it computes what the judgment is worth.
The points or the accuracy may be beyond the scalars; then the registration stops where it stands,
and what it has done by then is not taken back. The note counts as judged from then on, so that a
second try is ignored like a repeat.

## Main definitions

- `Keeper.mark`, `Keeper.credit`: the two stages of a registration before its last one.
- `Keeper.Affords`: points and accuracy of one more judgment are scalars.
- `Keeper.Stopped`: what a registration leaves behind that stopped half-way.

## Main statements

- `Keeper.register_stages`: where the registration of a note stops that was not judged.
- `Keeper.isJudged_register`: a registration judges its note, even where it stops half-way.
- `Keeper.register_fails_iff`: which registrations fail.
- `Keeper.unchanged_by_failure_iff`: which of them leave the keeper as it was.
-/

namespace Lamella.Keeper

variable {R : Type} [Scalar R]

/-! ## §1 The stages of a registration -/

/-- A keeper that has marked a note and moved the combo on. -/
def mark (k : Keeper R) (id : Value R) (t : Tier) : Keeper R :=
  { k with judged := k.judged.put (Song.idCode id) id, score := k.score.advance t }

/-- A keeper that has then added the points and counted the judgment. -/
def credit (k : Keeper R) (t : Tier) (points : Int) : Keeper R :=
  { k with score := ({ k.score with points := k.score.points + points } : Score R).bump t }

/-- Points and accuracy of one more judgment are scalars. -/
def Affords (k : Keeper R) (t : Tier) : Prop :=
  (∃ points, gain k.scoring (k.score.advance t).combo t = .ok points) ∧
    ∃ percent, accuracy k.scoring.worth ((k.score.advance t).bump t) = .ok percent

section Stages

variable (k : Keeper R) (id : Value R) (t : Tier) (points : Int)

/-- After a mark the judged notes are those before and the marked one. -/
theorem isJudged_mark (x : Value R) :
    (k.mark id t).isJudged x = (Song.sameId x id || k.isJudged x) :=
  isJudged_apply k id t 0 (Scalar.ofInt 0) x

/-- The accuracy looks at the counters only, and not at the points. -/
theorem accuracy_credit : accuracy k.scoring.worth ((k.mark id t).credit t points).score =
    accuracy k.scoring.worth ((k.score.advance t).bump t) := by
  cases t <;> rfl

omit [Scalar R]

theorem advance_combo (s : Score R) :
    (s.advance t).combo = (if t.isHit then s.combo + 1 else 0) ∧
      (s.advance t).maxCombo =
        if t.isHit then max s.maxCombo (s.combo + 1) else s.maxCombo := by
  cases t <;> exact ⟨rfl, rfl⟩

theorem credit_score :
    (k.credit t points).score.combo = k.score.combo ∧
      (k.credit t points).score.maxCombo = k.score.maxCombo ∧
      (k.credit t points).score.points = k.score.points + points ∧
      (k.credit t points).score.accuracy = k.score.accuracy := by
  cases t <;> exact ⟨rfl, rfl, rfl, rfl⟩

theorem count_credit (u : Tier) :
    (k.credit t points).score.count u = k.score.count u + if t = u then 1 else 0 := by
  cases t <;> cases u <;> rfl

end Stages

/-- **Where a registration stops.** That of a note which was not judged stops after the mark if the
points are no scalar, and before the accuracy if that is none; else it goes through. -/
theorem register_stages {k : Keeper R} (hopen : k.frozen = false) {id : Value R}
    (hid : Song.isIdentifying id = true) (hnew : k.isJudged id = false) (t : Tier) :
    (∃ fault, gain k.scoring (k.score.advance t).combo t = .error fault ∧
      k.register id t = (.error fault, k.mark id t)) ∨
    (∃ points fault, gain k.scoring (k.score.advance t).combo t = .ok points ∧
      accuracy k.scoring.worth ((k.score.advance t).bump t) = .error fault ∧
      k.register id t = (.error fault, (k.mark id t).credit t points)) ∨
    (∃ points percent, gain k.scoring (k.score.advance t).combo t = .ok points ∧
      accuracy k.scoring.worth ((k.score.advance t).bump t) = .ok percent ∧
      k.register id t = (.ok true, k.apply id t points percent)) := by
  have hcheck : k.checkJudged id = .ok false := by rw [checkJudged, if_pos hid, hnew]
  have hthawed : ¬ k.frozen = true := by simp [hopen]
  unfold register
  rw [if_neg hthawed, hcheck]
  dsimp only
  cases hgain : gain k.scoring (k.score.advance t).combo t with
  | error fault => exact .inl ⟨fault, rfl, rfl⟩
  | ok points =>
    right
    have hcredit := accuracy_credit k id t points
    unfold credit mark at hcredit
    dsimp only at hcredit ⊢
    rw [hcredit]
    cases haccuracy : accuracy k.scoring.worth ((k.score.advance t).bump t) with
    | error fault => exact .inl ⟨points, fault, rfl, rfl, rfl⟩
    | ok percent => exact .inr ⟨points, percent, rfl, rfl, rfl⟩

/-! ## §2 What a registration judges -/

/-- Whether a note was judged is the same for ids that are the same. -/
theorem isJudged_congr {k : Keeper R} {x id : Value R} (h : Song.sameId x id = true) :
    k.isJudged x = k.isJudged id := by
  unfold isJudged
  rw [Song.idCode_eq_of_sameId h, funext (Song.sameId_congr h)]

/-- **A registration judges its note**, whether it goes through or stops half-way, and no other. -/
theorem isJudged_register {k : Keeper R} (hopen : k.frozen = false) {id : Value R}
    (hid : Song.isIdentifying id = true) (t : Tier) (x : Value R) :
    (k.register id t).2.isJudged x = (Song.sameId x id || k.isJudged x) := by
  cases hjudged : k.isJudged id with
  | true =>
    rw [register_of_judged hopen hid hjudged]
    cases hsame : Song.sameId x id with
    | true => rw [isJudged_congr hsame, hjudged, Bool.true_or]
    | false => rw [Bool.false_or]
  | false =>
    rcases register_stages hopen hid hjudged t with
      ⟨fault, -, hregister⟩ | ⟨points, fault, -, -, hregister⟩ |
        ⟨points, percent, -, -, hregister⟩ <;> rw [hregister]
    · exact isJudged_mark k id t x
    · exact isJudged_mark k id t x
    · exact isJudged_apply k id t points percent x

/-- What was judged stays judged. -/
theorem isJudged_register_of {k : Keeper R} {x : Value R} (h : k.isJudged x = true) (id : Value R)
    (t : Tier) : (k.register id t).2.isJudged x = true := by
  cases hfrozen : k.frozen with
  | true =>
    rw [register_of_frozen hfrozen]
    exact h
  | false =>
    cases hid : Song.isIdentifying id with
    | false =>
      rw [register_of_unidentifying hfrozen hid]
      exact h
    | true => rw [isJudged_register hfrozen hid, h, Bool.or_true]

/-! ## §3 Which registrations fail -/

/-- **A registration fails** just if the score is not frozen and the id cannot tell notes apart, or
the note was not judged and the keeper cannot afford the judgment. -/
theorem register_fails_iff (k : Keeper R) (id : Value R) (t : Tier) :
    (∃ fault, (k.register id t).1 = .error fault) ↔ k.frozen = false ∧
      (Song.isIdentifying id = false ∨ (k.isJudged id = false ∧ ¬ k.Affords t)) := by
  cases hfrozen : k.frozen with
  | true =>
    rw [register_of_frozen hfrozen]
    simp
  | false =>
    cases hid : Song.isIdentifying id with
    | false =>
      rw [register_of_unidentifying hfrozen hid]
      simp
    | true =>
      cases hjudged : k.isJudged id with
      | true =>
        rw [register_of_judged hfrozen hid hjudged]
        simp
      | false =>
        rcases register_stages hfrozen hid hjudged t with
          ⟨fault, hgain, hregister⟩ | ⟨points, fault, hgain, haccuracy, hregister⟩ |
            ⟨points, percent, hgain, haccuracy, hregister⟩
        all_goals
          rw [hregister]
          simp [Affords, *]

/-! ## §4 What a failure leaves behind -/

/-- What the registration of a judgment leaves behind that stopped half-way: the note is marked and
the combo has gone on; the points and the counter of the tier have, if it was only the accuracy that
could not be computed; and the accuracy is the old one. -/
structure Stopped (k : Keeper R) (id : Value R) (t : Tier) (l : Keeper R) : Prop where
  isJudged : ∀ x, l.isJudged x = (Song.sameId x id || k.isJudged x)
  combo : l.score.combo = if t.isHit then k.score.combo + 1 else 0
  maxCombo : l.score.maxCombo =
    if t.isHit then max k.score.maxCombo (k.score.combo + 1) else k.score.maxCombo
  accuracy : l.score.accuracy = k.score.accuracy
  counted :
    ((∃ fault, gain k.scoring (k.score.advance t).combo t = .error fault) ∧
      l.score.points = k.score.points ∧ ∀ u, l.score.count u = k.score.count u) ∨
    (∃ points, gain k.scoring (k.score.advance t).combo t = .ok points ∧
      l.score.points = k.score.points + points ∧
      ∀ u, l.score.count u = k.score.count u + if t = u then 1 else 0)
  scoring : l.scoring = k.scoring
  frozen : l.frozen = k.frozen

theorem stopped_mark {k : Keeper R} (id : Value R) {t : Tier} {fault : Fault}
    (hgain : gain k.scoring (k.score.advance t).combo t = .error fault) :
    k.Stopped id t (k.mark id t) where
  isJudged := isJudged_mark k id t
  combo := (advance_combo t k.score).1
  maxCombo := (advance_combo t k.score).2
  accuracy := by cases t <;> rfl
  counted := by
    refine .inl ⟨⟨fault, hgain⟩, ?_, Score.count_advance k.score t⟩
    cases t <;> rfl
  scoring := rfl
  frozen := rfl

theorem stopped_credit {k : Keeper R} (id : Value R) {t : Tier} {points : Int}
    (hgain : gain k.scoring (k.score.advance t).combo t = .ok points) :
    k.Stopped id t ((k.mark id t).credit t points) := by
  obtain ⟨hcombo, hmost, hpoints, haccuracy⟩ := credit_score (k.mark id t) t points
  obtain ⟨hcombo', hmost'⟩ := advance_combo t k.score
  exact {
    isJudged := isJudged_mark k id t
    combo := hcombo.trans hcombo'
    maxCombo := hmost.trans hmost'
    accuracy := by
      rw [haccuracy]
      cases t <;> rfl
    counted := by
      refine .inr ⟨points, hgain, ?_, fun u => ?_⟩
      · rw [hpoints]
        cases t <;> rfl
      · rw [count_credit]
        exact congrArg (· + _) (Score.count_advance k.score t u)
    scoring := rfl
    frozen := rfl }

namespace Stopped

variable {k l : Keeper R} {id : Value R} {t : Tier}

/-- The note of a registration that stopped is judged. -/
theorem judged (h : k.Stopped id t l) (hid : Song.isIdentifying id = true) :
    l.isJudged id = true := by
  rw [h.isJudged, Song.sameId_self, hid, Bool.true_or]

/-- So another try is ignored, whatever its tier. -/
theorem retry (h : k.Stopped id t l) (hopen : k.frozen = false)
    (hid : Song.isIdentifying id = true) (u : Tier) : l.register id u = (.ok false, l) :=
  register_of_judged (h.frozen.trans hopen) hid (h.judged hid) u

end Stopped

/-- **Only a failure for the id leaves a keeper as it was.** Whatever the rules, the keeper and the
note: if the registration fails because the id cannot tell notes apart, nothing has changed. Else it
fails since the keeper cannot afford the judgment, and has stopped half-way. The note is judged from
then on, so that no other try is applied. -/
theorem unchanged_by_failure_iff (k : Keeper R) (id : Value R) (t : Tier) {fault : Fault}
    (hfault : (k.register id t).1 = .error fault) :
    let l := (k.register id t).2
    (l = k ↔ Song.isIdentifying id = false) ∧ (k.Affords t → l = k) ∧
      (Song.isIdentifying id = true →
        k.Stopped id t l ∧ ∀ u, l.register id u = (.ok false, l)) := by
  intro l
  obtain ⟨hopen, hcause⟩ := (register_fails_iff k id t).mp ⟨fault, hfault⟩
  cases hid : Song.isIdentifying id with
  | false =>
    have hsame : l = k := congrArg Prod.snd (register_of_unidentifying hopen hid t)
    exact ⟨iff_of_true hsame rfl, fun _ => hsame, fun h => by cases h⟩
  | true =>
    obtain ⟨hnew, hpoor⟩ := hcause.resolve_left (by simp [hid])
    have hstopped : k.Stopped id t l := by
      rcases register_stages hopen hid hnew t with
        ⟨_, hgain, hregister⟩ | ⟨points, _, hgain, -, hregister⟩ | ⟨_, _, -, -, hregister⟩
      · have hmarked : l = k.mark id t := congrArg Prod.snd hregister
        rw [hmarked]
        exact stopped_mark id hgain
      · have hcredited : l = (k.mark id t).credit t points := congrArg Prod.snd hregister
        rw [hcredited]
        exact stopped_credit id hgain
      · rw [hregister] at hfault
        cases hfault
    -- The note is judged afterwards, and was not before
    have hchanged : l ≠ k := by
      intro hsame
      have hjudged := hstopped.judged hid
      rw [hsame, hnew] at hjudged
      cases hjudged
    refine ⟨iff_of_false hchanged (by simp), fun h => absurd h hpoor, fun _ => ?_⟩
    exact ⟨hstopped, hstopped.retry hopen hid⟩

/-! ## §5 Rules beyond the machine numbers -/

/-- Rules under which a second hit in a row is worth infinitely many points. -/
def endless : Scoring Float := ⟨.usual, [(2, 1 / 0)], List.pairwise_singleton _ _⟩

/-- Rules under which a perfect hit is worth almost the largest machine number. -/
def vast : Scoring Float := ⟨⟨10 ^ 308, 75, 50, 0⟩, [], List.Pairwise.nil⟩

/-- A keeper of some rules after one perfect hit. -/
def afterOne (scoring : Scoring Float) : Keeper Float :=
  ((fresh scoring).register (.str "a") .perfect).2

/-- A second hit that is worth infinitely many points fails and stops half-way; a second try for it
is ignored. -/
theorem stopped_by_endless_rules :
    let l := ((afterOne endless).register (.str "b") .perfect).2
    (∃ fault, ((afterOne endless).register (.str "b") .perfect).1 = .error fault) ∧
      (afterOne endless).Stopped (.str "b") .perfect l ∧
      l.register (.str "b") .perfect = (.ok false, l) := by
  intro l
  have hfails : ((afterOne endless).register (.str "b") .perfect).1.toOption = none := by
    decide +kernel
  cases hresult : ((afterOne endless).register (.str "b") .perfect).1 with
  | ok applied =>
    rw [hresult] at hfails
    cases hfails
  | error fault =>
    obtain ⟨-, -, hstopped⟩ := unchanged_by_failure_iff _ _ _ hresult
    exact ⟨⟨fault, rfl⟩, (hstopped rfl).1, (hstopped rfl).2 .perfect⟩

/-- Failures that are not taken back. The second hit at an infinite multiplier fails with the combo
at two and the note judged; that of vast worth also with its points added and itself counted as
perfect. A second try for either is ignored. -/
theorem failures_not_taken_back :
    let first := afterOne endless
    let second := first.register (.str "b") .perfect
    let large := afterOne vast
    let larger := large.register (.str "b") .perfect
    (second.1.toOption = none ∧ first.isJudged (.str "b") = false ∧
      second.2.isJudged (.str "b") = true ∧ first.score.combo = 1 ∧ second.2.score.combo = 2 ∧
      (second.2.register (.str "b") .perfect).1.toOption = some false) ∧
    (larger.1.toOption = none ∧ large.isJudged (.str "b") = false ∧
      larger.2.isJudged (.str "b") = true ∧ large.score.points < larger.2.score.points ∧
      large.score.perfect = 1 ∧ larger.2.score.perfect = 2 ∧
      (larger.2.register (.str "b") .perfect).1.toOption = some false) := by
  decide +kernel

end Lamella.Keeper
