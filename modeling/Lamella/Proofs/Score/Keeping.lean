import Lamella.Proofs.Scalar.Exact
import Lamella.Score.Keeper

/-!
# What a registration does

A registration is ignored, fails, or applies one judgment. Which of the three it does is said here
once, so that what is kept in step by judging never has to look into a registration again.

Values of tiers are integers of any size, and points and accuracy are scalars, so that a
registration can fail half-way, with the note already marked. `Scoring.Computes` tells the rules and
the number of notes for which that never happens.

## Main statements

- `Keeper.register_of_new`: the judgment of a note that was not judged is applied.
- `Keeper.isJudged_apply`, `Keeper.count_apply`: what applying a judgment changes.
- `Scoring.computes_rat`: exact scalars compute every score.
-/

namespace Lamella

variable {R : Type}

/-! ## §1 Counting -/

namespace Score

@[simp] theorem count_advance (s : Score R) (t u : Tier) : (s.advance t).count u = s.count u := by
  unfold advance
  split <;> cases u <;> rfl

theorem count_bump (s : Score R) (t u : Tier) :
    (s.bump t).count u = s.count u + if t = u then 1 else 0 := by
  cases t <;> cases u <;> rfl

/-- The judged notes are those of the four tiers. -/
theorem judged_eq_sum (s : Score R) :
    s.judged = s.count .perfect + s.count .good + s.count .okay + s.count .miss := rfl

end Score

variable [Scalar R]

/-! ## §2 Ids -/

namespace Song

/-- An id is the same as itself just if it can tell notes apart. -/
theorem sameId_self (a : Value R) : sameId a a = isIdentifying a := by
  cases a <;> simp [sameId, idNumber?, isIdentifying]

theorem sameId_comm (a b : Value R) : sameId a b = sameId b a := by
  cases a <;> cases b <;> simp [sameId, idNumber?, Bool.beq_comm]

/-- Ids that are the same are the same as the same ids. -/
theorem sameId_congr {a b : Value R} (h : sameId a b = true) (x : Value R) :
    sameId a x = sameId b x := by
  unfold sameId at h
  split at h
  · rw [eq_of_beq h]
  · rfl
  · split at h
    · rename_i q r hq hr
      obtain rfl : q = r := eq_of_beq h
      -- Of numbers only their value matters
      have hnumber : ∀ {v : Value R}, idNumber? v = some q →
          sameId v x = ((idNumber? x).map (q == ·)).getD false := by
        intro v hv
        cases v with
        | bool | int | num =>
          obtain rfl := Option.some.inj hv
          cases x <;> rfl
        | null | str | list | object => cases hv
      rw [hnumber hq, hnumber hr]
    · cases h

/-- Ids that are told apart are different values. -/
theorem nodup_of_distinct {ids : List (Value R)}
    (hdistinct : ids.Pairwise fun a b => sameId a b = false)
    (hids : ∀ id ∈ ids, isIdentifying id = true) : ids.Nodup := by
  refine List.Pairwise.imp_of_mem ?_ hdistinct
  intro a b ha _ hab heq
  rw [← heq, sameId_self, hids a ha] at hab
  cases hab

end Song

/-! ## §3 Rules that compute -/

namespace Scoring

/-- Rules whose points are scalars for every tier at every combo. -/
def Gains (s : Scoring R) : Prop := ∀ combo t, ∃ points, Keeper.gain s combo t = .ok points

/-- Rules whose accuracy is a scalar as long as no more than so many notes are judged. -/
def Reaches (s : Scoring R) (count : Nat) : Prop :=
  ∀ score : Score R, score.judged ≤ count → ∃ percent, Keeper.accuracy s.worth score = .ok percent

/-- Rules under which registering the judgments of so many notes never fails half-way. -/
structure Computes (s : Scoring R) (count : Nat) : Prop where
  gains : s.Gains
  reaches : s.Reaches count

theorem Computes.mono {s : Scoring R} {few many : Nat} (h : s.Computes many) (hle : few ≤ many) :
    s.Computes few := ⟨h.gains, fun score hscore => h.reaches score (hscore.trans hle)⟩

/-- Before anything is judged every accuracy is a scalar. -/
theorem reaches_zero (s : Scoring R) : s.Reaches 0 := by
  intro score hscore
  exact ⟨100.0, if_pos (Nat.le_zero.mp hscore)⟩

end Scoring

theorem Value.scalarOfInt_rat (n : Int) : (Value.scalarOfInt n : Except Fault Rat) = .ok n := rfl

/-- Exact scalars reach every score. -/
theorem Scoring.computes_rat (s : Scoring Rat) (count : Nat) : s.Computes count where
  gains _ _ := ⟨_, rfl⟩
  reaches score _ := by
    unfold Keeper.accuracy
    split_ifs
    · exact ⟨_, rfl⟩
    · exact ⟨_, rfl⟩
    · rw [Value.scalarOfInt_rat, Value.scalarOfInt_rat]
      exact ⟨_, rfl⟩

theorem exists_ok_of_isSome {ε α : Type} {result : Except ε α}
    (h : result.toOption.isSome = true) : ∃ x, result = .ok x := by
  cases result with
  | ok x => exact ⟨x, rfl⟩
  | error fault => cases h

namespace Scoring

/-- The usual rules gain points that are machine numbers. -/
theorem gains_usual : (usual : Scoring Float).Gains := by
  intro combo t
  -- A combo of any length has one of five multipliers
  have hmultiplier : (usual : Scoring Float).multiplier combo ∈
      ([1.0, 1.5, 2.0, 3.0, 4.0] : List Float) := by
    simp only [multiplier, usual, usualThresholds, List.foldl_cons, List.foldl_nil]
    split_ifs <;> simp
  have hall : ∀ m ∈ ([1.0, 1.5, 2.0, 3.0, 4.0] : List Float), ((do
      let worth : Float ← Value.scalarOfInt (Worth.usual.of t)
      (Scalar.floor (worth * m + 0.5)).mapError Fault.ofGap)
        : Except Fault Int).toOption.isSome = true := by
    cases t <;> decide +kernel
  exact exists_ok_of_isSome (hall _ hmultiplier)

/-- The usual rules reach the accuracy of a single note. -/
theorem reaches_one_usual : (usual : Scoring Float).Reaches 1 := by
  intro score hscore
  obtain ⟨points, combo, most, perfect, good, okay, miss, percent⟩ := score
  have hcount : perfect + good + okay + miss ≤ 1 := hscore
  -- The accuracy looks only at how often each tier was counted
  have hcases : (perfect, good, okay, miss) ∈
      [(0, 0, 0, 0), (1, 0, 0, 0), (0, 1, 0, 0), (0, 0, 1, 0), (0, 0, 0, 1)] := by
    simp only [List.mem_cons, Prod.mk.injEq, List.not_mem_nil, or_false]
    omega
  have hall : ∀ x ∈ [(0, 0, 0, 0), (1, 0, 0, 0), (0, 1, 0, 0), (0, 0, 1, 0), (0, 0, 0, 1)],
      (Keeper.accuracy (Scoring.usual : Scoring Float).worth
        (⟨0, 0, 0, x.1, x.2.1, x.2.2.1, x.2.2.2, 0.0⟩ : Score Float)).toOption.isSome = true := by
    decide +kernel
  exact exists_ok_of_isSome (hall _ hcases)

end Scoring

/-! ## §4 Registering -/

/-- Nothing is found on bare shelves. -/
theorem Shelves.any_bare {α : Type} (p : α → Bool) (n : Nat) : any p n bare = false := by
  have hbare : ∀ bits n, anyAt p bits n bare = false := by
    intro bits
    induction bits with
    | zero => exact fun _ => rfl
    | succ bits ih => intro n; simp [anyAt, even, odd, bare, ← ih (n / 2)]
  exact hbare usualBits n

namespace Keeper

theorem isJudged_fresh (scoring : Scoring R) (id : Value R) :
    (fresh scoring).isJudged id = false := Shelves.any_bare ..

/-- A keeper that has applied the judgment of a note, worth so many points, after which the accuracy
is the given one. -/
def apply (k : Keeper R) (id : Value R) (t : Tier) (points : Int) (percent : R) : Keeper R :=
  let score := k.score.advance t
  { k with
    judged := k.judged.put (Song.idCode id) id
    score := { ({ score with points := score.points + points } : Score R).bump t with
      accuracy := percent } }

section Apply

variable (k : Keeper R) (id : Value R) (t : Tier) (points : Int) (percent : R)

/-- After a judgment the judged notes are those before and the one with the id of the judgment. -/
theorem isJudged_apply (x : Value R) :
    (k.apply id t points percent).isJudged x = (Song.sameId x id || k.isJudged x) := by
  unfold isJudged apply
  dsimp only
  -- The id is looked up at the place of its code, which ids that are the same share
  by_cases hsame : Song.sameId x id = true
  · rw [Song.idCode_eq_of_sameId hsame, Shelves.any_put_self]
  · have hother : Song.sameId x id = false := by simpa using hsame
    rw [Shelves.any_put_of_not _ _ hother, hother, Bool.false_or]

/-- A judgment counts for its tier. -/
theorem count_apply (u : Tier) :
    (k.apply id t points percent).score.count u = k.score.count u + if t = u then 1 else 0 := by
  have hbump := Score.count_bump
    ({ k.score.advance t with points := (k.score.advance t).points + points } : Score R) t u
  have hadvance : ({ k.score.advance t with points := (k.score.advance t).points + points }
      : Score R).count u = k.score.count u := by
    rw [← Score.count_advance k.score t u]
    cases u <;> rfl
  rw [hadvance] at hbump
  rw [← hbump]
  cases u <;> rfl

theorem judged_apply : (k.apply id t points percent).score.judged = k.score.judged + 1 := by
  simp only [Score.judged_eq_sum, count_apply]
  cases t <;> simp <;> omega

end Apply

/-- A frozen keeper ignores every judgment. -/
theorem register_of_frozen {k : Keeper R} (hfrozen : k.frozen = true) (id : Value R) (t : Tier) :
    k.register id t = (.ok false, k) := by simp [register, hfrozen]

/-- What registers a judgment is not frozen. -/
theorem frozen_of_register {k l : Keeper R} {id : Value R} {t : Tier}
    (h : k.register id t = (.ok true, l)) : k.frozen = false := by
  refine Bool.eq_false_iff.mpr fun hfrozen => ?_
  rw [register_of_frozen hfrozen] at h
  cases h

/-- An id that cannot tell notes apart is refused. -/
theorem register_of_unidentifying {k : Keeper R} (hopen : k.frozen = false) {id : Value R}
    (hid : Song.isIdentifying id = false) (t : Tier) :
    k.register id t = (.error .wrongShape, k) := by simp [register, hopen, checkJudged, hid]

/-- A note that was judged is not judged again. -/
theorem register_of_judged {k : Keeper R} (hopen : k.frozen = false) {id : Value R}
    (hid : Song.isIdentifying id = true) (hjudged : k.isJudged id = true) (t : Tier) :
    k.register id t = (.ok false, k) := by simp [register, hopen, checkJudged, hid, hjudged]

/-- The judgment of a note that was not judged is applied, under rules that compute. -/
theorem register_of_new {k : Keeper R} (hopen : k.frozen = false) {id : Value R}
    (hid : Song.isIdentifying id = true) (hnew : k.isJudged id = false)
    (hrules : k.scoring.Computes (k.score.judged + 1)) (t : Tier) :
    ∃ points percent, k.register id t = (.ok true, k.apply id t points percent) := by
  -- Points and accuracy are both computed, so the registration goes through to its end
  obtain ⟨points, hpoints⟩ := hrules.gains (k.score.advance t).combo t
  obtain ⟨percent, hpercent⟩ := hrules.reaches
    (k.apply id t points (Scalar.ofInt 0)).score (judged_apply ..).le
  have haccuracy : accuracy k.scoring.worth
      (({ k.score.advance t with points := (k.score.advance t).points + points }
        : Score R).bump t) = .ok percent := by
    rw [← hpercent]
    -- The accuracy of a score does not depend on the one that it had before
    cases t <;> rfl
  have hcheck : k.checkJudged id = .ok false := by rw [checkJudged, if_pos hid, hnew]
  refine ⟨points, percent, ?_⟩
  unfold register
  rw [if_neg (by simp [hopen]), hcheck]
  simp only [hpoints, haccuracy]
  rfl

/-- The accuracy of a keeper is that of its score. -/
def IsRated (k : Keeper R) : Prop := accuracy k.scoring.worth k.score = .ok k.score.accuracy

theorem isRated_fresh (scoring : Scoring R) : (fresh scoring).IsRated := rfl

/-- What registers a judgment computes the accuracy anew. -/
theorem isRated_of_register {k l : Keeper R} {id : Value R} {t : Tier}
    (h : k.register id t = (.ok true, l)) : l.IsRated := by
  unfold register at h
  split at h
  · cases h
  · split at h
    · cases h
    · cases h
    · dsimp only at h
      split at h
      · cases h
      · split at h
        · cases h
        · rename_i percent haccuracy
          cases h
          exact haccuracy

/-- A registration never changes the rules, nor whether the score is frozen. -/
theorem register_frame (k : Keeper R) (id : Value R) (t : Tier) :
    (k.register id t).2.scoring = k.scoring ∧ (k.register id t).2.frozen = k.frozen := by
  unfold register
  split_ifs
  · exact ⟨rfl, rfl⟩
  · cases k.checkJudged id with
    | error fault => exact ⟨rfl, rfl⟩
    | ok judged =>
      cases judged with
      | true => exact ⟨rfl, rfl⟩
      | false =>
        dsimp only
        split
        · exact ⟨rfl, rfl⟩
        · split <;> exact ⟨rfl, rfl⟩

omit [Scalar R] in
theorem with_frozen {k : Keeper R} {frozen : Bool} (h : k.frozen = frozen) :
    { k with frozen } = k := by
  cases h
  rfl

/-- A keeper after registering judgments in order. -/
def registerAll (k : Keeper R) (judgments : List (Value R × Tier)) : Keeper R :=
  judgments.foldl (fun k j => (k.register j.1 j.2).2) k

theorem registerAll_append (k : Keeper R) (xs ys : List (Value R × Tier)) :
    k.registerAll (xs ++ ys) = (k.registerAll xs).registerAll ys := List.foldl_append

theorem registerAll_frame (k : Keeper R) (judgments : List (Value R × Tier)) :
    (k.registerAll judgments).scoring = k.scoring ∧
      (k.registerAll judgments).frozen = k.frozen := by
  induction judgments generalizing k with
  | nil => exact ⟨rfl, rfl⟩
  | cons j rest ih =>
    obtain ⟨hscoring, hfrozen⟩ := register_frame k j.1 j.2
    obtain ⟨hscoring', hfrozen'⟩ := ih (k.register j.1 j.2).2
    exact ⟨hscoring'.trans hscoring, hfrozen'.trans hfrozen⟩

end Keeper

end Lamella
