import Lamella.Proofs.Score.Keeping
import Mathlib.Algebra.BigOperators.Fin
import Mathlib.Data.List.Infix
import Mathlib.Data.Rat.Floor

/-!
# The score as a whole

A keeper brings its score up to date with each judgment. Here the score is told at once, from the row
of all calls: which of them count, and what score the tiers of those that count make together. The
numbers are exact.

## Main definitions

- `Keeper.Call`, `Keeper.serve`: calls to a keeper, and the keeper after a row of them.
- `Keeper.effective`: the judgments that count.
- `Tier.closing`: how many hits a row of tiers ends with.
- `Score.Tallies`: the score of a row of tiers.

## Main statements

- `Score.Tallies.append`: a judgment takes the score of a row to that of the row with it.
- `Keeper.Served.register_eq`: a registration counts if it is the first of its id, before any
  freezing.
- `Keeper.score_in_closed_form`: after any calls, the score is that of the judgments that count.
-/

namespace Lamella

/-! ## §1 Rows of tiers -/

namespace Tier

/-- A row of hits. -/
def Streak (block : List Tier) : Prop := ∀ t ∈ block, t.isHit = true

/-- How many hits a row of tiers ends with. -/
def closing (ts : List Tier) : Nat := (ts.reverse.takeWhile isHit).length

theorem closing_append (ts : List Tier) (t : Tier) :
    closing (ts ++ [t]) = if t.isHit then closing ts + 1 else 0 := by
  unfold closing
  rw [List.reverse_append, List.reverse_singleton, List.singleton_append, List.takeWhile_cons]
  split <;> rfl

/-- The hits that a row ends with are its longest end of nothing but hits. -/
theorem closing_isGreatest (ts : List Tier) :
    IsGreatest {n | ∃ block, block <:+ ts ∧ Streak block ∧ block.length = n} (closing ts) := by
  induction ts using List.reverseRecOn with
  | nil =>
    refine ⟨⟨[], List.suffix_rfl, nofun, rfl⟩, ?_⟩
    rintro n ⟨block, hblock, -, rfl⟩
    rw [List.suffix_nil.mp hblock]
    exact le_refl 0
  | append_singleton ts t ih =>
    obtain ⟨⟨best, hbest, hstreak, hlength⟩, hbound⟩ := ih
    rw [closing_append]
    cases ht : t.isHit with
    | false =>
      -- No block of hits reaches beyond the miss at the end
      refine ⟨⟨[], List.nil_suffix, nofun, rfl⟩, ?_⟩
      rintro n ⟨block, hblock, hhits, rfl⟩
      rcases List.suffix_concat_iff.mp hblock with rfl | ⟨front, rfl, -⟩
      · exact le_refl 0
      · have hmiss := hhits t (List.mem_append_right _ List.mem_cons_self)
        rw [ht] at hmiss
        cases hmiss
    | true =>
      rw [if_pos rfl]
      constructor
      · refine ⟨best ++ [t], List.suffix_concat_iff.mpr (.inr ⟨best, rfl, hbest⟩), ?_, ?_⟩
        · intro u hu
          rcases List.mem_append.mp hu with hu | hu
          · exact hstreak u hu
          · rw [List.mem_singleton.mp hu]
            exact ht
        · rw [List.length_append, hlength, List.length_singleton]
      · rintro n ⟨block, hblock, hhits, rfl⟩
        rcases List.suffix_concat_iff.mp hblock with rfl | ⟨front, rfl, hfront⟩
        · exact Nat.zero_le _
        · have hle := hbound ⟨front, hfront, fun u hu => hhits u (List.mem_append_left _ hu), rfl⟩
          rw [List.length_append, List.length_singleton]
          exact Nat.succ_le_succ hle

/-- With one more tier, the longest block of hits is the one before or the one at the end. -/
theorem longest_append {ts : List Tier} {most : Nat} (t : Tier)
    (h : IsGreatest {n | ∃ block, block <:+: ts ∧ Streak block ∧ block.length = n} most) :
    IsGreatest {n | ∃ block, block <:+: ts ++ [t] ∧ Streak block ∧ block.length = n}
      (max most (closing (ts ++ [t]))) := by
  obtain ⟨⟨best, hbest, hstreak, hlength⟩, hbound⟩ := h
  obtain ⟨⟨last, hlast, hhits, hclosing⟩, hends⟩ := closing_isGreatest (ts ++ [t])
  constructor
  · rcases max_choice most (closing (ts ++ [t])) with hmax | hmax
    · rw [hmax]
      exact ⟨best, List.infix_concat_iff.mpr (.inr hbest), hstreak, hlength⟩
    · rw [hmax]
      exact ⟨last, hlast.isInfix, hhits, hclosing⟩
  · rintro n ⟨block, hblock, hblockHits, rfl⟩
    -- A block of the longer row ends with it, or lies in the shorter one
    rcases List.infix_concat_iff.mp hblock with hend | hinside
    · exact le_max_of_le_right (hends ⟨block, hend, hblockHits, rfl⟩)
    · exact le_max_of_le_left (hbound ⟨block, hinside, hblockHits, rfl⟩)

/-- Each tier of a row is counted for itself. -/
theorem length_eq_counts (ts : List Tier) : ts.length =
    ts.count .perfect + ts.count .good + ts.count .okay + ts.count .miss := by
  induction ts with
  | nil => rfl
  | cons t ts ih =>
    simp only [List.length_cons, List.count_cons, ih]
    cases t <;> simp <;> omega

end Tier

/-- What the tiers of a row are worth together, by the counts of each. -/
theorem Worth.sum_of (w : Worth) (ts : List Tier) : (ts.map w.of).sum =
    ts.count .perfect * w.perfect + ts.count .good * w.good + ts.count .okay * w.okay +
      ts.count .miss * w.miss := by
  induction ts with
  | nil => simp
  | cons t ts ih =>
    simp only [List.map_cons, List.sum_cons, List.count_cons, ih]
    cases t <;> simp [Worth.of] <;> ring

/-! ## §2 Points -/

namespace Scoring

/-- The multiplier of the last threshold that a combo reaches, or one. -/
def reached (s : Scoring Rat) (combo : Nat) : Rat :=
  ((s.thresholds.filter fun t => t.1 ≤ (combo : Int)).getLast?.map Prod.snd).getD 1

theorem multiplier_eq_reached (s : Scoring Rat) (combo : Nat) :
    s.multiplier combo = s.reached combo := by
  have hone : (1.0 : Rat) = 1 := by norm_num
  unfold multiplier reached
  rw [hone]
  -- What is folded over the thresholds is that of the last one reached so far
  induction s.thresholds using List.reverseRecOn with
  | nil => rfl
  | append_singleton front t ih =>
    rw [List.foldl_append, List.foldl_cons, List.foldl_nil, List.filter_append, ih]
    by_cases hreach : t.1 ≤ (combo : Int) <;> simp [hreach]

/-- The points that a tier adds with the combo that it makes. -/
def pointsOf (s : Scoring Rat) (t : Tier) (combo : Nat) : Int :=
  ⌊(s.worth.of t : Rat) * s.reached combo + 1 / 2⌋

end Scoring

namespace Keeper

theorem gain_rat (s : Scoring Rat) (t : Tier) (combo : Nat) :
    gain s combo t = .ok (s.pointsOf t combo) := by
  have hhalf : (0.5 : Rat) = 1 / 2 := by norm_num
  unfold gain Scoring.pointsOf
  rw [Value.scalarOfInt_rat, ← Scoring.multiplier_eq_reached, ← hhalf]
  rfl

theorem accuracy_rat (w : Worth) (s : Score Rat) : accuracy w s =
    .ok (if s.judged = 0 then 100 else if w.best ≤ 0 then 0
      else 100 * (s.earned w : Rat) / (s.judged * w.best)) := by
  have hhundred : (100.0 : Rat) = 100 := by norm_num
  have hzero : (0.0 : Rat) = 0 := by norm_num
  unfold accuracy
  rw [Value.scalarOfInt_rat, Value.scalarOfInt_rat, hhundred, hzero]
  split_ifs
  · rfl
  · rfl
  · show Except.ok _ = Except.ok _
    push_cast
    rfl

section Apply

variable {R : Type} [Scalar R] (k : Keeper R) (id : Value R) (t : Tier) (points : Int) (percent : R)

@[simp] theorem combo_apply : (k.apply id t points percent).score.combo =
    if t.isHit then k.score.combo + 1 else 0 := by
  cases t <;> rfl

@[simp] theorem maxCombo_apply : (k.apply id t points percent).score.maxCombo =
    max k.score.maxCombo (k.apply id t points percent).score.combo := by
  cases t
  · rfl
  · rfl
  · rfl
  · exact (Nat.max_zero _).symm

end Apply

/-- What registers a judgment adds the points of its tier, at the combo that it makes. -/
theorem points_of_register {R : Type} [Scalar R] {k l : Keeper R} {id : Value R} {t : Tier}
    (h : k.register id t = (.ok true, l)) :
    ∃ points, gain k.scoring l.score.combo t = .ok points ∧
      l.score.points = k.score.points + points := by
  unfold register at h
  split at h
  · cases h
  · split at h
    · cases h
    · cases h
    · dsimp only at h
      split at h
      · cases h
      · rename_i points hpoints
        split at h
        · cases h
        · cases h
          cases t <;> exact ⟨points, hpoints, rfl⟩

end Keeper

/-! ## §3 The score of a row of tiers -/

/-- The score that a row of tiers makes: the combo is the longest end of hits, the best combo the
longest block of hits; each tier is counted; each adds the points of its value at the combo that it
makes, rounded half up; and the accuracy is what the tiers are worth of what they could be. -/
structure Score.Tallies (scoring : Scoring Rat) (ts : List Tier) (s : Score Rat) : Prop where
  combo : IsGreatest {n | ∃ block, block <:+ ts ∧ Tier.Streak block ∧ block.length = n} s.combo
  maxCombo : IsGreatest {n | ∃ block, block <:+: ts ∧ Tier.Streak block ∧ block.length = n}
    s.maxCombo
  count : ∀ t, s.count t = ts.count t
  points : s.points =
    ∑ i : Fin ts.length, scoring.pointsOf ts[i] (Tier.closing (ts.take (i + 1)))
  accuracy : s.accuracy =
    if ts = [] then 100 else if scoring.worth.best ≤ 0 then 0
    else 100 * ((ts.map scoring.worth.of).sum : Rat) / (ts.length * scoring.worth.best)

namespace Score.Tallies

variable {scoring : Scoring Rat} {ts : List Tier}

theorem fresh (scoring : Scoring Rat) : (Score.fresh : Score Rat).Tallies scoring [] where
  combo := Tier.closing_isGreatest []
  maxCombo := by
    refine ⟨⟨[], List.infix_rfl, nofun, rfl⟩, ?_⟩
    rintro n ⟨block, hblock, -, rfl⟩
    rw [List.infix_nil.mp hblock]
    exact le_refl 0
  count t := by cases t <;> rfl
  points := rfl
  accuracy := by
    show (100.0 : Rat) = _
    rw [if_pos rfl]
    norm_num

theorem combo_eq {s : Score Rat} (h : s.Tallies scoring ts) : s.combo = Tier.closing ts :=
  h.combo.unique (Tier.closing_isGreatest ts)

/-- The points of a row with one more tier. -/
theorem sum_append (f : Tier → List Tier → Int) (ts : List Tier) (t : Tier) :
    ∑ i : Fin (ts ++ [t]).length, f (ts ++ [t])[i] ((ts ++ [t]).take (i + 1)) =
      (∑ i : Fin ts.length, f ts[i] (ts.take (i + 1))) + f t (ts ++ [t]) := by
  have hlength : ts.length + 1 = (ts ++ [t]).length := by simp
  rw [← Fin.sum_congr' _ hlength, Fin.sum_univ_castSucc]
  congr 1
  · refine Finset.sum_congr rfl fun i _ => ?_
    have hi : (i : Nat) < ts.length := i.isLt
    have htake : (ts ++ [t]).take (i + 1) = ts.take (i + 1) := List.take_append_of_le_length hi
    simp [htake]
  · simp [List.take_of_length_le]

/-- **A judgment takes the score of a row to that of the row with it.** -/
theorem append {k : Keeper Rat} (h : k.score.Tallies scoring ts) (hscoring : k.scoring = scoring)
    {id : Value Rat} {t : Tier} {points : Int} {percent : Rat}
    (hregister : k.register id t = (.ok true, k.apply id t points percent)) :
    (k.apply id t points percent).score.Tallies scoring (ts ++ [t]) := by
  have hclosing : (k.apply id t points percent).score.combo = Tier.closing (ts ++ [t]) := by
    rw [Keeper.combo_apply, h.combo_eq, Tier.closing_append]
  have hcount : ∀ u, (k.apply id t points percent).score.count u = (ts ++ [t]).count u := by
    intro u
    rw [Keeper.count_apply, h.count, List.count_append, List.count_singleton]
    simp
  constructor
  case combo =>
    rw [hclosing]
    exact Tier.closing_isGreatest _
  case maxCombo =>
    rw [Keeper.maxCombo_apply, hclosing]
    exact Tier.longest_append t h.maxCombo
  case count => exact hcount
  case points =>
    obtain ⟨gained, hgain, hpoints⟩ := Keeper.points_of_register hregister
    rw [Keeper.gain_rat, hclosing] at hgain
    obtain rfl := Except.ok.inj hgain
    rw [hpoints, h.points, hscoring]
    exact (sum_append (fun u row => scoring.pointsOf u (Tier.closing row)) ts t).symm
  case accuracy =>
    -- Accuracy is computed from the counts, which are those of the row
    have hjudged : (k.apply id t points percent).score.judged = (ts ++ [t]).length := by
      rw [Score.judged_eq_sum, Tier.length_eq_counts]
      simp only [hcount]
    have hearned : (k.apply id t points percent).score.earned scoring.worth =
        ((ts ++ [t]).map scoring.worth.of).sum := by
      rw [Worth.sum_of, ← hcount, ← hcount, ← hcount, ← hcount]
      rfl
    have hrules : (k.apply id t points percent).scoring = scoring := hscoring
    have hrated := Keeper.isRated_of_register hregister
    rw [Keeper.IsRated, Keeper.accuracy_rat, hrules, hjudged, hearned] at hrated
    rw [← Except.ok.inj hrated]
    simp

end Score.Tallies

/-! ## §4 Calls to a keeper -/

namespace Keeper

/-- What can be asked of a keeper. -/
inductive Call (R : Type) where
  | register (id : Value R) (t : Tier)
  | freeze

section Calls

variable {R : Type} [Scalar R]

/-- A keeper after a call. -/
def answer (k : Keeper R) : Call R → Keeper R
  | .register id t => (k.register id t).2
  | .freeze => k.freeze

/-- A keeper after a row of calls. -/
def serve (k : Keeper R) (calls : List (Call R)) : Keeper R := calls.foldl answer k

/-- Whether a call freezes the score. -/
def Call.isFreeze : Call R → Bool
  | .register _ _ => false
  | .freeze => true

/-- Whether the note of an id can still be judged after a call: one that is no freezing, and not of
the same id. -/
def Call.leaves (id : Value R) : Call R → Bool
  | .register other _ => !Song.sameId id other
  | .freeze => false

/-- The judgment that a call adds after others: that of an id which no call before was of, nor was
any call before a freezing. -/
def Call.judgment? (before : List (Call R)) : Call R → Option (Value R × Tier)
  | .register id t =>
    if Song.isIdentifying id && before.all (Call.leaves id) then some (id, t) else none
  | .freeze => none

/-- The judgments that count in a row of calls that come after others. -/
def effectiveFrom (before : List (Call R)) : List (Call R) → List (Value R × Tier)
  | [] => []
  | call :: rest => (call.judgment? before).toList ++ effectiveFrom (before ++ [call]) rest

/-- The judgments that count in a row of calls. -/
def effective (calls : List (Call R)) : List (Value R × Tier) := effectiveFrom [] calls

theorem effective_append (calls : List (Call R)) (call : Call R) :
    effective (calls ++ [call]) = effective calls ++ (call.judgment? calls).toList := by
  -- Whatever came before the row, its last call comes after all the others
  have hfrom : ∀ before, effectiveFrom before (calls ++ [call]) =
      effectiveFrom before calls ++ (call.judgment? (before ++ calls)).toList := by
    induction calls with
    | nil => intro before; simp [effectiveFrom]
    | cons first rest ih => intro before; simp [effectiveFrom, ih]
  exact hfrom []

theorem serve_append (k : Keeper R) (calls : List (Call R)) (call : Call R) :
    k.serve (calls ++ [call]) = (k.serve calls).answer call := by
  simp [serve]

end Calls

/-! ## §5 What calls do -/

/-- After calls a keeper is frozen if one of them froze it, and as long as it is not, it has judged
the ids that they were of, with the score of the judgments that count. -/
structure Served (scoring : Scoring Rat) (calls : List (Call Rat)) (k : Keeper Rat) : Prop where
  scoring_eq : k.scoring = scoring
  frozen : k.frozen = calls.any Call.isFreeze
  judged : k.frozen = false → ∀ id, Song.isIdentifying id = true →
    k.isJudged id = !calls.all (Call.leaves id)
  tallies : k.score.Tallies scoring ((effective calls).map Prod.snd)

namespace Served

variable {scoring : Scoring Rat} {calls : List (Call Rat)} {k : Keeper Rat}

theorem fresh (scoring : Scoring Rat) : (Keeper.fresh scoring).Served scoring [] where
  scoring_eq := rfl
  frozen := rfl
  judged _ id _ := isJudged_fresh scoring id
  tallies := .fresh scoring

/-- A registration that counts is applied. -/
theorem register_of_effective (h : k.Served scoring calls) {id : Value Rat} (t : Tier)
    (hcounts : (Song.isIdentifying id && calls.all (Call.leaves id)) = true) :
    k.frozen = false ∧ ∃ points percent,
      k.register id t = (.ok true, k.apply id t points percent) := by
  obtain ⟨hid, hall⟩ := (Bool.and_eq_true_iff).mp hcounts
  -- No call before was a freezing, since that would leave no note to be judged
  have hopen : k.frozen = false := by
    rw [h.frozen, List.any_eq_false]
    intro call hcall
    have hleaves := List.all_eq_true.mp hall call hcall
    cases call with
    | register other u => simp [Call.isFreeze]
    | freeze => cases hleaves
  have hnew : k.isJudged id = false := by rw [h.judged hopen id hid, hall, Bool.not_true]
  exact ⟨hopen, register_of_new hopen hid hnew (k.scoring.computes_rat _) t⟩

/-- A registration that does not count changes nothing, and says so unless its id cannot tell notes
apart. -/
theorem register_of_not_effective (h : k.Served scoring calls) {id : Value Rat} (t : Tier)
    (hnot : (Song.isIdentifying id && calls.all (Call.leaves id)) = false) :
    k.register id t =
      (if calls.any Call.isFreeze || Song.isIdentifying id then .ok false else .error .wrongShape,
        k) := by
  rw [← h.frozen]
  cases hfrozen : k.frozen with
  | true =>
    rw [register_of_frozen hfrozen]
    rfl
  | false =>
    cases hid : Song.isIdentifying id with
    | false =>
      rw [register_of_unidentifying hfrozen hid]
      rfl
    | true =>
      rw [hid, Bool.true_and] at hnot
      have hjudged : k.isJudged id = true := by rw [h.judged hfrozen id hid, hnot, Bool.not_false]
      rw [register_of_judged hfrozen hid hjudged]
      rfl

/-- **What a registration returns after calls**: whether its judgment counts, unless its id cannot
tell notes apart and the score still changes. -/
theorem register_eq (h : k.Served scoring calls) (id : Value Rat) (t : Tier) :
    (k.register id t).1 =
      if calls.any Call.isFreeze || Song.isIdentifying id then
        .ok (Song.isIdentifying id && calls.all (Call.leaves id))
      else .error .wrongShape := by
  cases hcounts : Song.isIdentifying id && calls.all (Call.leaves id) with
  | true =>
    obtain ⟨-, points, percent, hregister⟩ := h.register_of_effective t hcounts
    have hid : Song.isIdentifying id = true := (Bool.and_eq_true_iff.mp hcounts).1
    rw [hregister, hid, Bool.or_true]
    rfl
  | false => rw [h.register_of_not_effective t hcounts]

/-- A registration keeps what is said of a keeper after calls. -/
theorem register (h : k.Served scoring calls) (id : Value Rat) (t : Tier) :
    (k.register id t).2.Served scoring (calls ++ [.register id t]) := by
  obtain ⟨hscoring, hfrozen⟩ := register_frame k id t
  have hany : (calls ++ [Call.register id t]).any Call.isFreeze = calls.any Call.isFreeze := by
    simp [Call.isFreeze]
  have hall : ∀ x, (calls ++ [Call.register id t]).all (Call.leaves x) =
      (calls.all (Call.leaves x) && !Song.sameId x id) := by simp [Call.leaves]
  cases hcounts : Song.isIdentifying id && calls.all (Call.leaves id) with
  | true =>
    obtain ⟨hopen, points, percent, hregister⟩ := h.register_of_effective t hcounts
    have hlast : (Call.register id t).judgment? calls = some (id, t) := if_pos hcounts
    refine ⟨hscoring.trans h.scoring_eq, (hfrozen.trans h.frozen).trans hany.symm, ?_, ?_⟩
    · intro _ x hx
      rw [hregister, isJudged_apply, h.judged hopen x hx, hall, Bool.not_and, Bool.not_not,
        Bool.or_comm]
    · rw [effective_append, hlast, List.map_append]
      rw [hregister]
      exact h.tallies.append h.scoring_eq hregister
  | false =>
    have hlast : (Call.register id t).judgment? calls = none := if_neg (by simp [hcounts])
    have hsame : (k.register id t).2 = k := by rw [h.register_of_not_effective t hcounts]
    rw [hsame]
    refine ⟨h.scoring_eq, h.frozen.trans hany.symm, ?_, ?_⟩
    · intro hopen x hx
      rw [h.judged hopen x hx, hall]
      -- The only new id is one that was not left before either
      cases hxid : Song.sameId x id with
      | false => simp
      | true =>
        have hid : Song.isIdentifying id = true := by
          rw [← Song.sameId_self, ← Song.sameId_congr hxid]
          exact hxid
        have hleaves : calls.all (Call.leaves x) = calls.all (Call.leaves id) := by
          congr 1
          funext call
          cases call with
          | register other u => rw [Call.leaves, Call.leaves, Song.sameId_congr hxid]
          | freeze => rfl
        rw [hid, Bool.true_and] at hcounts
        rw [hleaves, hcounts]
        rfl
    · rw [effective_append, hlast, Option.toList_none, List.append_nil]
      exact h.tallies

/-- Freezing keeps what is said of a keeper after calls. -/
theorem freeze (h : k.Served scoring calls) : k.freeze.Served scoring (calls ++ [.freeze]) where
  scoring_eq := h.scoring_eq
  frozen := by simp [Keeper.freeze, Call.isFreeze]
  judged hopen := by cases hopen
  tallies := by
    show k.score.Tallies scoring _
    rw [effective_append]
    simpa [Call.judgment?] using h.tallies

end Served

/-- After any calls a keeper is as is said of it. -/
theorem served_serve (scoring : Scoring Rat) (calls : List (Call Rat)) :
    ((Keeper.fresh scoring).serve calls).Served scoring calls := by
  induction calls using List.reverseRecOn with
  | nil => exact .fresh scoring
  | append_singleton front call ih =>
    rw [serve_append]
    cases call with
    | register id t => exact ih.register id t
    | freeze => exact ih.freeze

/-- **The score in closed form.** After any calls to a fresh keeper, a registration returns whether
it is the first of its id, with no freezing before it; and the score is that of the tiers of all the
judgments that count, in order: its combo, best combo, counts, points and accuracy. -/
theorem score_in_closed_form (scoring : Scoring Rat) (calls : List (Call Rat)) :
    let k := (Keeper.fresh scoring).serve calls
    (∀ id t, (k.register id t).1 =
      if calls.any Call.isFreeze || Song.isIdentifying id then
        .ok (Song.isIdentifying id && calls.all (Call.leaves id))
      else .error .wrongShape) ∧
    k.score.Tallies scoring ((effective calls).map Prod.snd) := by
  intro k
  have hserved := served_serve scoring calls
  exact ⟨hserved.register_eq, hserved.tallies⟩

end Keeper

end Lamella
