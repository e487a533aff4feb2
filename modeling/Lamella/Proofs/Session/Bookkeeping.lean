import Lamella.Proofs.Session.Run
import Mathlib.Data.List.Perm.Subperm

/-!
# Hits, score and judged notes

Pitches that hit a note and notes that are swept go into one list of hits, one score and one set of
judged notes. They stay in step in every session that a run reaches, whatever the order of its
events.

Whatever judges does so by marking notes one after another. `Session.Marks` is the relation between
a session and the session after some marks, with the marks as its label: every invariant of judging
is an induction on it, with one case for a mark.

## Main definitions

- `Session.Marks`: one session comes from another by marking notes.
- `Session.InStep`: hits, score and judged notes are in step.

## Main statements

- `Session.sweepFrom_marks`, `Session.judge_marks`, `Session.tick_marks`: judging marks notes, and
  returns what it marked.
- `Session.InStep.of_marks`: marking keeps a session in step.
-/

namespace Lamella

/-! ## §1 Marking notes -/

/-- A song with which judging never fails for want of an id or of an end. -/
structure Song.Playable {R : Type} [Scalar R] (song : Song R) : Prop where
  identifying : ∀ n ∈ song.notes, Song.isIdentifying n.id = true
  timed : ∀ x, ∃ ended, song.duration.atMost x = .ok ended

/-- Different ids among those of some notes are no more than the notes. -/
theorem Song.length_le_of_distinct {R : Type} [Scalar R] {ids : List (Value R)}
    {notes : List (Note R)} (hdistinct : ids.Pairwise fun a b => Song.sameId a b = false)
    (hids : ∀ id ∈ ids, (∃ n ∈ notes, n.id = id) ∧ Song.isIdentifying id = true) :
    ids.length ≤ notes.length := by
  have hnodup := Song.nodup_of_distinct hdistinct fun id hid => (hids id hid).2
  have hsubset : ids ⊆ notes.map Note.id := fun id hid => List.mem_map.mpr (hids id hid).1
  simpa using (List.subperm_of_subset hnodup hsubset).length_le

namespace Session

section Marks

variable {F R : Type} [Scalar R]

/-- One session comes from another by marking notes of its song that were not judged, with the given
hits in the given order. How far the slot and the row of notes were read may change between. -/
inductive Marks (s : Session F R) : List (Hit F R) → Session F R → Prop where
  | none : Marks s [] s
  | reading {hits : List (Hit F R)} {t : Session F R} (seen missIndex : Nat) :
      Marks s hits t → Marks s hits { t with seen, missIndex }
  | mark {hits : List (Hit F R)} {t : Session F R} {hit : Hit F R} {points : Int} {percent : R} :
      Marks s hits t → (∃ n ∈ s.notes, n.id = hit.note) →
      Song.isIdentifying hit.note = true → t.keeper.isJudged hit.note = false →
      t.keeper.register hit.note hit.tier =
        (.ok true, t.keeper.apply hit.note hit.tier points percent) →
      Marks s (hits ++ [hit])
        { t with
          keeper := t.keeper.apply hit.note hit.tier points percent
          hits := t.hits ++ [hit] }

namespace Marks

variable {s t u : Session F R} {xs ys : List (Hit F R)}

theorem sameCourse (h : s.Marks xs t) : s.SameCourse t := by
  induction h with
  | none => exact .refl s
  | reading _ _ _ ih => exact ih.trans ⟨rfl, rfl, rfl, rfl, rfl, rfl, rfl, rfl, rfl⟩
  | mark _ _ _ _ _ ih => exact ih.trans ⟨rfl, rfl, rfl, rfl, rfl, rfl, rfl, rfl, rfl⟩

/-- The marks are what was added to the hits. -/
theorem hits_eq (h : s.Marks xs t) : t.hits = s.hits ++ xs := by
  induction h with
  | none => simp
  | reading _ _ _ ih => exact ih
  | mark _ _ _ _ _ ih => simp [ih]

theorem trans (hst : s.Marks xs t) (htu : t.Marks ys u) : s.Marks (xs ++ ys) u := by
  induction htu with
  | none => simpa using hst
  | reading seen missIndex _ ih => exact ih.reading seen missIndex
  | mark _ hknown hid hnew hregister ih =>
    rw [hst.sameCourse.notes] at hknown
    -- A mark of the second part comes after all the others
    rw [← List.append_assoc]
    exact ih.mark hknown hid hnew hregister

end Marks

/-! ## §2 What is in step -/

/-- The hits of a session, its score and its judged notes are in step: the hits are of different
notes of the song, the judged notes are those of the hits, the counters count the hits, and the
score is that of registering the hits in order. -/
structure InStep (scoring : Scoring R) (s : Session F R) : Prop where
  distinct : (s.hits.map Hit.note).Pairwise fun a b => Song.sameId a b = false
  known : ∀ h ∈ s.hits, (∃ n ∈ s.notes, n.id = h.note) ∧ Song.isIdentifying h.note = true
  judged : ∀ id, s.keeper.isJudged id = s.hits.any fun h => Song.sameId id h.note
  counted : ∀ t, s.keeper.score.count t = s.hits.countP fun h => h.tier == t
  replayed : s.keeper =
    { (Keeper.fresh scoring).registerAll (s.hits.map fun h => (h.note, h.tier)) with
      frozen := s.keeper.frozen }

namespace InStep

variable {scoring : Scoring R} {s t : Session F R}

/-- A session without hits is in step. -/
theorem of_fresh (hkeeper : s.keeper = .fresh scoring) (hhits : s.hits = []) :
    s.InStep scoring where
  distinct := by simp [hhits]
  known := by simp [hhits]
  judged id := by
    rw [hkeeper, hhits, Keeper.isJudged_fresh]
    rfl
  counted t := by
    rw [hkeeper, hhits]
    cases t <;> rfl
  replayed := by
    rw [hkeeper, hhits]
    rfl

/-- Being in step is a matter of the hits, the song and the keeper, frozen or not. -/
theorem congr (hs : s.InStep scoring) (hhits : t.hits = s.hits) (hsong : t.song = s.song)
    (hkeeper : t.keeper = { s.keeper with frozen := t.keeper.frozen }) : t.InStep scoring where
  distinct := by rw [hhits]; exact hs.distinct
  known := by
    have hnotes : t.notes = s.notes := by rw [notes, notes, hsong]
    rw [hhits, hnotes]
    exact hs.known
  judged id := by
    rw [hkeeper, hhits, ← hs.judged id]
    rfl
  counted tier := by
    rw [hkeeper, hhits, ← hs.counted tier]
  replayed := by
    rw [hhits, hkeeper]
    conv_lhs => rw [hs.replayed]

/-- The hits stay different with the hit of a note that was not judged. -/
theorem distinct_append (hs : s.InStep scoring) {hit : Hit F R}
    (hnew : s.keeper.isJudged hit.note = false) :
    ((s.hits ++ [hit]).map Hit.note).Pairwise fun a b => Song.sameId a b = false := by
  rw [List.map_append, List.pairwise_append]
  refine ⟨hs.distinct, by simp, fun a ha b hb => ?_⟩
  -- The note is not among the judged ones, which are those of the hits
  obtain ⟨h, hmem, rfl⟩ := List.mem_map.mp ha
  obtain rfl : b = hit.note := by simpa using hb
  rw [hs.judged, List.any_eq_false] at hnew
  rw [Song.sameId_comm]
  simpa using hnew h hmem

theorem known_append (hs : s.InStep scoring) {hit : Hit F R}
    (hknown : ∃ n ∈ s.notes, n.id = hit.note) (hid : Song.isIdentifying hit.note = true) :
    ∀ h ∈ s.hits ++ [hit], (∃ n ∈ s.notes, n.id = h.note) ∧ Song.isIdentifying h.note = true := by
  intro h hh
  rcases List.mem_append.mp hh with hold | hlast
  · exact hs.known h hold
  · obtain rfl : h = hit := by simpa using hlast
    exact ⟨hknown, hid⟩

/-- A note that was not judged leaves room for one more judgment. -/
theorem hits_length_lt (hs : s.InStep scoring) {hit : Hit F R}
    (hknown : ∃ n ∈ s.notes, n.id = hit.note) (hid : Song.isIdentifying hit.note = true)
    (hnew : s.keeper.isJudged hit.note = false) : s.hits.length + 1 ≤ s.notes.length := by
  have hids : ∀ id ∈ (s.hits ++ [hit]).map Hit.note,
      (∃ n ∈ s.notes, n.id = id) ∧ Song.isIdentifying id = true := by
    intro id hmem
    obtain ⟨h, hh, rfl⟩ := List.mem_map.mp hmem
    exact hs.known_append hknown hid h hh
  simpa using Song.length_le_of_distinct (hs.distinct_append hnew) hids

/-- A mark keeps a session in step. -/
theorem mark (hs : s.InStep scoring) {hit : Hit F R} {points : Int} {percent : R}
    (hknown : ∃ n ∈ s.notes, n.id = hit.note) (hid : Song.isIdentifying hit.note = true)
    (hnew : s.keeper.isJudged hit.note = false)
    (hregister : s.keeper.register hit.note hit.tier =
      (.ok true, s.keeper.apply hit.note hit.tier points percent)) :
    ({ s with
      keeper := s.keeper.apply hit.note hit.tier points percent
      hits := s.hits ++ [hit] } : Session F R).InStep scoring where
  distinct := hs.distinct_append hnew
  known := hs.known_append hknown hid
  judged id := by
    simp only [Keeper.isJudged_apply, hs.judged id, List.any_append, List.any_cons, List.any_nil,
      Bool.or_false]
    exact Bool.or_comm ..
  counted tier := by
    simp only [Keeper.count_apply, hs.counted tier, List.countP_append, List.countP_singleton,
      beq_iff_eq]
  replayed := by
    -- The keeper is not frozen, so it is the replayed one, and the mark is its next registration
    have hopen := Keeper.frozen_of_register hregister
    have hall := (Keeper.registerAll_frame (Keeper.fresh scoring)
      (s.hits.map fun h => (h.note, h.tier))).2
    have hkeeper : s.keeper =
        (Keeper.fresh scoring).registerAll (s.hits.map fun h => (h.note, h.tier)) := by
      rw [hs.replayed, hopen]
      exact Keeper.with_frozen hall
    have hlast : s.keeper.registerAll [(hit.note, hit.tier)] =
        s.keeper.apply hit.note hit.tier points percent := congrArg Prod.snd hregister
    rw [List.map_append, Keeper.registerAll_append, ← hkeeper, List.map_singleton, hlast]

/-- Marking keeps a session in step. -/
theorem of_marks (hs : s.InStep scoring) {xs : List (Hit F R)} (h : s.Marks xs t) :
    t.InStep scoring := by
  induction h with
  | none => exact hs
  | reading _ _ _ ih => exact ih.congr rfl rfl rfl  -- how far anything was read is not kept in step
  | mark hmarks hknown hid hnew hregister ih =>
    rw [← hmarks.sameCourse.notes] at hknown
    exact ih.mark hknown hid hnew hregister

theorem of_sameScore (hs : s.InStep scoring) (h : s.SameScore t) : t.InStep scoring :=
  hs.congr h.hits h.song h.keeper

theorem scoring_eq (hs : s.InStep scoring) : s.keeper.scoring = scoring := by
  rw [hs.replayed]
  exact (Keeper.registerAll_frame ..).1

/-- As many notes were judged as there are hits. -/
theorem judged_eq_length (hs : s.InStep scoring) : s.keeper.score.judged = s.hits.length := by
  -- Each hit is counted by the counter of its tier, and by no other
  have hsplit : ∀ hits : List (Hit F R), hits.length =
      hits.countP (fun h => h.tier == .perfect) + hits.countP (fun h => h.tier == .good) +
        hits.countP (fun h => h.tier == .okay) + hits.countP (fun h => h.tier == .miss) := by
    intro hits
    induction hits with
    | nil => rfl
    | cons h rest ih =>
      simp only [List.length_cons, List.countP_cons, ih]
      cases h.tier <;> simp <;> omega
  rw [Score.judged_eq_sum, hs.counted, hs.counted, hs.counted, hs.counted, hsplit]

end InStep

/-! ## §3 Recording a hit -/

/-- Recording a hit changes nothing, since the score is frozen, the note was judged, or its id
cannot tell notes apart; or it marks the note. -/
theorem record_cases {scoring : Scoring R} {s : Session F R} (hs : s.InStep scoring)
    (hrules : scoring.Computes s.notes.length) {hit : Hit F R}
    (hknown : ∃ n ∈ s.notes, n.id = hit.note) :
    ((s.keeper.frozen = true ∨ s.keeper.isJudged hit.note = true) ∧ s.record hit = (.ok (), s)) ∨
    (Song.isIdentifying hit.note = false ∧ s.record hit = (.error .wrongShape, s)) ∨
    (∃ t, s.Marks [hit] t ∧ s.record hit = (.ok (), t)) := by
  cases hfrozen : s.keeper.frozen with
  | true =>
    refine .inl ⟨.inl rfl, ?_⟩
    simp only [record, Keeper.register_of_frozen hfrozen]
  | false =>
    cases hid : Song.isIdentifying hit.note with
    | false =>
      refine .inr (.inl ⟨rfl, ?_⟩)
      simp only [record, Keeper.register_of_unidentifying hfrozen hid]
    | true =>
      cases hjudged : s.keeper.isJudged hit.note with
      | true =>
        refine .inl ⟨.inr rfl, ?_⟩
        simp only [record, Keeper.register_of_judged hfrozen hid hjudged]
      | false =>
        -- The hits are of different notes of the song, so there is room for one more accuracy
        have hroom := hs.hits_length_lt hknown hid hjudged
        have hrules' : s.keeper.scoring.Computes (s.keeper.score.judged + 1) := by
          rw [hs.scoring_eq, hs.judged_eq_length]
          exact hrules.mono hroom
        obtain ⟨points, percent, hregister⟩ :=
          Keeper.register_of_new hfrozen hid hjudged hrules' hit.tier
        refine .inr (.inr ⟨_, Marks.none.mark hknown hid hjudged hregister, ?_⟩)
        simp only [record, hregister]

end Marks

/-! ## §4 Judging marks notes -/

section Judging

variable {F R : Type} [Analytic F] [Scalar R] {scoring : Scoring R} {s : Session F R}

/-- The notes in the hit zone are notes of the song that were not judged. -/
theorem mem_hitZone {c : Setup F R} {n : Note R} (h : n ∈ s.hitZone c) :
    n ∈ s.notes ∧ s.keeper.isJudged n.id = false := by
  obtain ⟨hmem, hnew⟩ := List.mem_filter.mp h
  exact ⟨List.mem_of_mem_take (List.mem_of_mem_drop hmem), by simpa using hnew⟩

/-- A hit that an estimate makes is the judgment of one of the notes. -/
theorem firstHit_eq_some {c : Setup F R} {now : R} {pitch : HeardPitch F} {notes : List (Note R)}
    {hit : Hit F R} (h : firstHit c now pitch notes = .ok (some hit)) :
    ∃ n ∈ notes, ∃ cents, hit =
      ⟨n.id, c.windows.classify ((now - n.time) * 1000.0), (now - n.time) * 1000.0, n.key,
        cents⟩ := by
  induction notes with
  | nil => cases h
  | cons n rest ih =>
    unfold firstHit at h
    cases hcents : centsWithin c pitch n with
    | error fault =>
      rw [hcents] at h
      cases h
    | ok found =>
      rw [hcents] at h
      cases found with
      | none =>
        obtain ⟨m, hm, hit_eq⟩ := ih h
        exact ⟨m, List.mem_cons_of_mem _ hm, hit_eq⟩
      | some cents =>
        cases h
        exact ⟨n, List.mem_cons_self, cents, rfl⟩

/-- Judging an estimate marks the note that it hits, and returns just that mark. -/
theorem judge_marks (hs : s.InStep scoring) (hrules : scoring.Computes s.notes.length)
    (hopen : s.phase.isActive = true → s.keeper.frozen = false) (c : Setup F R)
    (pitch : HeardPitch F) :
    ∃ hits, s.Marks hits (s.judge c pitch).2 ∧
      ((∃ fault, (s.judge c pitch).1 = .error fault ∧ hits = []) ∨
        ∃ hit, (s.judge c pitch).1 = .ok hit ∧ hits = hit.toList) := by
  unfold judge
  split
  · exact ⟨[], .none, .inr ⟨none, rfl, rfl⟩⟩
  rename_i hgate
  split
  · rename_i fault _
    exact ⟨[], .none, .inl ⟨fault, rfl, rfl⟩⟩
  · exact ⟨[], .none, .inr ⟨none, rfl, rfl⟩⟩
  rename_i hit hfirst
  -- The gate was passed, so the session is active
  have hactive : s.phase.isActive = true := by
    by_contra hidle
    simp [hidle] at hgate
  obtain ⟨n, hn, cents, hit_eq⟩ := firstHit_eq_some hfirst
  obtain ⟨hmem, hnew⟩ := mem_hitZone hn
  have hnote : n.id = hit.note := by rw [hit_eq]
  rcases record_cases hs hrules ⟨n, hmem, hnote⟩ with
    ⟨hjudged, -⟩ | ⟨-, hrecord⟩ | ⟨t, hmarks, hrecord⟩
  · -- The hit zone holds no judged note, and an active session is not frozen
    rw [← hnote, hnew, hopen hactive] at hjudged
    simp at hjudged
  · simp only [hrecord]
    exact ⟨[], .none, .inl ⟨_, rfl, rfl⟩⟩
  · simp only [hrecord]
    exact ⟨[hit], hmarks, .inr ⟨some hit, rfl, rfl⟩⟩

/-- A session that has looked at one more note. -/
def passed (s : Session F R) : Session F R := { s with missIndex := s.missIndex + 1 }

theorem sweepFrom_of_staying {c : Setup F R} {now : R} {n : Note R} (rest : List (Note R))
    (hstays : hasLeft c now n = false) : sweepFrom c now (n :: rest) s = (.ok [], s) := by
  simp [sweepFrom, hstays]

theorem sweepFrom_of_judged {c : Setup F R} {now : R} {n : Note R} (rest : List (Note R))
    (hleft : hasLeft c now n = true) (hjudged : s.keeper.isJudged n.id = true) :
    sweepFrom c now (n :: rest) s = sweepFrom c now rest s.passed := by
  simp [sweepFrom, hleft, hjudged, passed]

theorem sweepFrom_of_refused {c : Setup F R} {now : R} {n : Note R} (rest : List (Note R))
    {fault : Fault} {t : Session F R} (hleft : hasLeft c now n = true)
    (hnew : s.keeper.isJudged n.id = false)
    (hrecord : s.passed.record (missed now n) = (.error fault, t)) :
    sweepFrom c now (n :: rest) s = (.error fault, t) := by
  unfold passed at hrecord
  simp [sweepFrom, hleft, hnew, hrecord]

theorem sweepFrom_of_recorded {c : Setup F R} {now : R} {n : Note R} (rest : List (Note R))
    {t : Session F R} (hleft : hasLeft c now n = true) (hnew : s.keeper.isJudged n.id = false)
    (hrecord : s.passed.record (missed now n) = (.ok (), t)) :
    sweepFrom c now (n :: rest) s =
      ((sweepFrom c now rest t).1.map (missed now n :: ·), (sweepFrom c now rest t).2) := by
  unfold passed at hrecord
  rw [sweepFrom]
  simp only [hleft, hnew, hrecord, if_true, Bool.false_eq_true, if_false]
  rcases sweepFrom c now rest t with ⟨fault | hits, u⟩ <;> rfl

/-- Sweeping marks notes; of a song whose ids can tell notes apart it returns just those marks, as
long as the score is not frozen. -/
theorem sweepFrom_marks (hs : s.InStep scoring) (hrules : scoring.Computes s.notes.length)
    (c : Setup F R) (now : R) {rest : List (Note R)} (hrest : ∀ n ∈ rest, n ∈ s.notes) :
    ∃ hits, s.Marks hits (sweepFrom c now rest s).2 ∧
      (s.keeper.frozen = false → (∀ n ∈ rest, Song.isIdentifying n.id = true) →
        (sweepFrom c now rest s).1 = .ok hits) := by
  induction rest generalizing s with
  | nil => exact ⟨[], .none, fun _ _ => rfl⟩
  | cons n rest ih =>
    cases hleft : hasLeft c now n with
    | false =>
      rw [sweepFrom_of_staying rest hleft]
      exact ⟨[], .none, fun _ _ => rfl⟩
    | true =>
      -- Passing the note marks nothing yet
      have hpassed : s.Marks [] s.passed := Marks.none.reading s.seen (s.missIndex + 1)
      have hrest' : ∀ m ∈ rest, m ∈ s.notes := fun m hm => hrest m (List.mem_cons_of_mem _ hm)
      have hkeeper : s.passed.keeper = s.keeper := rfl
      cases hjudged : s.keeper.isJudged n.id with
      | true =>
        obtain ⟨hits, hmarks, hreturns⟩ := ih (hs.of_marks hpassed) hrules hrest'
        rw [sweepFrom_of_judged rest hleft hjudged]
        refine ⟨hits, hpassed.trans hmarks, fun hopen hids => hreturns hopen ?_⟩
        exact fun m hm => hids m (List.mem_cons_of_mem _ hm)
      | false =>
        have hknown : ∃ m ∈ s.passed.notes, m.id = (missed now n : Hit F R).note :=
          ⟨n, hrest n List.mem_cons_self, rfl⟩
        rcases record_cases (hs.of_marks hpassed) hrules hknown with
          ⟨hignored, hrecord⟩ | ⟨hid, hrecord⟩ | ⟨t, hmarks, hrecord⟩
        · -- Only a frozen score ignores a note that was not judged
          rw [hkeeper] at hignored
          have hfrozen : s.keeper.frozen = true :=
            hignored.resolve_right (by simp [missed, hjudged])
          obtain ⟨hits, hmarks, -⟩ := ih (hs.of_marks hpassed) hrules hrest'
          rw [sweepFrom_of_recorded rest hleft hjudged hrecord]
          exact ⟨hits, hpassed.trans hmarks, fun hopen => absurd (hfrozen.symm.trans hopen) nofun⟩
        · rw [sweepFrom_of_refused rest hleft hjudged hrecord]
          refine ⟨[], hpassed, fun _ hids => ?_⟩
          exact absurd (hid.symm.trans (hids n List.mem_cons_self)) nofun
        · have hfirst := hpassed.trans hmarks
          have hcourse := hfirst.sameCourse
          rw [← hcourse.notes] at hrest' hrules
          obtain ⟨hits, hrestmarks, hreturns⟩ := ih (hs.of_marks hfirst) hrules hrest'
          rw [sweepFrom_of_recorded rest hleft hjudged hrecord]
          refine ⟨[missed now n] ++ hits, hfirst.trans hrestmarks, fun hopen hids => ?_⟩
          rw [hreturns (hcourse.frozen.trans hopen) fun m hm => hids m (List.mem_cons_of_mem _ hm)]
          rfl

theorem sweep_marks (hs : s.InStep scoring) (hrules : scoring.Computes s.notes.length)
    (c : Setup F R) :
    ∃ hits, s.Marks hits (s.sweep c).2 ∧
      (s.keeper.frozen = false → (∀ n ∈ s.notes, Song.isIdentifying n.id = true) →
        (s.sweep c).1 = .ok hits) := by
  obtain ⟨hits, hmarks, hreturns⟩ :=
    sweepFrom_marks hs hrules c (s.inputTime c) fun n hn => List.mem_of_mem_drop hn
  refine ⟨hits, hmarks, fun hopen hids => hreturns hopen fun n hn => ?_⟩
  exact hids n (List.mem_of_mem_drop hn)

/-- Reading the slot marks the note that a new estimate hits, and returns just that mark. -/
theorem readSlot_marks (hs : s.InStep scoring) (hrules : scoring.Computes s.notes.length)
    (hopen : s.keeper.frozen = false) (c : Setup F R) :
    ∃ hits, s.Marks hits (s.readSlot c).2 ∧
      ((∃ fault, (s.readSlot c).1 = .error fault ∧ hits = []) ∨
        ∃ hit, (s.readSlot c).1 = .ok hit ∧ hits = hit.toList) := by
  unfold readSlot
  split
  · exact ⟨[], .none, .inr ⟨none, rfl, rfl⟩⟩
  have hread : s.Marks [] { s with seen := s.slot.version } :=
    Marks.none.reading s.slot.version s.missIndex
  dsimp only
  split
  · exact ⟨[], hread, .inr ⟨none, rfl, rfl⟩⟩
  · rename_i pitch _
    obtain ⟨hits, hmarks, hreturns⟩ :=
      judge_marks (hs.of_marks hread) hrules (fun _ => hopen) c pitch
    exact ⟨hits, hread.trans hmarks, hreturns⟩

/-- A tick of an active session marks notes of the moved session, which it may finish. If the ids of
the song can tell notes apart and its end is known, it returns just those marks. -/
theorem tick_marks (hs : s.InStep scoring) (hrules : scoring.Computes s.notes.length)
    (hopen : s.keeper.frozen = false) {song : Song R} (hactive : s.phase.isActive = true)
    (hsong : s.song = some song) (c : Setup F R) (now : R) :
    ∃ t hits, (s.moved c now).Marks hits t ∧
      ((s.tick c now).2 = t ∨ (s.tick c now).2 = t.finish) ∧
      (song.Playable → (s.tick c now).1.toOption.getD [] = hits) := by
  -- The slot is read in the moved session, and the sweep begins where that ends
  have hmoved := hs.of_sameScore (moved_sameScore c now s)
  obtain ⟨heard, hheard, hfound⟩ := readSlot_marks hmoved hrules hopen c
  have hheardCourse := hheard.sameCourse
  have hheardStep := hmoved.of_marks hheard
  have hrules' : scoring.Computes ((s.moved c now).readSlot c).2.notes.length := by
    rw [hheardCourse.notes]
    exact hrules
  obtain ⟨misses, hswept, hmissed⟩ := sweep_marks hheardStep hrules' c
  have hreturns : song.Playable → (((s.moved c now).readSlot c).2.sweep c).1 = .ok misses := by
    intro hsong'
    refine hmissed (hheardCourse.frozen.trans hopen) ?_
    rw [hheardCourse.notes]
    intro n hn
    have hnotes : (s.moved c now).notes = song.notes := notes_of_song hsong
    exact hsong'.identifying n (hnotes ▸ hn)
  -- What the tick would return is what was marked, by the slot first and then by the sweep
  have htold : ∀ {hit hits}, ((s.moved c now).readSlot c).1 = .ok hit →
      (((s.moved c now).readSlot c).2.sweep c).1 = .ok hits → song.Playable →
      hit.toList ++ hits = heard ++ misses := by
    intro hit hits hhit hhits hsong'
    rw [hreturns hsong'] at hhits
    cases hhits
    rcases hfound with ⟨_, hfault, -⟩ | ⟨hit', hhit', rfl⟩
    · exact absurd (hfault.symm.trans hhit) nofun
    · cases hhit'.symm.trans hhit
      rfl
  rcases tick_cases (c := c) now hactive hsong with
    ⟨fault, hfault, htick⟩ | ⟨hit, fault, hhit, hfault, htick⟩ |
      ⟨hit, hits, fault, hhit, hhits, hfault, htick⟩ | ⟨hit, hits, hhit, hhits, -, htick⟩ |
      ⟨hit, hits, hhit, hhits, -, htick⟩
  · refine ⟨_, heard, hheard, .inl (by rw [htick]), fun _ => ?_⟩
    rcases hfound with ⟨_, -, hnone⟩ | ⟨hit, hhit, -⟩
    · rw [htick, hnone]
      rfl
    · exact absurd (hfault.symm.trans hhit) nofun
  · refine ⟨_, heard ++ misses, hheard.trans hswept, .inl (by rw [htick]), fun hsong' => ?_⟩
    exact absurd (hfault.symm.trans (hreturns hsong')) nofun
  · refine ⟨_, heard ++ misses, hheard.trans hswept, .inl (by rw [htick]), fun hsong' => ?_⟩
    obtain ⟨ended, hended⟩ := hsong'.timed (((s.moved c now).readSlot c).2.sweep c).2.progress
    exact absurd (hfault.symm.trans hended) nofun
  · refine ⟨_, heard ++ misses, hheard.trans hswept, .inl (by rw [htick]), fun hsong' => ?_⟩
    rw [htick, ← htold hhit hhits hsong']
    rfl
  · refine ⟨_, heard ++ misses, hheard.trans hswept, .inr (by rw [htick]), fun hsong' => ?_⟩
    rw [htick, ← htold hhit hhits hsong']
    rfl

/-! ## §5 Runs -/

/-- The rules compute the score of the song of a session, if there is one. -/
def Scored (c : Setup F R) (s : Session F R) : Prop :=
  ∀ song, s.song = some song → c.scoring.Reaches song.notes.length

theorem Scored.computes {c : Setup F R} (hscored : s.Scored c) (hgains : c.scoring.Gains) :
    c.scoring.Computes s.notes.length := by
  refine ⟨hgains, ?_⟩
  rcases s.notes_cases with hnone | ⟨song, hsong, hnotes⟩
  · rw [hnone]
    exact c.scoring.reaches_zero
  · rw [hnotes]
    exact hscored song hsong

/-- Every event keeps a session in step. -/
theorem InStep.after {c : Setup F R} (hs : s.InStep c.scoring) (hsteady : s.Steady)
    (hgains : c.scoring.Gains) (hscored : s.Scored c) (e : R × Event F R) :
    (s.after c e).InStep c.scoring := by
  have hrules := hscored.computes hgains
  obtain ⟨now, e⟩ := e
  cases e with
  | start song => exact .of_fresh rfl rfl
  | tick =>
    have hafter : s.after c (now, .tick) = (s.tick c now).2 := rfl
    rw [hafter]
    rcases s.active_or_idle with ⟨song, hactive, hsong⟩ | hidle
    · obtain ⟨t, hits, hmarks, htick, -⟩ :=
        tick_marks hs hrules (hsteady.of_active hactive).2 hactive hsong c now
      have ht := (hs.of_sameScore (moved_sameScore c now s)).of_marks hmarks
      rcases htick with h | h <;> rw [h]
      · exact ht
      · exact ht.of_sameScore (finish_sameScore t)
    · rw [tick_of_idle now hidle]
      exact hs
  | pause => exact hs.of_sameScore (pause_sameScore now s)
  | resume => exact hs.of_sameScore (resume_sameScore now s)
  | finish => exact hs.of_sameScore (finish_sameScore s)
  | reset => exact .of_fresh rfl rfl
  | judge pitch =>
    obtain ⟨hits, hmarks, -⟩ :=
      judge_marks hs hrules (fun hactive => (hsteady.of_active hactive).2) c pitch
    exact hs.of_marks hmarks
  | sweep =>
    obtain ⟨hits, hmarks, -⟩ := sweep_marks hs hrules c
    exact hs.of_marks hmarks
  | hear pitch => exact hs.of_sameScore (hear_sameScore pitch s)

/-- Every session that a run reaches is in step. -/
theorem inStep_run {c : Setup F R} (hgains : c.scoring.Gains) {events : List (R × Event F R)}
    (hscored : ∀ now song, (now, Event.start song) ∈ events →
      c.scoring.Reaches song.notes.length) :
    ((fresh c).run c events).InStep c.scoring := by
  induction events using List.reverseRecOn with
  | nil => exact .of_fresh rfl rfl
  | append_singleton front e ih =>
    -- The last event meets a session that is in step, steady, and whose song was started before
    have hfront : ∀ now song, (now, Event.start song) ∈ front →
        c.scoring.Reaches song.notes.length :=
      fun now song hmem => hscored now song (List.mem_append_left _ hmem)
    have hsongs : ((fresh c).run c front).Scored c := by
      intro song hsong
      obtain ⟨now, hmem⟩ := song_of_run c front hsong
      exact hfront now song hmem
    rw [run_append]
    exact (ih hfront).after (steady_run c front) hgains hsongs e

namespace Event

/-- Whether an event gives a session a new score. -/
def begins : Event F R → Bool
  | .start _ | .reset => true
  | _ => false

/-- Whether an event judges outside a tick. -/
def isDirect : Event F R → Bool
  | .judge _ | .sweep => true
  | _ => false

end Event

/-- An event that begins nothing and judges at most as a tick adds to the hits what it returns. -/
theorem hits_after {c : Setup F R} (hs : s.InStep c.scoring) (hsteady : s.Steady)
    (hgains : c.scoring.Gains) (hscored : s.Scored c)
    (hplayable : ∀ song, s.song = some song → song.Playable) {e : R × Event F R}
    (hbegins : e.2.begins = false) (hdirect : e.2.isDirect = false) :
    (s.after c e).hits = s.hits ++ s.returned c e := by
  have hsilent : ∀ t : Session F R, s.SameScore t → t.hits = s.hits ++ [] := by
    intro t h
    rw [h.hits, List.append_nil]
  obtain ⟨now, e⟩ := e
  cases e with
  | start song => cases hbegins
  | reset => cases hbegins
  | judge pitch => cases hdirect
  | sweep => cases hdirect
  | pause => exact hsilent _ (pause_sameScore now s)
  | resume => exact hsilent _ (resume_sameScore now s)
  | finish => exact hsilent _ (finish_sameScore s)
  | hear pitch => exact hsilent _ (hear_sameScore pitch s)
  | tick =>
    have hafter : s.after c (now, .tick) = (s.tick c now).2 := rfl
    have hreturned : s.returned c (now, .tick) = (s.tick c now).1.toOption.getD [] := rfl
    rw [hafter, hreturned]
    rcases s.active_or_idle with ⟨song, hactive, hsong⟩ | hidle
    · obtain ⟨t, hits, hmarks, htick, hreturns⟩ := tick_marks hs (hscored.computes hgains)
        (hsteady.of_active hactive).2 hactive hsong c now
      rw [hreturns (hplayable song hsong)]
      rcases htick with h | h <;> rw [h]
      · exact hmarks.hits_eq
      · exact (finish_sameScore t).hits.trans hmarks.hits_eq
    · rw [tick_of_idle now hidle]
      exact (List.append_nil _).symm

theorem song_after_of_begins {c : Setup F R} {e : R × Event F R} (hbegins : e.2.begins = false) :
    (s.after c e).song = s.song := by
  rcases song_after c s e with hsame | ⟨song, he, -⟩ | ⟨he, -⟩
  · exact hsame
  · rw [he] at hbegins
    cases hbegins
  · rw [he] at hbegins
    cases hbegins

/-- A run that begins nothing and judges only in ticks adds to the hits all that it returns. -/
theorem hits_run {c : Setup F R} (hs : s.InStep c.scoring) (hsteady : s.Steady)
    (hgains : c.scoring.Gains) (hscored : s.Scored c)
    (hplayable : ∀ song, s.song = some song → song.Playable) {events : List (R × Event F R)}
    (hevents : ∀ e ∈ events, e.2.begins = false ∧ e.2.isDirect = false) :
    (s.run c events).hits = s.hits ++ s.gave c events := by
  induction events generalizing s with
  | nil => exact (List.append_nil _).symm
  | cons e rest ih =>
    obtain ⟨hbegins, hdirect⟩ := hevents e List.mem_cons_self
    have hsong := song_after_of_begins (s := s) (c := c) hbegins
    -- The first event adds what it returns, and the others begin nothing and find the same song
    have hafter := hits_after hs hsteady hgains hscored hplayable hbegins hdirect
    have hrest := ih (hs.after hsteady hgains hscored e) (hsteady.after c e)
      (fun song h => hscored song (hsong ▸ h)) (fun song h => hplayable song (hsong ▸ h))
      fun x hx => hevents x (List.mem_cons_of_mem _ hx)
    rw [run_cons, hrest, hafter, List.append_assoc]
    rfl

/-- **Hits, score and judged notes stay in step.** In every session that a run reaches under rules
whose points and accuracies are scalars, the hits are of different notes of the song, the judged
notes are just theirs, the counters count them and the score is theirs. And the hits are what the
ticks since the last start or reset returned, in order, as long as nothing else judged since. -/
theorem hits_score_and_judged_in_step (c : Setup F R) (hgains : c.scoring.Gains)
    (events : List (R × Event F R))
    (hreaches : ∀ now song, (now, Event.start song) ∈ events →
      c.scoring.Reaches song.notes.length) :
    ((fresh c).run c events).InStep c.scoring ∧
      ∀ front e back, events = front ++ e :: back → e.2.begins = true →
        (∀ song, e.2 = .start song → song.Playable) →
        (∀ x ∈ back, x.2.begins = false ∧ x.2.isDirect = false) →
        ((fresh c).run c events).hits = ((fresh c).run c (front ++ [e])).gave c back := by
  refine ⟨inStep_run hgains hreaches, ?_⟩
  intro front e back hevents hbegins hplayable hback
  -- The run is cut right after its last beginning
  have hsplit : events = (front ++ [e]) ++ back := by simp [hevents]
  have hreaches' : ∀ now song, (now, Event.start song) ∈ front ++ [e] →
      c.scoring.Reaches song.notes.length := by
    intro now song hmem
    refine hreaches now song ?_
    rw [hsplit]
    exact List.mem_append_left _ hmem
  -- The session right after `e` has no hits, and its song, if it has one, is that of `e`
  have hnew : ((fresh c).run c (front ++ [e])).hits = [] ∧
      ∀ song, ((fresh c).run c (front ++ [e])).song = some song → e.2 = .start song := by
    rw [run_append]
    obtain ⟨now, e⟩ := e
    cases e with
    | start song => exact ⟨rfl, fun _ h => by cases h; rfl⟩
    | reset => exact ⟨rfl, fun _ h => by cases h⟩
    | _ => cases hbegins
  have hscored : ((fresh c).run c (front ++ [e])).Scored c := by
    intro song hsong
    obtain ⟨now, hmem⟩ := song_of_run c (front ++ [e]) hsong
    exact hreaches' now song hmem
  have hrun := hits_run (inStep_run hgains hreaches') (steady_run c (front ++ [e])) hgains hscored
    (fun song hsong => hplayable song (hnew.2 song hsong)) hback
  rw [hsplit, run_append, hrun, hnew.1, List.nil_append]

end Judging

/-- A note that is swept, and the hits that a tick returned for it. -/
theorem hits_in_step_of_swept_note :
    let c : Setup Float Rat :=
      soleSetup (usualSettings (by decide +kernel) (by decide +kernel)) .usual (by decide +kernel)
    let song : Song Rat := songOf
      [soleNote "a" 1 (by decide +kernel) (by decide +kernel)] (.num 3) (by decide +kernel)
    ((fresh c).run c [(0, .start song), (2, .tick)]).InStep c.scoring ∧
      ((fresh c).run c [(0, .start song), (2, .tick)]).hits =
        ((fresh c).run c [(0, .start song)]).gave c [(2, .tick)] := by
  intro c song
  have hrules := Scoring.computes_rat c.scoring
  have hplayable : song.Playable := by
    refine ⟨fun n hn => ?_, fun x => ⟨_, rfl⟩⟩
    obtain rfl := List.mem_singleton.mp hn
    rfl
  obtain ⟨hstep, hhits⟩ := hits_score_and_judged_in_step c (hrules 0).gains
    [(0, .start song), (2, .tick)] fun _ _ _ => (hrules _).reaches
  refine ⟨hstep, hhits [] _ [(2, .tick)] rfl rfl ?_ ?_⟩
  · intro song' hsong'
    cases hsong'
    exact hplayable
  · intro x hx
    obtain rfl := List.mem_singleton.mp hx
    exact ⟨rfl, rfl⟩

/-- The rules under which a perfect hit is worth almost the largest machine number. -/
def hugeScoring : Scoring Float := ⟨⟨10 ^ 308, 75, 50, 0⟩, [], by simp⟩

theorem gains_hugeScoring : hugeScoring.Gains := by
  intro combo t
  have hsome : (Keeper.gain hugeScoring 0 t).toOption.isSome = true := by
    cases t <;> decide +kernel
  -- Without thresholds the combo does not matter
  have hcombo : Keeper.gain hugeScoring combo t = Keeper.gain hugeScoring 0 t := rfl
  rw [hcombo]
  exact exists_ok_of_isSome hsome

/-- What takes hits, score and judged notes apart: a reset, which empties the hits that the ticks
since the last start returned; an accuracy beyond the machine numbers, which leaves a miss counted
that is no hit; and a duration that is no number, for which a tick returns nothing. -/
theorem hits_out_of_step :
    let settings : Settings Float Float := usualSettings (by decide +kernel) (by decide +kernel)
    let c := soleSetup settings .usual (by decide +kernel)
    let huge := soleSetup settings hugeScoring (by decide +kernel)
    let song (duration : Value Float) : Song Float := songOf
      [soleNote "a" 1 (by decide +kernel) (by decide +kernel),
        soleNote "b" 1.1 (by decide +kernel) (by decide +kernel)] duration (by decide +kernel)
    let timed := song (.num 3)
    let untimed := song (.str "long")
    (((fresh c).run c [(0, .start timed), (2, .tick), (2, .reset)]).hits.length = 0 ∧
      (((fresh c).run c [(0, .start timed)]).gave c [(2, .tick), (2, .reset)]).length = 2) ∧
    (huge.scoring.Gains ∧
      ((fresh huge).run huge [(0, .start timed), (2, .tick)]).hits.length = 1 ∧
      ((fresh huge).run huge [(0, .start timed), (2, .tick)]).keeper.score.miss = 2) ∧
    (((fresh c).run c [(0, .start untimed), (2, .tick)]).hits.length = 2 ∧
      (((fresh c).run c [(0, .start untimed)]).gave c [(2, .tick)]).length = 0) := by
  refine ⟨by decide +kernel, ⟨gains_hugeScoring, ?_⟩, by decide +kernel⟩
  decide +kernel

end Session

end Lamella
