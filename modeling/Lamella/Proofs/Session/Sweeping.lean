import Lamella.Proofs.Session.Bookkeeping

/-!
# Sweeping

A sweep goes on in the row of notes from where the last one stopped, and marks as missed what has
left the hit window and was not judged. No note is forgotten on the way: all notes before the place
where it stopped are judged, in every session that a run reaches and whose score still changes.

## Main definitions

- `Setup.Plays`: songs whose ids tell their notes apart.
- `Session.Sound`: what holds of every session that a run reaches.

## Main statements

- `Session.sweep_eq`: what a sweep marks, returns and passes.
- `Session.sound_run`: every session that a run reaches is sound.
-/

namespace Lamella

/-- A song that can be played: its ids tell its notes apart, and the rules compute its score. -/
structure Setup.Plays {F R : Type} [Analytic F] [Scalar R] (c : Setup F R) (song : Song R) :
    Prop where
  identifying : ∀ n ∈ song.notes, Song.isIdentifying n.id = true
  distinct : song.notes.Pairwise fun m n => Song.sameId m.id n.id = false
  reaches : c.scoring.Reaches song.notes.length

namespace Session

/-! ## §1 Marks and judged notes -/

section Marks

variable {F R : Type} [Scalar R] {s t : Session F R} {xs : List (Hit F R)}

/-- The notes judged after some marks are those before and the marked ones. -/
theorem Marks.isJudged (h : s.Marks xs t) (id : Value R) :
    t.keeper.isJudged id = (s.keeper.isJudged id || xs.any fun hit => Song.sameId id hit.note) := by
  induction h with
  | none => simp
  | reading _ _ _ ih => exact ih
  | mark _ _ _ _ _ ih =>
    simp only [Keeper.isJudged_apply, ih, List.any_append, List.any_cons, List.any_nil,
      Bool.or_false]
    rw [Bool.or_comm, Bool.or_assoc]

/-- What was judged stays judged. -/
theorem Marks.isJudged_of (h : s.Marks xs t) {id : Value R} (hid : s.keeper.isJudged id = true) :
    t.keeper.isJudged id = true := by rw [h.isJudged, hid, Bool.true_or]

/-- Each mark computes the accuracy anew. -/
theorem Marks.isRated (h : s.Marks xs t) (hs : s.keeper.IsRated) : t.keeper.IsRated := by
  induction h with
  | none => exact hs
  | reading _ _ _ ih => exact ih
  | mark _ _ _ _ hregister _ => exact Keeper.isRated_of_register hregister

theorem record_missIndex (hit : Hit F R) (s : Session F R) :
    (s.record hit).2.missIndex = s.missIndex := by
  unfold record
  split <;> rfl

end Marks

variable {F R : Type} [Analytic F] [Scalar R] {c : Setup F R} {s : Session F R}

theorem judge_missIndex (c : Setup F R) (pitch : HeardPitch F) (s : Session F R) :
    (s.judge c pitch).2.missIndex = s.missIndex := by
  unfold judge
  split
  · rfl
  · split
    · rfl
    · rfl
    · rename_i hit _
      have hrecord := record_missIndex hit s
      split <;> rename_i heq <;> rw [heq] at hrecord <;> exact hrecord

theorem readSlot_missIndex (c : Setup F R) (s : Session F R) :
    (s.readSlot c).2.missIndex = s.missIndex := by
  unfold readSlot
  split
  · rfl
  · dsimp only
    split
    · rfl
    · exact judge_missIndex c _ _

/-! ## §2 What a sweep marks -/

/-- The notes that a sweep passes: those from the cursor on that have left the hit window. -/
def leaving (c : Setup F R) (now : R) (rest : List (Note R)) : List (Note R) :=
  rest.takeWhile (hasLeft c now)

/-- The misses among some notes: those of them that were not judged. -/
def misses (now : R) (left : List (Note R)) (s : Session F R) : List (Hit F R) :=
  (left.filter fun n => !s.keeper.isJudged n.id).map (missed now)

/-- What a sweep over notes with different ids returns, and how far it goes. -/
theorem sweepFrom_eq {scoring : Scoring R} (hs : s.InStep scoring)
    (hrules : scoring.Computes s.notes.length) (hopen : s.keeper.frozen = false) (now : R)
    {rest : List (Note R)} (hrest : ∀ n ∈ rest, n ∈ s.notes)
    (hids : ∀ n ∈ rest, Song.isIdentifying n.id = true)
    (hdistinct : rest.Pairwise fun m n => Song.sameId m.id n.id = false) :
    (sweepFrom c now rest s).1 = .ok (s.misses now (leaving c now rest)) ∧
      (sweepFrom c now rest s).2.missIndex = s.missIndex + (leaving c now rest).length := by
  induction rest generalizing s with
  | nil => exact ⟨rfl, rfl⟩
  | cons n rest ih =>
    have hrest' : ∀ m ∈ rest, m ∈ s.notes := fun m hm => hrest m (List.mem_cons_of_mem _ hm)
    have hids' : ∀ m ∈ rest, Song.isIdentifying m.id = true :=
      fun m hm => hids m (List.mem_cons_of_mem _ hm)
    -- The induction is on the notes ahead; a mark changes the session that the rest is swept in
    obtain ⟨hother, hdistinct'⟩ := List.pairwise_cons.mp hdistinct
    cases hleft : hasLeft c now n with
    | false =>
      -- The first note that has not left stops the sweep
      have hnone : leaving c now (n :: rest) = [] := by simp [leaving, hleft]
      rw [sweepFrom_of_staying rest hleft, hnone]
      exact ⟨rfl, rfl⟩
    | true =>
      have hpassed : s.Marks [] s.passed := Marks.none.reading s.seen (s.missIndex + 1)
      have hmore : leaving c now (n :: rest) = n :: leaving c now rest := by simp [leaving, hleft]
      rw [hmore]
      cases hjudged : s.keeper.isJudged n.id with
      | true =>
        obtain ⟨hreturns, hindex⟩ :=
          ih (hs.of_marks hpassed) hrules hopen hrest' hids' hdistinct'
        -- A judged note is passed without a mark
        have hsame : s.misses now (n :: leaving c now rest) =
            s.passed.misses now (leaving c now rest) := by
          simp [misses, hjudged, passed]
        rw [sweepFrom_of_judged rest hleft hjudged, hreturns, hindex, hsame]
        refine ⟨rfl, ?_⟩
        show s.missIndex + 1 + _ = s.missIndex + (_ + 1)
        omega
      | false =>
        have hknown : ∃ m ∈ s.passed.notes, m.id = (missed now n : Hit F R).note :=
          ⟨n, hrest n List.mem_cons_self, rfl⟩
        rcases record_cases (hs.of_marks hpassed) hrules hknown with
          ⟨hignored, -⟩ | ⟨hid, -⟩ | ⟨t, hmarks, hrecord⟩
        · have hkeeper : s.passed.keeper = s.keeper := rfl
          rw [hkeeper, hopen] at hignored
          rcases hignored with hfrozen | hjudged'
          · cases hfrozen
          · cases hjudged.symm.trans hjudged'
        · have hunknown : Song.isIdentifying n.id = false := hid
          rw [hids n List.mem_cons_self] at hunknown
          cases hunknown
        · have hfirst := hpassed.trans hmarks
          have hcourse := hfirst.sameCourse
          rw [← hcourse.notes] at hrest' hrules
          obtain ⟨hreturns, hindex⟩ := ih (hs.of_marks hfirst) hrules (hcourse.frozen.trans hopen)
            hrest' hids' hdistinct'
          -- The mark itself does not move the cursor, passing the note did
          have hstep : t.missIndex = s.missIndex + 1 := by
            have := record_missIndex (missed now n) s.passed
            rwa [hrecord] at this
          -- The mark of `n` judges no other note
          have hsame : t.misses now (leaving c now rest) = s.misses now (leaving c now rest) := by
            have hfilter : (leaving c now rest).filter (fun m => !t.keeper.isJudged m.id) =
                (leaving c now rest).filter (fun m => !s.keeper.isJudged m.id) := by
              refine List.filter_congr fun m hm => ?_
              have hm' : m ∈ rest := (List.takeWhile_sublist _).subset hm
              have hdifferent : Song.sameId m.id n.id = false := by
                rw [Song.sameId_comm]
                exact hother m hm'
              rw [hfirst.isJudged]
              simp [missed, hdifferent]
            rw [misses, misses, hfilter]
          rw [sweepFrom_of_recorded rest hleft hjudged hrecord, hreturns, hindex, hsame, hstep]
          refine ⟨?_, ?_⟩
          · simp [misses, hjudged, Except.map]
          · show s.missIndex + 1 + _ = s.missIndex + (_ + 1)
            omega

/-! ## §3 Sound sessions -/

/-- What holds of every session that a run of songs that can be played reaches: its course is
steady, hits and score are in step, its song can be played, its accuracy is that of its score, and
as long as the score changes, the notes that were swept are judged. -/
structure Sound (c : Setup F R) (s : Session F R) : Prop where
  steady : s.Steady
  inStep : s.InStep c.scoring
  plays : ∀ song, s.song = some song → c.Plays song
  rated : s.keeper.IsRated
  swept : s.keeper.frozen = false → ∀ n ∈ s.notes.take s.missIndex, s.keeper.isJudged n.id = true

namespace Sound

theorem computes (hs : s.Sound c) (hgains : c.scoring.Gains) :
    c.scoring.Computes s.notes.length :=
  Scored.computes (fun song hsong => (hs.plays song hsong).reaches) hgains

theorem identifying (hs : s.Sound c) : ∀ n ∈ s.notes, Song.isIdentifying n.id = true := by
  rcases s.notes_cases with hnone | ⟨song, hsong, hnotes⟩
  · simp [hnone]
  · rw [hnotes]
    exact (hs.plays song hsong).identifying

theorem distinct (hs : s.Sound c) :
    s.notes.Pairwise fun m n => Song.sameId m.id n.id = false := by
  rcases s.notes_cases with hnone | ⟨song, hsong, hnotes⟩
  · simp [hnone]
  · rw [hnotes]
    exact (hs.plays song hsong).distinct

end Sound

/-- **What a sweep does**: it passes the notes from the cursor on that have left the hit window, and
marks and returns as missed those of them that were not judged. -/
theorem sweep_eq (hs : s.Sound c) (hgains : c.scoring.Gains) (hopen : s.keeper.frozen = false) :
    let left := leaving c (s.inputTime c) (s.notes.drop s.missIndex)
    s.Marks (s.misses (s.inputTime c) left) (s.sweep c).2 ∧
      (s.sweep c).1 = .ok (s.misses (s.inputTime c) left) ∧
      (s.sweep c).2.missIndex = s.missIndex + left.length := by
  intro left
  have hrest : ∀ n ∈ s.notes.drop s.missIndex, n ∈ s.notes := fun n hn => List.mem_of_mem_drop hn
  obtain ⟨hreturns, hindex⟩ := sweepFrom_eq (c := c) hs.inStep (hs.computes hgains) hopen
    (s.inputTime c) hrest (fun n hn => hs.identifying n (hrest n hn))
    (hs.distinct.sublist (List.drop_sublist _ _))
  obtain ⟨hits, hmarks, htold⟩ := sweep_marks hs.inStep (hs.computes hgains) c
  have hsweep : (s.sweep c).1 = .ok (s.misses (s.inputTime c) left) := hreturns
  -- What was returned is what was marked
  have hhits : s.misses (s.inputTime c) left = hits :=
    Except.ok.inj (hsweep.symm.trans (htold hopen hs.identifying))
  exact ⟨hhits ▸ hmarks, hsweep, hindex⟩

namespace Sound

/-- The notes before the cursor, and those that a sweep passes. -/
theorem take_missIndex_sweep (hs : s.Sound c) (hgains : c.scoring.Gains)
    (hopen : s.keeper.frozen = false) :
    s.notes.take (s.sweep c).2.missIndex =
      s.notes.take s.missIndex ++ leaving c (s.inputTime c) (s.notes.drop s.missIndex) := by
  rw [(sweep_eq hs hgains hopen).2.2, List.take_add]
  congr 1
  exact List.prefix_iff_eq_take.mp (List.takeWhile_prefix _) |>.symm

/-- After a sweep the notes that it passed are judged. -/
theorem judged_after_sweep (hs : s.Sound c) (hgains : c.scoring.Gains)
    (hopen : s.keeper.frozen = false) {n : Note R}
    (hn : n ∈ s.notes.take (s.sweep c).2.missIndex) :
    (s.sweep c).2.keeper.isJudged n.id = true := by
  obtain ⟨hmarks, -, -⟩ := sweep_eq hs hgains hopen
  rw [take_missIndex_sweep hs hgains hopen] at hn
  cases hjudged : s.keeper.isJudged n.id with
  | true => exact hmarks.isJudged_of hjudged
  | false =>
    rcases List.mem_append.mp hn with hbefore | hleft
    · exact absurd (hjudged.symm.trans (hs.swept hopen n hbefore)) nofun
    · have hmem : n ∈ s.notes :=
        List.mem_of_mem_drop ((List.takeWhile_sublist _).subset hleft)
      rw [hmarks.isJudged, hjudged, Bool.false_or, List.any_eq_true]
      refine ⟨missed (s.inputTime c) n, List.mem_map.mpr ⟨n, ?_, rfl⟩, ?_⟩
      · exact List.mem_filter.mpr ⟨hleft, by simp [hjudged]⟩
      · rw [missed, Song.sameId_self]
        exact hs.identifying n hmem

/-! ## §4 Sound sessions stay sound -/

theorem fresh (c : Setup F R) : (Session.fresh c).Sound c where
  steady := .fresh c
  inStep := .of_fresh rfl rfl
  plays song h := by cases h
  rated := Keeper.isRated_fresh c.scoring
  swept _ n hn := by cases hn

/-- Marks keep a session sound if the cursor stays. -/
theorem of_marks (hs : s.Sound c) {t : Session F R} {hits : List (Hit F R)} (h : s.Marks hits t)
    (hindex : t.missIndex = s.missIndex) : t.Sound c where
  steady := hs.steady.of_sameCourse h.sameCourse
  inStep := hs.inStep.of_marks h
  plays song hsong := hs.plays song (h.sameCourse.song.symm.trans hsong)
  rated := h.isRated hs.rated
  swept hopen n hn := by
    rw [h.sameCourse.notes, hindex] at hn
    exact h.isJudged_of (hs.swept (h.sameCourse.frozen.symm.trans hopen) n hn)

theorem judge (hs : s.Sound c) (hgains : c.scoring.Gains) (pitch : HeardPitch F) :
    (s.judge c pitch).2.Sound c := by
  obtain ⟨hits, hmarks, -⟩ := judge_marks hs.inStep (hs.computes hgains)
    (fun hactive => (hs.steady.of_active hactive).2) c pitch
  exact hs.of_marks hmarks (judge_missIndex c pitch s)

theorem readSlot (hs : s.Sound c) (hgains : c.scoring.Gains) (hopen : s.keeper.frozen = false) :
    (s.readSlot c).2.Sound c := by
  obtain ⟨hits, hmarks, -⟩ := readSlot_marks hs.inStep (hs.computes hgains) hopen c
  exact hs.of_marks hmarks (readSlot_missIndex c s)

theorem sweep (hs : s.Sound c) (hgains : c.scoring.Gains) : (s.sweep c).2.Sound c := by
  have hcourse := sweep_sameCourse c s
  obtain ⟨hits, hmarks, -⟩ := sweep_marks hs.inStep (hs.computes hgains) c
  exact {
    steady := hs.steady.of_sameCourse hcourse
    inStep := hs.inStep.of_marks hmarks
    plays := fun song hsong => hs.plays song (hcourse.song.symm.trans hsong)
    rated := hmarks.isRated hs.rated
    swept := by
      intro hopen n hn
      rw [hcourse.frozen] at hopen
      rw [hcourse.notes] at hn
      exact hs.judged_after_sweep hgains hopen hn }

/-- What keeps the score and leaves the course steady keeps a session sound. A score that was frozen
in between changes no more, so that nothing is asked of it. -/
theorem of_sameScore (hs : s.Sound c) {t : Session F R} (h : s.SameScore t) (hsteady : t.Steady) :
    t.Sound c where
  steady := hsteady
  inStep := hs.inStep.of_sameScore h
  plays song hsong := hs.plays song (h.song.symm.trans hsong)
  rated := by
    rw [h.keeper]
    exact hs.rated
  swept hopen n hn := by
    rw [h.notes, h.missIndex] at hn
    rw [h.isJudged]
    exact hs.swept (h.open_of hopen) n hn

theorem moved (hs : s.Sound c) (hactive : s.phase.isActive = true) (now : R) :
    (s.moved c now).Sound c :=
  hs.of_sameScore (moved_sameScore c now s) (hs.steady.moved hactive c now)

theorem finish (hs : s.Sound c) : s.finish.Sound c :=
  hs.of_sameScore (finish_sameScore s) hs.steady.finish

theorem tick (hs : s.Sound c) (hgains : c.scoring.Gains) (now : R) : (s.tick c now).2.Sound c := by
  rcases s.active_or_idle with ⟨song, hactive, hsong⟩ | hidle
  · have hopen := (hs.steady.of_active hactive).2
    have hheard := (hs.moved hactive now).readSlot hgains hopen
    have hswept := hheard.sweep hgains
    rcases tick_cases (c := c) now hactive hsong with
      ⟨_, -, htick⟩ | ⟨_, _, -, -, htick⟩ | ⟨_, _, _, -, -, -, htick⟩ | ⟨_, _, -, -, -, htick⟩ |
        ⟨_, _, -, -, -, htick⟩ <;> rw [htick]
    · exact hheard
    · exact hswept
    · exact hswept
    · exact hswept
    · exact hswept.finish
  · rw [tick_of_idle now hidle]
    exact hs

/-- Every event keeps a session sound, if the songs it starts can be played. -/
theorem after (hs : s.Sound c) (hgains : c.scoring.Gains) {e : R × Event F R}
    (hstart : ∀ song, e.2 = .start song → c.Plays song) : (s.after c e).Sound c := by
  have hsteady := hs.steady.after c e
  have hinStep := hs.inStep.after hs.steady hgains (fun song h => (hs.plays song h).reaches) e
  obtain ⟨now, e⟩ := e
  cases e with
  | start song =>
    refine ⟨hsteady, hinStep, fun song' hsong => ?_, Keeper.isRated_fresh c.scoring,
      fun _ n hn => (by cases hn)⟩
    cases hsong
    exact hstart song rfl
  | tick => exact hs.tick hgains now
  | pause => exact hs.of_sameScore (pause_sameScore now s) hsteady
  | resume => exact hs.of_sameScore (resume_sameScore now s) hsteady
  | finish => exact hs.finish
  | reset =>
    exact ⟨hsteady, hinStep, fun song h => (by cases h), Keeper.isRated_fresh c.scoring,
      fun _ n hn => (by cases hn)⟩
  | judge pitch => exact hs.judge hgains pitch
  | sweep => exact hs.sweep hgains
  | hear pitch => exact hs.of_sameScore (hear_sameScore pitch s) hsteady

end Sound

/-- **Every session that a run reaches is sound**, if the songs it starts can be played. -/
theorem sound_run (hgains : c.scoring.Gains) {events : List (R × Event F R)}
    (hplays : ∀ now song, (now, Event.start song) ∈ events → c.Plays song) :
    ((fresh c).run c events).Sound c := by
  -- The induction is on the events, for every sound session that a run may begin with
  have hrun : ∀ s : Session F R, s.Sound c → (s.run c events).Sound c := by
    induction events with
    | nil => exact fun s hs => hs
    | cons e rest ih =>
      intro s hs
      refine ih (fun now song hmem => hplays now song (List.mem_cons_of_mem _ hmem)) _ ?_
      refine hs.after hgains fun song he => hplays e.1 song ?_
      rw [← he]
      exact List.mem_cons_self
  exact hrun _ (.fresh c)

end Session

end Lamella
