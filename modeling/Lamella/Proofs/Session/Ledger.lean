import Lamella.Proofs.Session.Phases
import Lamella.Proofs.Session.Timing

/-!
# The ledger of a session

What matters of a session's judgments for its score is the ledger: which note was judged to be of
which tier, in order. Beside it stand the notes that are still pending. Whatever judges writes into
the ledger and takes from what is pending, and what it writes is told here by what is pending, by
the estimate that is heard and by the song time, without the cursor and the sets that judging uses
to find it.

## Main definitions

- `Session.ledger`, `Session.pending`: what was judged, and what was not.
- `Session.found`, `Session.heard`: the judgment of an estimate, and of the one in the slot.
- `Session.Advanced`: what a tick does besides judging.

## Main statements

- `Session.InStep.score_of_ledger`, `Session.Sound.accuracy_of_perm`: the ledger determines the
  score, and in any order the counters and the accuracy.
- `Session.Sound.sweep_writes`, `Session.Sound.judge_writes`, `Session.Sound.tick_writes`: what
  sweeping, judging and ticking write.
-/

namespace Lamella

/-- The accuracy is a matter of the counters. -/
theorem Keeper.accuracy_congr {R : Type} [Scalar R] (w : Worth) {a b : Score R}
    (h : ∀ t, a.count t = b.count t) : accuracy w a = accuracy w b := by
  have hjudged : a.judged = b.judged := by
    rw [Score.judged_eq_sum, Score.judged_eq_sum, h, h, h, h]
  have hearned : a.earned w = b.earned w := by
    have hperfect : a.perfect = b.perfect := h .perfect
    have hgood : a.good = b.good := h .good
    have hokay : a.okay = b.okay := h .okay
    have hmiss : a.miss = b.miss := h .miss
    unfold Score.earned
    rw [hperfect, hgood, hokay, hmiss]
  unfold accuracy
  rw [hjudged, hearned]

namespace Session

/-! ## §1 Judged and pending notes -/

section Made

variable {F R : Type}

/-- The hit that judging has made, if it has made one. -/
def made (result : Except Fault (Option (Hit F R))) : List (Hit F R) :=
  (result.toOption.getD none).toList

@[simp] theorem made_ok (hit : Option (Hit F R)) : made (.ok hit) = hit.toList := rfl

end Made

section Ledger

variable {F R : Type} [Scalar R] {s t : Session F R} {xs : List (Hit F R)}

/-- The judgment of a hit. -/
def judgment (h : Hit F R) : Value R × Tier := (h.note, h.tier)

/-- The judgments of a session, in order. -/
def ledger (s : Session F R) : List (Value R × Tier) := s.hits.map judgment

/-- The notes of the song that were not judged, in order. -/
def pending (s : Session F R) : List (Note R) := s.notes.filter fun n => !s.keeper.isJudged n.id

/-- What is left of some notes when those of some hits are taken out. -/
def without (hits : List (Hit F R)) (notes : List (Note R)) : List (Note R) :=
  notes.filter fun n => !hits.any fun h => Song.sameId n.id h.note

/-- The judgments of some notes as missed. -/
def lapse (notes : List (Note R)) : List (Value R × Tier) := notes.map fun n => (n.id, .miss)

@[simp] theorem without_nil (notes : List (Note R)) : without ([] : List (Hit F R)) notes = notes :=
  List.filter_true notes

theorem without_append (hits : List (Hit F R)) (ms ns : List (Note R)) :
    without hits (ms ++ ns) = without hits ms ++ without hits ns := List.filter_append ..

@[simp] theorem lapse_nil : lapse ([] : List (Note R)) = [] := rfl

@[simp] theorem lapse_append (ms ns : List (Note R)) : lapse (ms ++ ns) = lapse ms ++ lapse ns :=
  List.map_append

theorem SameScore.ledger (h : s.SameScore t) : t.ledger = s.ledger := by
  unfold Session.ledger
  rw [h.hits]

theorem SameScore.pending (h : s.SameScore t) : t.pending = s.pending := by
  unfold Session.pending
  rw [h.notes]
  simp only [h.isJudged]

theorem ledger_length (s : Session F R) : s.ledger.length = s.hits.length := List.length_map ..

/-- Marks write their judgments into the ledger. -/
theorem Marks.ledger (h : s.Marks xs t) : t.ledger = s.ledger ++ xs.map judgment := by
  unfold Session.ledger
  rw [h.hits_eq, List.map_append]

/-- Marks take their notes from what is pending. -/
theorem Marks.pending (h : s.Marks xs t) : t.pending = without xs s.pending := by
  unfold Session.pending without
  rw [h.sameCourse.notes, List.filter_filter]
  refine List.filter_congr fun n _ => ?_
  rw [h.isJudged, Bool.not_or, Bool.and_comm]

/-- **The ledger determines the score.** -/
theorem InStep.score_of_ledger {scoring : Scoring R} (hs : s.InStep scoring)
    (ht : t.InStep scoring) (h : t.ledger = s.ledger) : t.keeper.score = s.keeper.score := by
  have hreplay : t.hits.map (fun h => (h.note, h.tier)) = s.hits.map fun h => (h.note, h.tier) := h
  rw [ht.replayed, hs.replayed, hreplay]

/-- The counters count the ledger in any order. -/
theorem InStep.count_of_perm {scoring : Scoring R} (hs : s.InStep scoring) (ht : t.InStep scoring)
    (h : t.ledger.Perm s.ledger) (tier : Tier) :
    t.keeper.score.count tier = s.keeper.score.count tier := by
  have hcount : ∀ u : Session F R,
      u.hits.countP (fun h => h.tier == tier) = u.ledger.countP fun j => j.2 == tier := by
    intro u
    rw [ledger, List.countP_map]
    rfl
  rw [ht.counted, hs.counted, hcount, hcount]
  exact h.countP_eq _

end Ledger

variable {F R : Type} [Analytic F] [Scalar R] {c : Setup F R} {s t : Session F R}

/-- So does the accuracy. -/
theorem Sound.accuracy_of_perm (hs : s.Sound c) (ht : t.Sound c) (h : t.ledger.Perm s.ledger) :
    t.keeper.score.accuracy = s.keeper.score.accuracy := by
  have hrated := hs.rated
  have hrated' := ht.rated
  rw [Keeper.IsRated, hs.inStep.scoring_eq] at hrated
  rw [Keeper.IsRated, ht.inStep.scoring_eq,
    Keeper.accuracy_congr _ (hs.inStep.count_of_perm ht.inStep h), hrated] at hrated'
  exact (Except.ok.inj hrated').symm

/-- The notes that are still pending are among those that a sweep has ahead. -/
theorem Sound.pending_eq (hs : s.Sound c) (hopen : s.keeper.frozen = false) :
    s.pending = (s.notes.drop s.missIndex).filter fun n => !s.keeper.isJudged n.id := by
  have hpassed : (s.notes.take s.missIndex).filter (fun n => !s.keeper.isJudged n.id) = [] := by
    refine List.filter_eq_nil_iff.mpr fun n hn => ?_
    simp [hs.swept hopen n hn]
  unfold pending
  conv_lhs => rw [← List.take_append_drop s.missIndex s.notes, List.filter_append, hpassed]
  rfl

omit [Analytic F] in
theorem mem_notes_of_pending {n : Note R} (hn : n ∈ s.pending) : n ∈ s.notes :=
  List.mem_of_mem_filter hn

omit [Analytic F] in
/-- A session without a song has nothing pending. -/
theorem pending_of_idle (hs : s.Steady) (hidle : s.phase = .idle) : s.pending = [] := by
  unfold pending notes
  rw [hs.idle_iff.mp hidle]
  rfl

/-! ## §2 Sweeping -/

variable [Scalar.Orderly R]

/-- What is later than a note that has not left the window has not left it either. -/
theorem hasLeft_front {now : R} {notes : List (Note R)}
    (horder : notes.Pairwise fun m n => m.time ≤ n.time) :
    notes.Pairwise fun m n => hasLeft c now n = true → hasLeft c now m = true := by
  refine horder.imp fun {m n} hmn h => decide_eq_true ?_
  have hlate : c.settings.hitSeconds < now - n.time := of_decide_eq_true h
  exact Scalar.lt_sub_of_le hlate (Scalar.Orderly.le_refl_of_lt_sub hlate).1 hmn

/-- The notes that a sweep misses are the first of those pending, up to one that has not left. -/
theorem Sound.leaving_pending (hs : s.Sound c) (hopen : s.keeper.frozen = false)
    (horder : s.notes.Pairwise fun m n => m.time ≤ n.time) (now : R) :
    (leaving c now (s.notes.drop s.missIndex)).filter (fun n => !s.keeper.isJudged n.id) =
      leaving c now s.pending := by
  have hahead := horder.sublist (List.drop_sublist s.missIndex s.notes)
  rw [hs.pending_eq hopen, leaving, leaving, Order.takeWhile_eq_filter (hasLeft_front hahead),
    Order.takeWhile_eq_filter (hasLeft_front (hahead.sublist List.filter_sublist)),
    List.filter_filter, List.filter_filter]
  exact List.filter_congr fun n _ => Bool.and_comm ..

omit [Scalar.Orderly R] in
/-- The misses of the first of some notes take out just these, if no two have the same id. -/
theorem without_front {front back : List (Note R)}
    (hids : ∀ n ∈ front, Song.isIdentifying n.id = true)
    (hdistinct : (front ++ back).Pairwise fun m n => Song.sameId m.id n.id = false) (now : R) :
    without (front.map (missed now : Note R → Hit F R)) (front ++ back) = back := by
  obtain ⟨-, -, hapart⟩ := List.pairwise_append.mp hdistinct
  unfold without
  rw [List.filter_append, List.filter_eq_nil_iff.mpr, List.filter_eq_self.mpr, List.nil_append]
  · intro n hn
    simp only [List.any_map, Bool.not_eq_true', List.any_eq_false]
    intro m hm
    simp [missed, Song.sameId_comm n.id m.id, hapart m hm n hn]
  · intro n hn
    -- A note with an id of its own is taken out by its own miss
    simp only [List.any_map, Bool.not_eq_true', Bool.not_eq_false, List.any_eq_true]
    exact ⟨n, hn, (Song.sameId_self n.id).trans (hids n hn)⟩

/-- **What a sweep writes**: as missed, the notes pending that have left the window. -/
theorem Sound.sweep_writes (hs : s.Sound c) (hgains : c.scoring.Gains)
    (hopen : s.keeper.frozen = false)
    (horder : s.notes.Pairwise fun m n => m.time ≤ n.time) :
    (s.sweep c).1 = .ok ((leaving c (s.inputTime c) s.pending).map (missed (s.inputTime c))) ∧
      (s.sweep c).2.ledger = s.ledger ++ lapse (leaving c (s.inputTime c) s.pending) ∧
      (s.sweep c).2.pending = s.pending.dropWhile (hasLeft c (s.inputTime c)) := by
  obtain ⟨hmarks, hreturns, -⟩ := sweep_eq hs hgains hopen
  unfold misses at hmarks hreturns
  rw [hs.leaving_pending hopen horder] at hmarks hreturns
  refine ⟨hreturns, ?_, ?_⟩
  · rw [hmarks.ledger, List.map_map]
    rfl
  · -- The misses are of the first of the pending notes, and take away no other
    rw [hmarks.pending]
    have hsplit : leaving c (s.inputTime c) s.pending ++
        s.pending.dropWhile (hasLeft c (s.inputTime c)) = s.pending := List.takeWhile_append_dropWhile
    have hdistinct : s.pending.Pairwise fun m n => Song.sameId m.id n.id = false :=
      hs.distinct.sublist List.filter_sublist
    rw [← hsplit] at hdistinct
    have hids : ∀ n ∈ leaving c (s.inputTime c) s.pending, Song.isIdentifying n.id = true :=
      fun n hn => hs.identifying n (mem_notes_of_pending ((List.takeWhile_sublist _).subset hn))
    have htaken := without_front (F := F) hids hdistinct (s.inputTime c)
    rwa [hsplit] at htaken

omit [Scalar.Orderly R] in
/-- A sweep of a finished session writes nothing. -/
theorem sweep_of_frozen (hfrozen : s.keeper.frozen = true) :
    (s.sweep c).2.ledger = s.ledger ∧ (s.sweep c).2.pending = s.pending := by
  obtain ⟨hkeeper, hhits⟩ :=
    sweepFrom_of_frozen c (s.inputTime c) (s.notes.drop s.missIndex) hfrozen
  have hnotes := (sweep_sameCourse c s).notes
  refine ⟨congrArg (List.map judgment) hhits, ?_⟩
  have hkeeper' : (s.sweep c).2.keeper = s.keeper := hkeeper
  rw [pending, pending, hnotes, hkeeper']

/-! ## §3 Judging -/

omit [Scalar.Orderly R] in
/-- Whether a note lies in the hit window. -/
def inWindow (c : Setup F R) (now : R) (n : Note R) : Bool :=
  !decide (n.time < now - c.settings.hitSeconds) && !decide (now + c.settings.hitSeconds < n.time)

/-- The hit zone holds the notes pending that lie in the hit window. -/
theorem hitZone_eq (horder : s.notes.Pairwise fun m n => m.time ≤ n.time) :
    s.hitZone c = s.pending.filter (inWindow c (s.inputTime c)) := by
  unfold hitZone pending
  dsimp only
  rw [unjudgedBetween_eq horder, List.filter_comm]
  rfl

/-- The judgment of an estimate in an active session. -/
def found (c : Setup F R) (pitch : HeardPitch F) (s : Session F R) :
    Except Fault (Option (Hit F R)) :=
  if c.matcher.accepts pitch then firstHit c (s.inputTime c) pitch (s.hitZone c) else .ok none

/-- The judgment of the estimate in the slot, if it is new, in an active session. -/
def heard (c : Setup F R) (s : Session F R) : Except Fault (Option (Hit F R)) :=
  if s.slot.version = s.seen then .ok none else s.slot.pitch.elim (.ok none) fun p => s.found c p

omit [Scalar.Orderly R] in
theorem found_congr {pitch : HeardPitch F} (htime : t.inputTime c = s.inputTime c)
    (hzone : t.hitZone c = s.hitZone c) : t.found c pitch = s.found c pitch := by
  unfold found
  rw [htime, hzone]

omit [Scalar.Orderly R] in
theorem heard_congr (hslot : t.slot = s.slot) (hseen : t.seen = s.seen)
    (htime : t.inputTime c = s.inputTime c) (hzone : t.hitZone c = s.hitZone c) :
    t.heard c = s.heard c := by
  unfold heard
  rw [hslot, hseen]
  simp only [found_congr htime hzone]

omit [Scalar.Orderly R] in
/-- Where no note is in the hit zone, no estimate hits one. -/
theorem found_of_empty {pitch : HeardPitch F} (hzone : s.hitZone c = []) :
    s.found c pitch = .ok none := by
  unfold found
  rw [hzone]
  split <;> rfl

omit [Scalar.Orderly R] in
theorem heard_of_empty (hzone : s.hitZone c = []) : s.heard c = .ok none := by
  unfold heard
  split
  · rfl
  · cases s.slot.pitch with
    | none => rfl
    | some pitch => exact found_of_empty hzone

omit [Scalar.Orderly R] in
/-- What is hit is a note in the hit zone. -/
theorem mem_hitZone_of_heard {hit : Hit F R} (h : s.heard c = .ok (some hit)) :
    ∃ n ∈ s.hitZone c, n.id = hit.note := by
  unfold heard at h
  split at h
  · cases h
  · cases hpitch : s.slot.pitch with
    | none =>
      rw [hpitch] at h
      cases h
    | some pitch =>
      rw [hpitch, Option.elim_some, found] at h
      split at h
      · obtain ⟨n, hn, cents, hit_eq⟩ := firstHit_eq_some h
        exact ⟨n, hn, by rw [hit_eq]⟩
      · cases h

omit [Scalar.Orderly R] in
theorem judge_of_idle (hidle : s.phase.isActive = false) (pitch : HeardPitch F) :
    s.judge c pitch = (.ok none, s) := by
  unfold judge
  rw [if_pos (by simp [hidle])]

omit [Scalar.Orderly R] in
/-- **What judging writes**: the judgment that it returns. -/
theorem Sound.judge_writes (hs : s.Sound c) (hgains : c.scoring.Gains)
    (hactive : s.phase.isActive = true) (pitch : HeardPitch F) :
    (s.judge c pitch).1 = s.found c pitch ∧
      s.Marks (made (s.found c pitch)) (s.judge c pitch).2 := by
  have hfound : (s.judge c pitch).1 = s.found c pitch := by
    unfold Session.judge found
    cases haccepts : c.matcher.accepts pitch with
    | false => simp
    | true =>
      simp only [hactive, Bool.not_true, Bool.or_false, Bool.false_eq_true, if_false, if_true]
      rcases hfirst : firstHit c (s.inputTime c) pitch (s.hitZone c) with fault | _ | hit
      · rfl
      · rfl
      · -- The note that is hit is one of the song, so its hit is recorded
        obtain ⟨n, hn, cents, hit_eq⟩ := firstHit_eq_some hfirst
        have hmem := (mem_hitZone hn).1
        have hnote : n.id = hit.note := by rw [hit_eq]
        have hid : Song.isIdentifying hit.note = true := hnote ▸ hs.identifying n hmem
        rcases record_cases hs.inStep (hs.computes hgains) ⟨n, hmem, hnote⟩ with
          ⟨-, hrecord⟩ | ⟨hunknown, -⟩ | ⟨t, -, hrecord⟩
        · simp only [hrecord]
        · exact absurd (hunknown.symm.trans hid) nofun
        · simp only [hrecord]
  refine ⟨hfound, ?_⟩
  obtain ⟨hits, hmarks, hreturns⟩ := judge_marks hs.inStep (hs.computes hgains)
    (fun _ => (hs.steady.of_active hactive).2) c pitch
  -- What was marked is what was returned
  rcases hreturns with ⟨fault, hfault, rfl⟩ | ⟨hit, hhit, rfl⟩
  · rw [← hfound, hfault]
    exact hmarks
  · rw [← hfound, hhit]
    exact hmarks

omit [Scalar.Orderly R] in
/-- Reading the slot writes the judgment of a new estimate, and counts it as read. -/
theorem Sound.readSlot_writes (hs : s.Sound c) (hgains : c.scoring.Gains)
    (hactive : s.phase.isActive = true) :
    (s.readSlot c).1 = s.heard c ∧ s.Marks (made (s.heard c)) (s.readSlot c).2 := by
  have hread : s.Marks [] { s with seen := s.slot.version } :=
    Marks.none.reading s.slot.version s.missIndex
  have hs' : ({ s with seen := s.slot.version } : Session F R).Sound c := hs.of_marks hread rfl
  unfold Session.readSlot heard
  split
  · exact ⟨rfl, .none⟩
  · dsimp only
    split <;> rename_i hpitch <;> rw [hpitch]
    · exact ⟨rfl, hread⟩
    · obtain ⟨hfound, hmarks⟩ := hs'.judge_writes hgains hactive _
      exact ⟨hfound, hread.trans hmarks⟩

/-! ## §4 Ticking -/

omit [Scalar.Orderly R]

omit [Analytic F] in
theorem record_seen (hit : Hit F R) (s : Session F R) : (s.record hit).2.seen = s.seen := by
  unfold record
  split <;> rfl

theorem sweepFrom_seen (c : Setup F R) (now : R) (notes : List (Note R)) (s : Session F R) :
    (sweepFrom c now notes s).2.seen = s.seen := by
  induction notes generalizing s with
  | nil => rfl
  | cons n rest ih =>
    cases hleft : hasLeft c now n with
    | false => rw [sweepFrom_of_staying rest hleft]
    | true =>
      cases hjudged : s.keeper.isJudged n.id with
      | true =>
        rw [sweepFrom_of_judged rest hleft hjudged]
        exact ih s.passed
      | false =>
        have hseen := record_seen (missed now n) s.passed
        rcases hrecord : s.passed.record (missed now n) with ⟨fault | ⟨⟩, t⟩ <;> rw [hrecord] at hseen
        · rw [sweepFrom_of_refused rest hleft hjudged hrecord]
          exact hseen
        · rw [sweepFrom_of_recorded rest hleft hjudged hrecord]
          exact (ih t).trans hseen

theorem judge_seen (c : Setup F R) (pitch : HeardPitch F) (s : Session F R) :
    (s.judge c pitch).2.seen = s.seen := by
  unfold judge
  split
  · rfl
  · split
    · rfl
    · rfl
    · rename_i hit _
      have hrecord := record_seen hit s
      split <;> rename_i heq <;> rw [heq] at hrecord <;> exact hrecord

/-- What was in the slot counts as read afterwards. -/
theorem readSlot_seen (c : Setup F R) (s : Session F R) :
    (s.readSlot c).2.seen = s.slot.version := by
  unfold readSlot
  split
  · rename_i hread
    exact hread.symm
  · dsimp only
    split
    · rfl
    · exact judge_seen c _ _

/-- The course of a session after a tick at a reading of the clock that found it active. -/
structure Advanced (c : Setup F R) (now : R) (s t : Session F R) : Prop where
  anchor : t.anchor = s.anchor
  slot : t.slot = s.slot
  pausedAt : t.pausedAt = s.pausedAt
  progress : t.progress = now - s.anchor - c.leadIn
  seen : t.seen = s.slot.version
  phase : t.phase.isActive = true ∨ t.phase = .finished

namespace Advanced

theorem of_sameCourse {now : R} (hactive : s.phase.isActive = true)
    (h : (s.moved c now).SameCourse t) (hseen : t.seen = s.slot.version) :
    Advanced c now s t where
  anchor := h.anchor
  slot := h.slot
  pausedAt := h.pausedAt
  progress := h.progress
  seen := hseen
  phase := .inl (by rw [h.phase]; exact moved_isActive hactive now)

theorem finish {now : R} (h : Advanced c now s t) : Advanced c now s t.finish := by
  unfold Session.finish
  split
  · exact h
  · exact ⟨h.anchor, h.slot, h.pausedAt, h.progress, h.seen, .inr rfl⟩

end Advanced

/-- A tick advances an active session. -/
theorem tick_advanced (now : R) {song : Song R} (hactive : s.phase.isActive = true)
    (hsong : s.song = some song) : Advanced c now s (s.tick c now).2 := by
  have hread := readSlot_sameCourse c (s.moved c now)
  have hheard : Advanced c now s ((s.moved c now).readSlot c).2 :=
    .of_sameCourse hactive hread (readSlot_seen c (s.moved c now))
  have hswept : Advanced c now s (((s.moved c now).readSlot c).2.sweep c).2 :=
    .of_sameCourse hactive (hread.trans (sweep_sameCourse c _))
      ((sweepFrom_seen ..).trans (readSlot_seen c (s.moved c now)))
  rcases tick_cases (c := c) now hactive hsong with
    ⟨_, -, htick⟩ | ⟨_, _, -, -, htick⟩ | ⟨_, _, _, -, -, -, htick⟩ | ⟨_, _, -, -, -, htick⟩ |
      ⟨_, _, -, -, -, htick⟩ <;> rw [htick]
  · exact hheard
  · exact hswept
  · exact hswept
  · exact hswept
  · exact hswept.finish

/-- The song time of the sound that is heard at a reading of the clock. -/
def heardAt (c : Setup F R) (now : R) (s : Session F R) : R :=
  now - s.anchor - c.leadIn - c.settings.latencySeconds

/-- The hit zone of a tick. -/
theorem hitZone_moved [Scalar.Orderly R] (horder : s.notes.Pairwise fun m n => m.time ≤ n.time)
    (now : R) : (s.moved c now).hitZone c = s.pending.filter (inWindow c (s.heardAt c now)) := by
  rw [hitZone_eq (s := s.moved c now) horder, (moved_sameScore c now s).pending]
  rfl

/-- What reading the slot writes in a tick. -/
theorem Sound.moved_writes (hs : s.Sound c) (hgains : c.scoring.Gains)
    (hactive : s.phase.isActive = true) (now : R) :
    ((s.moved c now).readSlot c).1 = (s.moved c now).heard c ∧
      ((s.moved c now).readSlot c).2.ledger =
        s.ledger ++ (made ((s.moved c now).heard c)).map judgment ∧
      ((s.moved c now).readSlot c).2.pending =
        without (made ((s.moved c now).heard c)) s.pending := by
  have hsame := moved_sameScore c now s
  obtain ⟨hreturns, hmarks⟩ :=
    (hs.moved hactive now).readSlot_writes hgains (moved_isActive hactive now)
  exact ⟨hreturns, by rw [hmarks.ledger, hsame.ledger], by rw [hmarks.pending, hsame.pending]⟩

/-- What the sweep of a tick writes then. -/
theorem Sound.swept_writes [Scalar.Orderly R] (hs : s.Sound c) (hgains : c.scoring.Gains)
    (horder : s.notes.Pairwise fun m n => m.time ≤ n.time) (hactive : s.phase.isActive = true)
    (now : R) :
    let read := ((s.moved c now).readSlot c).2
    (∃ hits, (read.sweep c).1 = .ok hits) ∧
      (read.sweep c).2.ledger =
        read.ledger ++ lapse (leaving c (s.heardAt c now) read.pending) ∧
      (read.sweep c).2.pending = read.pending.dropWhile (hasLeft c (s.heardAt c now)) := by
  intro read
  have hopen := (hs.steady.of_active hactive).2
  have hcourse := readSlot_sameCourse c (s.moved c now)
  have htime : read.inputTime c = s.heardAt c now := by
    rw [inputTime, hcourse.progress]
    rfl
  have hread : read.Sound c := (hs.moved hactive now).readSlot hgains hopen
  obtain ⟨hswept, hledger, hpending⟩ := hread.sweep_writes hgains (hcourse.frozen.trans hopen)
    (by rw [hcourse.notes]; exact horder)
  rw [htime] at hledger hpending
  exact ⟨⟨_, hswept⟩, hledger, hpending⟩

/-- **What a tick writes.** If judging the estimate in the slot fails, it writes nothing and goes on
no further. Else it writes the hit of the estimate and then, as missed, what is left pending of the
notes that have left the window; and it finishes the song if its time is over. -/
theorem Sound.tick_writes [Scalar.Orderly R] (hs : s.Sound c) (hgains : c.scoring.Gains)
    (horder : s.notes.Pairwise fun m n => m.time ≤ n.time) {song : Song R}
    (hactive : s.phase.isActive = true) (hsong : s.song = some song) (now : R) :
    let t := (s.tick c now).2
    (∃ fault, (s.moved c now).heard c = .error fault ∧ t.ledger = s.ledger ∧
      t.pending = s.pending ∧ t.phase ≠ .finished) ∨
    (∃ hit, (s.moved c now).heard c = .ok hit ∧
      t.ledger = s.ledger ++ hit.toList.map judgment ++
        lapse (leaving c (s.heardAt c now) (without hit.toList s.pending)) ∧
      t.pending = (without hit.toList s.pending).dropWhile (hasLeft c (s.heardAt c now)) ∧
      (t.phase = .finished ↔ song.duration.atMost (now - s.anchor - c.leadIn) = .ok true)) := by
  intro t
  obtain ⟨hreturns, hledger, hpending⟩ := hs.moved_writes hgains hactive now
  obtain ⟨⟨_, hswept⟩, hwrites, htakes⟩ := hs.swept_writes hgains horder hactive now
  rw [hpending] at hwrites htakes
  rw [hledger] at hwrites
  -- Judging leaves the course of the moved session, which is active, and its song time
  have hcourse := readSlot_sameCourse c (s.moved c now)
  have hcourse' := hcourse.trans (sweep_sameCourse c ((s.moved c now).readSlot c).2)
  have hgoing : ∀ u : Session F R, (s.moved c now).SameCourse u →
      u.phase ≠ .idle ∧ u.phase ≠ .finished := by
    intro u hu
    obtain ⟨hidle, -, hfinished⟩ := Phase.ne_of_isActive (moved_isActive (c := c) hactive now)
    exact ⟨hu.phase ▸ hidle, hu.phase ▸ hfinished⟩
  have hprogress := hcourse'.progress
  rcases tick_cases (c := c) now hactive hsong with
    ⟨fault, hfault, htick⟩ | ⟨_, fault, -, hfault, -⟩ |
      ⟨hit, _, fault, hhit, -, hover, htick⟩ | ⟨hit, _, hhit, -, hover, htick⟩ |
      ⟨hit, _, hhit, -, hover, htick⟩
  · rw [hreturns] at hfault
    rw [hfault] at hledger hpending
    have ht : t = ((s.moved c now).readSlot c).2 := congrArg Prod.snd htick
    refine .inl ⟨fault, hfault, ?_, ?_, ?_⟩ <;> rw [ht]
    · exact hledger.trans (List.append_nil _)
    · exact hpending.trans (without_nil _)
    · exact (hgoing _ hcourse).2
  · exact absurd (hfault.symm.trans hswept) nofun
  all_goals
    rw [hreturns] at hhit
    rw [hhit] at hwrites htakes
    rw [hprogress] at hover
    refine .inr ⟨hit, hhit, ?_⟩
  iterate 2
    · have ht : t = (((s.moved c now).readSlot c).2.sweep c).2 := by simp only [t, htick]
      rw [ht]
      refine ⟨hwrites, htakes, fun h => absurd h (hgoing _ hcourse').2, fun h => ?_⟩
      exact absurd (hover.symm.trans h) nofun
  · have ht : t = (((s.moved c now).readSlot c).2.sweep c).2.finish := congrArg Prod.snd htick
    have hfinish := finish_sameScore (((s.moved c now).readSlot c).2.sweep c).2
    rw [ht, hfinish.ledger, hfinish.pending]
    exact ⟨hwrites, htakes, fun _ => hover, fun _ => finish_phase (hgoing _ hcourse').1⟩

/-! ## §5 What is in the slot -/

/-- A session that has read what is in the slot, if it goes on. -/
def HasRead (t : Session F R) : Prop := t.phase.isActive = true → t.seen = t.slot.version

/-- A tick reads what is in the slot. -/
theorem hasRead_tick (hs : t.Steady) (c : Setup F R) (now : R) : HasRead (t.tick c now).2 := by
  intro hactive
  cases hactive' : t.phase.isActive with
  | false =>
    rw [tick_of_idle now (.inl hactive')] at hactive
    exact absurd (hactive.symm.trans hactive') nofun
  | true =>
    obtain ⟨song, hsong⟩ := Option.ne_none_iff_exists'.mp (hs.of_active hactive').1
    have hticked := tick_advanced (c := c) now hactive' hsong
    rw [hticked.seen, hticked.slot]

/-- Only a new estimate is not read yet. -/
theorem HasRead.after (hs : t.Steady) (h : HasRead t) {e : R × Event F R}
    (hsilent : ∀ pitch, e.2 ≠ .hear pitch) : HasRead (t.after c e) := by
  obtain ⟨now, e⟩ := e
  cases e with
  | start song => exact fun _ => rfl
  | tick => exact hasRead_tick hs c now
  | pause =>
    show HasRead (t.pause now)
    unfold Session.pause
    split
    · exact nofun
    · exact h
  | resume =>
    show HasRead (t.resume now)
    unfold Session.resume
    split
    · exact fun _ => rfl
    · exact h
  | finish =>
    show HasRead t.finish
    unfold Session.finish
    split
    · exact h
    · exact nofun
  | reset => exact nofun
  | judge pitch =>
    intro hactive
    have hcourse := judge_sameCourse c pitch t
    show (t.judge c pitch).2.seen = (t.judge c pitch).2.slot.version
    rw [judge_seen, hcourse.slot]
    exact h (hcourse.phase ▸ hactive)
  | sweep =>
    intro hactive
    have hcourse := sweep_sameCourse c t
    show (t.sweep c).2.seen = (t.sweep c).2.slot.version
    rw [hcourse.slot, sweep, sweepFrom_seen]
    exact h (hcourse.phase ▸ hactive)
  | hear pitch => exact absurd rfl (hsilent pitch)

end Session

end Lamella
