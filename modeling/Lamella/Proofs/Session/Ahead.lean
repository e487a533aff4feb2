import Lamella.Proofs.Session.Ledger

/-!
# A session ahead of another

Of two sessions that meet the same events, one may have been ticked more often. It has then missed
notes that the other has still pending, but which have left the hit window for good: it is ahead of
the other by some lapsed notes. What an event does to such a pair is told here for the events that
judge nothing, and in `Lamella.Proofs.Session.Lapsing` for those that judge.

## Main definitions

- `Session.StaysLeft`: a note that has left the hit window for good.
- `Session.Firm`, `Session.CaughtUp`, `Session.Unmixed`: what an event may be asked.
- `Session.Ahead`: one session is ahead of another by some notes.

## Main statements

- `Session.Sound.caughtUp_tick`: a tick that goes through leaves nothing to catch up with.
- `Session.Ahead.pause`, `resume`, `start`, `reset`, `finish`: what begins, stops and goes on leaves
  a session ahead.
-/

namespace Lamella.Session

variable {F R : Type} [Analytic F] [Scalar R] {c : Setup F R} {s t : Session F R}

/-! ## §1 What an event is asked -/

/-- Rounding does no harm: the song time begins where it is said to and goes on from where it was
stopped, and no pending note is late enough to be missed and still in the hit zone. -/
def Firm (c : Setup F R) (s : Session F R) : R × Event F R → Prop
  | (now, .start _) => -c.leadIn ≤ now - now - c.leadIn
  | (now, .resume) => s.phase = .paused →
      ∀ p, s.pausedAt = some p → p - s.anchor ≤ now - (s.resume now).anchor
  | (now, .tick) => s.phase.isActive = true → ∀ n ∈ s.pending,
      hasLeft c (s.heardAt c now) n = true → n.time < s.heardAt c now - c.settings.hitSeconds
  | _ => True

/-- In exact numbers nothing is rounded. -/
theorem firm_of_exact {c : Setup F Rat} (s : Session F Rat) (e : Rat × Event F Rat) :
    Firm c s e := by
  obtain ⟨now, e⟩ := e
  cases e with
  | start song =>
    show -c.leadIn ≤ now - now - c.leadIn
    linarith
  | resume =>
    intro hpaused p hp
    have hanchor : (s.resume now).anchor = s.anchor + (now - p) := by
      unfold resume
      rw [if_pos hpaused, hp]
      rfl
    rw [hanchor]
    linarith
  | tick =>
    intro _ n _ hleft
    have hlate : c.settings.hitSeconds < s.heardAt c now - n.time := of_decide_eq_true hleft
    linarith
  | _ => trivial

/-- A session that is not paused, and in which no note that has left the hit window is pending. -/
def CaughtUp (c : Setup F R) (s : Session F R) : Prop :=
  s.phase ≠ .paused ∧ ∀ n ∈ s.pending, hasLeft c (s.inputTime c) n = false

/-- A tick that goes through leaves an active session caught up. -/
theorem Sound.caughtUp_tick [Scalar.Orderly R] (hs : s.Sound c) (hgains : c.scoring.Gains)
    (horder : s.notes.Pairwise fun m n => m.time ≤ n.time) (hactive : s.phase.isActive = true)
    {now : R} {hits : List (Hit F R)} (hreturns : (s.tick c now).1 = .ok hits) :
    CaughtUp c (s.tick c now).2 := by
  obtain ⟨song, hsong⟩ := Option.ne_none_iff_exists'.mp (hs.steady.of_active hactive).1
  have hticked := tick_advanced (c := c) now hactive hsong
  have htime : (s.tick c now).2.inputTime c = s.heardAt c now := by
    rw [inputTime, hticked.progress, heardAt]
  constructor
  · rcases hticked.phase with hstill | hends
    · exact (Phase.ne_of_isActive hstill).2.1
    · rw [hends]
      decide
  · intro n hn
    rcases hs.tick_writes hgains horder hactive hsong now with
      ⟨fault, hfault, -⟩ | ⟨hit, -, -, hpending, -⟩
    · -- Where judging fails, so does the tick
      obtain ⟨hread, -⟩ := hs.moved_writes hgains hactive now
      rw [hfault] at hread
      rcases tick_cases (c := c) now hactive hsong with ⟨_, -, htick⟩ | ⟨_, _, hok, -⟩ |
        ⟨_, _, _, hok, -⟩ | ⟨_, _, hok, -⟩ | ⟨_, _, hok, -⟩
      · rw [htick] at hreturns
        cases hreturns
      all_goals
        rw [hread] at hok
        cases hok
    · have horder' : (without hit.toList s.pending).Pairwise fun m n => m.time ≤ n.time :=
        (horder.sublist List.filter_sublist).sublist List.filter_sublist
      rw [hpending, Order.dropWhile_eq_filter (hasLeft_front horder')] at hn
      rw [htime]
      simpa using (List.mem_filter.mp hn).2

/-- A tick that judges the estimate in the slot judges nothing else. -/
def Unmixed (c : Setup F R) (s : Session F R) : R × Event F R → Prop
  | (now, .tick) => ∀ hit, ((s.moved c now).readSlot c).1 = .ok (some hit) →
      (s.tick c now).2.hits.length = s.hits.length + 1
  | _ => True

/-- A tick with nothing new in the slot judges no estimate. -/
theorem unmixed_of_read (hread : s.seen = s.slot.version) (now : R) : Unmixed c s (now, .tick) := by
  intro hit hfound
  have hnone : (s.moved c now).readSlot c = (.ok none, s.moved c now) := if_pos hread.symm
  rw [hnone] at hfound
  cases hfound

/-- A tick that judges just an estimate misses no note. -/
theorem Unmixed.lapses_nothing {now : R} {notes : List (Note R)} {hit : Hit F R}
    (h : Unmixed c s (now, .tick)) (hs : s.Sound c) (hgains : c.scoring.Gains)
    (hactive : s.phase.isActive = true) (hheard : (s.moved c now).heard c = .ok (some hit))
    (hledger : (s.tick c now).2.ledger = s.ledger ++ [judgment hit] ++ lapse notes) :
    notes = [] := by
  have hone := h hit ((hs.moved_writes hgains hactive now).1.trans hheard)
  rw [← ledger_length, ← ledger_length, hledger] at hone
  simpa [lapse] using hone

/-! ## §2 Notes that stay left -/

/-- The readings of the clock from which the song time may go on: that of the pause, or any one from
now on. -/
def Awaits (now : R) (s : Session F R) (r : R) : Prop :=
  if s.phase = .paused then s.pausedAt = some r else now ≤ r

/-- A note that has left the hit window wherever the song time may go on. -/
def StaysLeft (c : Setup F R) (now : R) (s : Session F R) (n : Note R) : Prop :=
  ∀ r, s.Awaits now r → hasLeft c (s.heardAt c r) n = true

namespace StaysLeft

variable {past now : R} {n : Note R}

theorem hasLeft (h : s.StaysLeft c past n) (hgoing : s.phase ≠ .paused) (hpast : past ≤ now) :
    hasLeft c (s.heardAt c now) n = true :=
  h now (by rw [Awaits, if_neg hgoing]; exact hpast)

/-- Whether a note stays left is a matter of the clock of a session. -/
theorem congr {n : Note R} (h : s.StaysLeft c now n) (hphase : t.phase = .paused ↔ s.phase = .paused)
    (hanchor : t.anchor = s.anchor) (hpausedAt : t.pausedAt = s.pausedAt) :
    t.StaysLeft c now n := by
  intro r hr
  have hr' : s.Awaits now r := by
    unfold Awaits at hr ⊢
    rwa [hpausedAt, if_congr hphase rfl rfl] at hr
  have hleft := h r hr'
  unfold heardAt at hleft ⊢
  rwa [hanchor]

end StaysLeft

section Left

variable [Scalar.Orderly R] {past now : R} {n : Note R}

theorem hasLeft_of_lead_le {x y : R}
    (h : hasLeft c (x - c.leadIn - c.settings.latencySeconds) n = true) (hxy : x ≤ y) :
    hasLeft c (y - c.leadIn - c.settings.latencySeconds) n = true := by
  -- What a difference is above is a number, so that subtracting keeps the order
  have hlt : c.settings.hitSeconds < x - c.leadIn - c.settings.latencySeconds - n.time :=
    of_decide_eq_true h
  obtain ⟨z, hz⟩ := Scalar.Orderly.exists_lt_of_lt_sub hlt
  obtain ⟨z', hz'⟩ := Scalar.Orderly.exists_lt_of_lt_sub hz
  obtain ⟨-, hlead⟩ := Scalar.Orderly.le_refl_of_lt_sub hz'
  exact hasLeft_of_le h (Scalar.Orderly.sub_le_sub hz' hxy hlead)

/-- What has left at a reading of the clock has left at each later one. -/
theorem hasLeft_heardAt (h : hasLeft c (s.heardAt c past) n = true) (hpast : past ≤ now) :
    hasLeft c (s.heardAt c now) n = true := by
  have hlt : c.settings.hitSeconds <
      past - s.anchor - c.leadIn - c.settings.latencySeconds - n.time := of_decide_eq_true h
  obtain ⟨z, hz⟩ := Scalar.Orderly.exists_lt_of_lt_sub hlt
  obtain ⟨z', hz'⟩ := Scalar.Orderly.exists_lt_of_lt_sub hz
  obtain ⟨z'', hz''⟩ := Scalar.Orderly.exists_lt_of_lt_sub hz'
  obtain ⟨-, hanchor⟩ := Scalar.Orderly.le_refl_of_lt_sub hz''
  exact hasLeft_of_lead_le h (Scalar.Orderly.sub_le_sub hz'' hpast hanchor)

theorem staysLeft_of_hasLeft (hgoing : s.phase ≠ .paused)
    (h : hasLeft c (s.heardAt c now) n = true) : s.StaysLeft c now n := by
  intro r hr
  rw [Awaits, if_neg hgoing] at hr
  exact hasLeft_heardAt h hr

namespace StaysLeft

theorem later (h : s.StaysLeft c past n) (hpast : past ≤ now) : s.StaysLeft c now n := by
  intro r hr
  refine h r ?_
  unfold Awaits at hr ⊢
  split
  · rename_i hpaused
    rwa [if_pos hpaused] at hr
  · rename_i hgoing
    rw [if_neg hgoing] at hr
    exact Scalar.Orderly.le_trans hpast hr

/-- A pause stops the song time at its own reading of the clock. -/
theorem pause (h : s.StaysLeft c past n) (hpast : past ≤ now) :
    (s.pause now).StaysLeft c now n := by
  unfold Session.pause
  split
  · rename_i hactive
    intro r hr
    have hgoing : s.phase ≠ .paused := fun hpaused => by
      rw [hpaused] at hactive
      cases hactive
    rw [Awaits, if_pos rfl] at hr
    obtain rfl := Option.some.inj hr
    exact h.hasLeft hgoing hpast
  · exact h.later hpast

/-- From a pause the song time goes on where it stood. -/
theorem resume (hs : s.Steady) (h : s.StaysLeft c past n) (hpast : past ≤ now)
    (hfirm : Firm c s (now, .resume)) : (s.resume now).StaysLeft c now n := by
  by_cases hpaused : s.phase = .paused
  · obtain ⟨p, hp⟩ := Option.isSome_iff_exists.mp (hs.paused hpaused)
    have hleft := h p (by rw [Awaits, if_pos hpaused]; exact hp)
    refine staysLeft_of_hasLeft ?_ (hasLeft_of_lead_le hleft (hfirm hpaused p hp))
    -- What goes on is active
    have hphase : (s.resume now).phase = s.resumePhase := by
      unfold Session.resume
      rw [if_pos hpaused]
    have hactive := hs.resumes
    rw [← hphase] at hactive
    intro h'
    rw [h'] at hactive
    cases hactive
  · unfold Session.resume
    rw [if_neg hpaused]
    exact h.later hpast

end StaysLeft

end Left

/-! ## §3 One session ahead of another -/

/-- Two sessions that judge at the same pace: both go on or both are paused, on one clock, and what
has left in the first has left in the second and stays left. -/
structure Level (c : Setup F R) (now : R) (s t : Session F R) : Prop where
  phase : s.phase.isActive = true ∧ t.phase.isActive = true ∨
    s.phase = .paused ∧ t.phase = .paused
  anchor : t.anchor = s.anchor
  pausedAt : t.pausedAt = s.pausedAt
  seen : t.seen = s.seen
  left : ∀ n, hasLeft c (s.inputTime c) n = true → hasLeft c (t.inputTime c) n = true
  stays : ∀ n, hasLeft c (t.inputTime c) n = true → s.StaysLeft c now n

/-- The second session judges no more: it is idle or finished, and so is the first, or the second
has no note left to judge. -/
structure Over (s t : Session F R) : Prop where
  phase : t.phase = .idle ∨ t.phase = .finished
  done : s.phase = .finished ∨ t.pending = []

/-- The second session is ahead of the first by some notes: they are pending in the first, they will
not be heard there any more, and the second has missed them. -/
structure Ahead (c : Setup F R) (unmixed : Prop) (now : R) (lapsed : List (Note R))
    (s t : Session F R) : Prop where
  sound : s.Sound c
  sound' : t.Sound c
  fits : ∀ song, s.song = some song → song.InOrder ∧ song.Outlasts c
  song : t.song = s.song
  slot : t.slot = s.slot
  pending : s.pending = lapsed ++ t.pending
  ledger : t.ledger.Perm (s.ledger ++ lapse lapsed)
  same : unmixed → t.ledger = s.ledger ++ lapse lapsed
  stays : ∀ n ∈ lapsed, s.StaysLeft c now n
  settled : s.phase = .finished → lapsed = []
  pace : Level c now s t ∨ Over s t

/-- The song time of both is that of a tick, at which the lapsed notes have left. -/
def Synced (c : Setup F R) (lapsed : List (Note R)) (s t : Session F R) : Prop :=
  s.phase.isActive = true → (∀ n ∈ lapsed, hasLeft c (s.inputTime c) n = true) ∧
    (t.phase.isActive = true → t.inputTime c = s.inputTime c)

section Ahead

variable {unmixed : Prop} {past now : R} {lapsed : List (Note R)}

theorem Level.heardAt_eq (h : Level c past s t) (now : R) :
    t.heardAt c now = s.heardAt c now := by
  rw [heardAt, heardAt, h.anchor]

namespace Over

omit [Analytic F]

theorem pause (h : Over s t) (now : R) : Over (s.pause now) (t.pause now) := by
  have ht : t.pause now = t := by
    unfold Session.pause
    rcases h.phase with h' | h' <;> rw [h'] <;> rfl
  rw [ht]
  refine ⟨h.phase, h.done.imp_left fun hs => ?_⟩
  unfold Session.pause
  rw [hs]
  exact hs

theorem resume (h : Over s t) (now : R) : Over (s.resume now) (t.resume now) := by
  have ht : t.resume now = t := by
    unfold Session.resume
    rcases h.phase with h' | h' <;> rw [h'] <;> rfl
  rw [ht]
  refine ⟨h.phase, h.done.imp_left fun hs => ?_⟩
  unfold Session.resume
  rw [hs]
  exact hs

end Over

namespace Ahead

theorem order (h : Ahead c unmixed now lapsed s t) :
    (s.notes.Pairwise fun m n => m.time ≤ n.time) ∧ t.notes.Pairwise fun m n => m.time ≤ n.time := by
  have hnotes : t.notes = s.notes := by rw [notes, notes, h.song]
  rw [hnotes, and_self]
  rcases s.notes_cases with hnone | ⟨song, hsong, hnotes⟩
  · simp [hnone]
  · rw [hnotes]
    exact (h.fits song hsong).1

theorem idle_iff (h : Ahead c unmixed now lapsed s t) : t.phase = .idle ↔ s.phase = .idle := by
  rw [h.sound'.steady.idle_iff, h.sound.steady.idle_iff, h.song]

/-- While the first goes on, the second goes on level or has no note left to judge. -/
theorem going (h : Ahead c unmixed now lapsed s t) (hactive : s.phase.isActive = true) :
    (Level c now s t ∧ t.phase.isActive = true) ∨
      (Over s t ∧ t.phase.isActive = false ∧ t.pending = []) := by
  obtain ⟨-, hpaused, hfinished⟩ := Phase.ne_of_isActive hactive
  rcases h.pace with hlevel | hover
  · rcases hlevel.phase with ⟨-, ht⟩ | ⟨hs, -⟩
    · exact .inl ⟨hlevel, ht⟩
    · exact absurd hs hpaused
  · refine .inr ⟨hover, ?_, hover.done.resolve_left hfinished⟩
    rcases hover.phase with ht | ht <;> rw [ht] <;> rfl

/-- While the first goes on, the lapsed notes have left. -/
theorem lapsed_left (h : Ahead c unmixed past lapsed s t) (hactive : s.phase.isActive = true)
    (hpast : past ≤ now) : ∀ n ∈ lapsed, hasLeft c (s.heardAt c now) n = true := fun n hn =>
  (h.stays n hn).hasLeft (Phase.ne_of_isActive hactive).2.1 hpast

/-- Where the first does not go on, the second does not either. -/
theorem resting (h : Ahead c unmixed now lapsed s t) (hidle : s.phase.isActive = false) :
    t.phase.isActive = false := by
  rcases h.pace with hlevel | hover
  · rcases hlevel.phase with ⟨hs, -⟩ | ⟨-, ht⟩
    · exact absurd (hs.symm.trans hidle) nofun
    · rw [ht]
      rfl
  · rcases hover.phase with ht | ht <;> rw [ht] <;> rfl

/-- A session that is ahead of a finished one is finished. -/
theorem finished (h : Ahead c unmixed now lapsed s t) (hfinished : s.phase = .finished) :
    t.phase = .finished := by
  rcases h.pace with hlevel | hover
  · rcases hlevel.phase with ⟨hactive, -⟩ | ⟨hpaused, -⟩
    · exact absurd hfinished (Phase.ne_of_isActive hactive).2.2
    · exact absurd (hfinished.symm.trans hpaused) nofun
  · refine hover.phase.resolve_left fun hidle => ?_
    exact absurd (hfinished.symm.trans (h.idle_iff.mp hidle)) nofun

/-- A finished session that is ahead of one that is not has nothing left to judge. -/
theorem pending_of_finished (h : Ahead c unmixed now lapsed s t) (hgoing : s.phase ≠ .finished)
    (hfinished : t.phase = .finished) : t.pending = [] := by
  rcases h.pace with hlevel | hover
  · rcases hlevel.phase with ⟨-, hactive⟩ | ⟨-, hpaused⟩
    · exact absurd hfinished (Phase.ne_of_isActive hactive).2.2
    · exact absurd (hfinished.symm.trans hpaused) nofun
  · exact hover.done.resolve_left hgoing

/-- Hits of notes that are pending in both take no lapsed note away. -/
theorem without_eq (h : Ahead c unmixed now lapsed s t) {hits : List (Hit F R)}
    (hhits : ∀ hit ∈ hits, ∃ n ∈ t.pending, n.id = hit.note) :
    without hits s.pending = lapsed ++ without hits t.pending := by
  have hdistinct : s.pending.Pairwise fun m n => Song.sameId m.id n.id = false :=
    h.sound.distinct.sublist List.filter_sublist
  rw [h.pending] at hdistinct ⊢
  -- The notes of the hits have other ids than the lapsed notes
  obtain ⟨-, -, hapart⟩ := List.pairwise_append.mp hdistinct
  have hkept : without hits lapsed = lapsed := by
    refine List.filter_eq_self.mpr fun n hn => ?_
    rw [Bool.not_eq_true', List.any_eq_false]
    intro hit hhit
    obtain ⟨m, hm, hnote⟩ := hhits hit hhit
    rw [← hnote, hapart n hn m hm]
    exact nofun
  rw [without_append, hkept]

/-- A session that is caught up right after a tick of both has no lapsed note. -/
theorem nil_of_caughtUp (h : Ahead c unmixed now lapsed s t) (hsynced : Synced c lapsed s t)
    (hcaught : CaughtUp c s) : lapsed = [] := by
  have hmem : ∀ n ∈ lapsed, n ∈ s.pending := fun n hn => h.pending ▸ List.mem_append_left _ hn
  cases hphase : s.phase with
  | idle =>
    have hnone := pending_of_idle h.sound.steady hphase
    rw [h.pending] at hnone
    exact (List.append_eq_nil_iff.mp hnone).1
  | paused => exact absurd hphase hcaught.1
  | finished => exact h.settled hphase
  | countdown | playing =>
    -- A lapsed note would be pending and have left
    refine List.eq_nil_iff_forall_not_mem.mpr fun n hn => ?_
    have hleft := (hsynced (by rw [hphase]; rfl)).1 n hn
    exact absurd (hleft.symm.trans (hcaught.2 n (hmem n hn))) nofun

/-- What leaves the scores of both alone leaves the second ahead by the same notes. -/
theorem of_sameScore {s' t' : Session F R} (h : Ahead c unmixed past lapsed s t)
    (hs : s.SameScore s') (ht : t.SameScore t') (hsteady : s'.Steady) (hsteady' : t'.Steady)
    (hslot : t'.slot = s'.slot) (hstays : ∀ n ∈ lapsed, s'.StaysLeft c now n)
    (hsettled : s'.phase = .finished → lapsed = []) (hpace : Level c now s' t' ∨ Over s' t') :
    Ahead c unmixed now lapsed s' t' where
  sound := h.sound.of_sameScore hs hsteady
  sound' := h.sound'.of_sameScore ht hsteady'
  fits song hsong := h.fits song (hs.song.symm.trans hsong)
  song := by rw [ht.song, hs.song, h.song]
  slot := hslot
  pending := by rw [hs.pending, ht.pending, h.pending]
  ledger := by rw [hs.ledger, ht.ledger]; exact h.ledger
  same hunmixed := by rw [hs.ledger, ht.ledger]; exact h.same hunmixed
  stays := hstays
  settled := hsettled
  pace := hpace

/-- What leaves the courses of both alone leaves the second ahead by the notes that then lapse. -/
theorem of_sameCourse {s' t' : Session F R} (h : Ahead c unmixed now lapsed s t)
    (lapsed' : List (Note R)) (hs : s.SameCourse s') (ht : t.SameCourse t')
    (hseen : s'.seen = s.seen) (hseen' : t'.seen = t.seen) (hsound : s'.Sound c)
    (hsound' : t'.Sound c) (hpending : s'.pending = lapsed' ++ t'.pending)
    (hledger : t'.ledger.Perm (s'.ledger ++ lapse lapsed'))
    (hsame : unmixed → t'.ledger = s'.ledger ++ lapse lapsed')
    (hstays : ∀ n ∈ lapsed', s.StaysLeft c now n) (hsettled : s.phase = .finished → lapsed' = [])
    (hdone : t.pending = [] → t'.pending = []) : Ahead c unmixed now lapsed' s' t' where
  sound := hsound
  sound' := hsound'
  fits song hsong := h.fits song (hs.song.symm.trans hsong)
  song := by rw [ht.song, hs.song, h.song]
  slot := by rw [ht.slot, hs.slot, h.slot]
  pending := hpending
  ledger := hledger
  same := hsame
  stays n hn := (hstays n hn).congr (by rw [hs.phase]) hs.anchor hs.pausedAt
  settled hphase := hsettled (hs.phase.symm.trans hphase)
  pace := by
    have htime : s'.inputTime c = s.inputTime c := by rw [inputTime, inputTime, hs.progress]
    have htime' : t'.inputTime c = t.inputTime c := by rw [inputTime, inputTime, ht.progress]
    refine h.pace.imp (fun hlevel => ⟨?_, ?_, ?_, ?_, ?_, ?_⟩) fun hover => ⟨?_, ?_⟩
    · rw [hs.phase, ht.phase]
      exact hlevel.phase
    · rw [hs.anchor, ht.anchor, hlevel.anchor]
    · rw [hs.pausedAt, ht.pausedAt, hlevel.pausedAt]
    · rw [hseen, hseen', hlevel.seen]
    · intro n hn
      rw [htime] at hn
      rw [htime']
      exact hlevel.left n hn
    · intro n hn
      rw [htime'] at hn
      exact (hlevel.stays n hn).congr (by rw [hs.phase]) hs.anchor hs.pausedAt
    · rw [ht.phase]
      exact hover.phase
    · rw [hs.phase]
      exact hover.done.imp_right hdone

/-- Before any song neither session is ahead. -/
theorem fresh (c : Setup F R) (unmixed : Prop) (now : R) :
    Ahead c unmixed now [] (Session.fresh c) (Session.fresh c) where
  sound := .fresh c
  sound' := .fresh c
  fits := nofun
  song := rfl
  slot := rfl
  pending := rfl
  ledger := .refl _
  same _ := rfl
  stays := nofun
  settled _ := rfl
  pace := .inr ⟨.inl rfl, .inr rfl⟩

theorem hear (h : Ahead c unmixed now lapsed s t) (pitch : Option (HeardPitch F)) :
    Ahead c unmixed now lapsed (s.hear pitch) (t.hear pitch) := by
  have hsteady := h.sound.steady
  have hsteady' := h.sound'.steady
  refine h.of_sameScore (hear_sameScore pitch s) (hear_sameScore pitch t)
    ⟨hsteady.idle_iff, hsteady.frozen_iff, hsteady.paused, hsteady.resumes⟩
    ⟨hsteady'.idle_iff, hsteady'.frozen_iff, hsteady'.paused, hsteady'.resumes⟩ ?_ h.stays h.settled
    (h.pace.imp (fun hlevel => ?_) fun hover => ⟨hover.phase, hover.done⟩)
  · unfold Session.hear
    rw [h.slot]
  · exact ⟨hlevel.phase, hlevel.anchor, hlevel.pausedAt, hlevel.seen, hlevel.left, hlevel.stays⟩

theorem reset (h : Ahead c unmixed past lapsed s t) (hgains : c.scoring.Gains) :
    Ahead c unmixed now [] (s.reset c) (t.reset c) where
  sound := h.sound.after hgains (e := (now, .reset)) nofun
  sound' := h.sound'.after hgains (e := (now, .reset)) nofun
  fits := nofun
  song := rfl
  slot := h.slot
  pending := rfl
  ledger := .refl _
  same _ := rfl
  stays := nofun
  settled _ := rfl
  pace := .inr ⟨.inl rfl, .inr rfl⟩

/-- The end of both leaves none ahead. -/
theorem finish (h : Ahead c unmixed now [] s t) : Ahead c unmixed now [] s.finish t.finish := by
  by_cases hidle : s.phase = .idle
  · unfold Session.finish
    rw [if_pos hidle, if_pos (h.idle_iff.mpr hidle)]
    exact h
  · have hidle' : t.phase ≠ .idle := fun h' => hidle (h.idle_iff.mp h')
    refine h.of_sameScore (finish_sameScore s) (finish_sameScore t) h.sound.steady.finish
      h.sound'.steady.finish ?_ nofun (fun _ => rfl)
      (.inr ⟨.inr (finish_phase hidle'), .inl (finish_phase hidle)⟩)
    unfold Session.finish
    rw [if_neg hidle, if_neg hidle']
    exact h.slot

end Ahead

/-! ## §4 Pauses and starts -/

variable [Scalar.Orderly R]

namespace Level

theorem later (h : Level c past s t) (hpast : past ≤ now) : Level c now s t where
  phase := h.phase
  anchor := h.anchor
  pausedAt := h.pausedAt
  seen := h.seen
  left := h.left
  stays n hn := (h.stays n hn).later hpast

/-- Right after a tick of both at one reading of the clock they are level, if they go on. -/
theorem of_advanced {s' t' : Session F R} (h : Level c past s t) (hslot : t.slot = s.slot)
    (hs : Advanced c now s s') (ht : Advanced c now t t') (hs' : s'.phase.isActive = true)
    (ht' : t'.phase.isActive = true) : Level c now s' t' := by
  have htime : t'.inputTime c = s'.inputTime c := by
    rw [inputTime, inputTime, ht.progress, hs.progress, h.anchor]
  refine ⟨.inl ⟨hs', ht'⟩, ?_, ?_, ?_, ?_, ?_⟩
  · rw [ht.anchor, hs.anchor, h.anchor]
  · rw [ht.pausedAt, hs.pausedAt, h.pausedAt]
  · rw [ht.seen, hs.seen, hslot]
  · intro n hn
    rwa [htime]
  · intro n hn
    refine staysLeft_of_hasLeft (Phase.ne_of_isActive hs').2.1 ?_
    rw [htime, inputTime, hs.progress] at hn
    rwa [heardAt, hs.anchor]

theorem pause (h : Level c past s t) (hpast : past ≤ now) :
    Level c now (s.pause now) (t.pause now) := by
  rcases h.phase with ⟨hs, ht⟩ | ⟨hs, ht⟩
  · have hstays := fun n hn => (h.stays n hn).pause hpast
    unfold Session.pause at hstays ⊢
    rw [if_pos hs] at hstays
    rw [if_pos hs, if_pos ht]
    exact ⟨.inr ⟨rfl, rfl⟩, h.anchor, rfl, h.seen, h.left, hstays⟩
  · unfold Session.pause
    rw [hs, ht]
    exact h.later hpast

theorem resume (h : Level c past s t) (hs : s.Steady) (ht : t.Steady) (hslot : t.slot = s.slot)
    (hpast : past ≤ now) (hfirm : Firm c s (now, .resume)) :
    Level c now (s.resume now) (t.resume now) := by
  rcases h.phase with ⟨hs', ht'⟩ | ⟨hs', ht'⟩
  · unfold Session.resume
    rw [if_neg (Phase.ne_of_isActive hs').2.1, if_neg (Phase.ne_of_isActive ht').2.1]
    exact h.later hpast
  · have hstays := fun n hn => (h.stays n hn).resume hs hpast hfirm
    unfold Session.resume at hstays ⊢
    rw [if_pos hs'] at hstays
    rw [if_pos hs', if_pos ht']
    refine ⟨.inl ⟨hs.resumes, ht.resumes⟩, ?_, rfl, ?_, h.left, hstays⟩
    · rw [h.anchor, h.pausedAt]
    · rw [hslot]

end Level

namespace Ahead

theorem later (h : Ahead c unmixed past lapsed s t) (hpast : past ≤ now) :
    Ahead c unmixed now lapsed s t :=
  { h with
    stays := fun n hn => (h.stays n hn).later hpast
    pace := h.pace.imp_left fun hlevel => hlevel.later hpast }

theorem pause (h : Ahead c unmixed past lapsed s t) (hpast : past ≤ now) :
    Ahead c unmixed now lapsed (s.pause now) (t.pause now) := by
  refine h.of_sameScore (pause_sameScore now s) (pause_sameScore now t)
    (h.sound.steady.pause now) (h.sound'.steady.pause now) ?_
    (fun n hn => (h.stays n hn).pause hpast) (fun hphase => h.settled ?_)
    (h.pace.imp (fun hlevel => hlevel.pause hpast) fun hover => hover.pause now)
  · unfold Session.pause
    split <;> split <;> exact h.slot
  · -- A pause finishes nothing
    unfold Session.pause at hphase
    split at hphase
    · cases hphase
    · exact hphase

theorem resume (h : Ahead c unmixed past lapsed s t) (hpast : past ≤ now)
    (hfirm : Firm c s (now, .resume)) :
    Ahead c unmixed now lapsed (s.resume now) (t.resume now) := by
  refine h.of_sameScore (resume_sameScore now s) (resume_sameScore now t)
    (h.sound.steady.resume now) (h.sound'.steady.resume now) ?_
    (fun n hn => (h.stays n hn).resume h.sound.steady hpast hfirm) (fun hphase => h.settled ?_)
    (h.pace.imp (fun hlevel => hlevel.resume h.sound.steady h.sound'.steady h.slot hpast hfirm)
      fun hover => hover.resume now)
  · unfold Session.resume
    split <;> split <;> exact h.slot
  · -- What resumes is active
    unfold Session.resume at hphase
    split at hphase
    · exact absurd hphase (Phase.ne_of_isActive h.sound.steady.resumes).2.2
    · exact hphase

/-- A start begins both anew. -/
theorem start (h : Ahead c unmixed past lapsed s t) (hgains : c.scoring.Gains) {song : Song R}
    (hplays : c.Plays song) (hfits : song.InOrder ∧ song.Outlasts c)
    (hfirm : Firm c s (now, .start song)) :
    Ahead c unmixed now [] (s.start c now song) (t.start c now song) := by
  have hstarts : ∀ song', (Event.start song : Event F R) = .start song' → c.Plays song' := by
    intro song' hsong
    cases hsong
    exact hplays
  exact {
    sound := h.sound.after hgains (e := (now, .start song)) hstarts
    sound' := h.sound'.after hgains (e := (now, .start song)) hstarts
    fits := by
      intro song' hsong
      cases hsong
      exact hfits
    song := rfl
    slot := h.slot
    pending := rfl
    ledger := .refl _
    same := fun _ => rfl
    stays := nofun
    settled := fun _ => rfl
    pace := .inl ⟨.inl ⟨rfl, rfl⟩, rfl, rfl, congrArg Slot.version h.slot, fun _ hn => hn,
      fun n hn => staysLeft_of_hasLeft nofun (hasLeft_of_le hn hfirm)⟩ }

end Ahead

end Ahead

end Lamella.Session
