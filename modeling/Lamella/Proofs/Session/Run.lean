import Lamella.Proofs.Score.Keeping
import Lamella.Session.Basic

/-!
# Runs of a session

A run is any sequence of operations on a session, each at a reading of the clock; nothing is said of
how the readings follow one another. What a single operation does to the course of a session (its
phase, its song and its clock) is said here, and from it what holds of the course in every session
that a run reaches.

## Main definitions

- `Session.Event`, `Session.perform`: the operations, and what one returns and leaves behind.
- `Session.run`, `Session.gave`: the session after a run, and what the run returned.
- `Session.SameCourse`, `Session.SameScore`: what judging leaves alone, and what all else does.
- `Session.Steady`: what holds of the course of a session.

## Main statements

- `Session.tick_cases`: what a tick does.
- `Session.song_of_run`: the song of a session is one that the run started.
- `Session.steady_run`: every session that a run reaches is steady.
-/

namespace Lamella

theorem Phase.isActive_iff {p : Phase} : p.isActive = true ↔ p = .countdown ∨ p = .playing := by
  cases p <;> simp [Phase.isActive]

theorem Phase.ne_of_isActive {p : Phase} (h : p.isActive = true) :
    p ≠ .idle ∧ p ≠ .paused ∧ p ≠ .finished := by
  cases p <;> simp_all [Phase.isActive]

namespace Session

variable {F R : Type} [Scalar R]

/-! ## §1 Sessions of one course, sessions of one score -/

theorem notes_of_song {s : Session F R} {song : Song R} (hsong : s.song = some song) :
    s.notes = song.notes := by
  simp [notes, hsong]

/-- A session has the notes of its song, or none. -/
theorem notes_cases (s : Session F R) :
    s.notes = [] ∨ ∃ song, s.song = some song ∧ s.notes = song.notes := by
  cases hsong : s.song with
  | none => exact .inl (by simp [notes, hsong])
  | some song => exact .inr ⟨song, rfl, notes_of_song hsong⟩

/-- A session is active with a song, or there is nothing for a tick to do. -/
theorem active_or_idle (s : Session F R) :
    (∃ song, s.phase.isActive = true ∧ s.song = some song) ∨
      s.phase.isActive = false ∨ s.song = none := by
  cases s.phase.isActive with
  | false => exact .inr (.inl rfl)
  | true =>
    cases s.song with
    | none => exact .inr (.inr rfl)
    | some song => exact .inl ⟨song, rfl, rfl⟩

/-- Two sessions with the same course and the same rules, which differ at most in what was judged
and in what was read. -/
structure SameCourse (s t : Session F R) : Prop where
  phase : t.phase = s.phase
  song : t.song = s.song
  progress : t.progress = s.progress
  anchor : t.anchor = s.anchor
  slot : t.slot = s.slot
  pausedAt : t.pausedAt = s.pausedAt
  resumePhase : t.resumePhase = s.resumePhase
  frozen : t.keeper.frozen = s.keeper.frozen
  scoring : t.keeper.scoring = s.keeper.scoring

namespace SameCourse

theorem refl (s : Session F R) : s.SameCourse s := ⟨rfl, rfl, rfl, rfl, rfl, rfl, rfl, rfl, rfl⟩

theorem trans {s t u : Session F R} (hst : s.SameCourse t) (htu : t.SameCourse u) :
    s.SameCourse u where
  phase := htu.phase.trans hst.phase
  song := htu.song.trans hst.song
  progress := htu.progress.trans hst.progress
  anchor := htu.anchor.trans hst.anchor
  slot := htu.slot.trans hst.slot
  pausedAt := htu.pausedAt.trans hst.pausedAt
  resumePhase := htu.resumePhase.trans hst.resumePhase
  frozen := htu.frozen.trans hst.frozen
  scoring := htu.scoring.trans hst.scoring

theorem notes {s t : Session F R} (h : s.SameCourse t) : t.notes = s.notes := by
  unfold Session.notes
  rw [h.song]

end SameCourse

theorem record_sameCourse (hit : Hit F R) (s : Session F R) : s.SameCourse (s.record hit).2 := by
  obtain ⟨hscoring, hfrozen⟩ := Keeper.register_frame s.keeper hit.note hit.tier
  unfold record
  split <;> rename_i heq <;> rw [heq] at hscoring hfrozen <;>
    exact ⟨rfl, rfl, rfl, rfl, rfl, rfl, rfl, hfrozen, hscoring⟩

/-- Two sessions with the same song, the same hits and the same score, which may be frozen in the
second. -/
structure SameScore (s t : Session F R) : Prop where
  song : t.song = s.song
  hits : t.hits = s.hits
  missIndex : t.missIndex = s.missIndex
  keeper : t.keeper = { s.keeper with frozen := t.keeper.frozen }
  open_of : t.keeper.frozen = false → s.keeper.frozen = false

namespace SameScore

theorem notes {s t : Session F R} (h : s.SameScore t) : t.notes = s.notes := by
  unfold Session.notes
  rw [h.song]

theorem isJudged {s t : Session F R} (h : s.SameScore t) (id : Value R) :
    t.keeper.isJudged id = s.keeper.isJudged id := by
  rw [h.keeper]
  rfl

end SameScore

theorem pause_sameScore (now : R) (s : Session F R) : s.SameScore (s.pause now) := by
  unfold pause
  split <;> exact ⟨rfl, rfl, rfl, rfl, fun h => h⟩

theorem resume_sameScore (now : R) (s : Session F R) : s.SameScore (s.resume now) := by
  unfold resume
  split <;> exact ⟨rfl, rfl, rfl, rfl, fun h => h⟩

theorem finish_sameScore (s : Session F R) : s.SameScore s.finish := by
  unfold finish
  split
  · exact ⟨rfl, rfl, rfl, rfl, fun h => h⟩
  · exact ⟨rfl, rfl, rfl, rfl, fun h => by cases h⟩

theorem hear_sameScore (pitch : Option (HeardPitch F)) (s : Session F R) :
    s.SameScore (s.hear pitch) := ⟨rfl, rfl, rfl, rfl, fun h => h⟩

/-! ## §2 Steady sessions -/

/-- What holds of the course of a session: there is a song unless it is idle, the score is frozen
just if it is finished, and a pause knows when it began and what it interrupted. -/
structure Steady (s : Session F R) : Prop where
  idle_iff : s.phase = .idle ↔ s.song = none
  frozen_iff : s.keeper.frozen = true ↔ s.phase = .finished
  paused : s.phase = .paused → s.pausedAt.isSome = true
  resumes : s.resumePhase.isActive = true

namespace Steady

/-- Judging keeps a session steady. -/
theorem of_sameCourse {s t : Session F R} (hs : s.Steady) (h : s.SameCourse t) : t.Steady where
  idle_iff := by rw [h.phase, h.song]; exact hs.idle_iff
  frozen_iff := by rw [h.frozen, h.phase]; exact hs.frozen_iff
  paused := by rw [h.phase, h.pausedAt]; exact hs.paused
  resumes := by rw [h.resumePhase]; exact hs.resumes

/-- An active session has a song, and its score is not frozen. -/
theorem of_active {s : Session F R} (hs : s.Steady) (hactive : s.phase.isActive = true) :
    s.song ≠ none ∧ s.keeper.frozen = false := by
  -- Idle and finished are the phases without a song and with a frozen score
  have hphase := Phase.isActive_iff.mp hactive
  constructor
  · intro hsong
    have hidle := hs.idle_iff.mpr hsong
    rcases hphase with h | h <;> rw [h] at hidle <;> cases hidle
  · refine Bool.eq_false_iff.mpr fun hfrozen => ?_
    have hfinished := hs.frozen_iff.mp hfrozen
    rcases hphase with h | h <;> rw [h] at hfinished <;> cases hfinished

theorem pause {s : Session F R} (hs : s.Steady) (now : R) : (s.pause now).Steady := by
  unfold Session.pause
  split
  · rename_i hactive
    obtain ⟨hsong, hopen⟩ := hs.of_active hactive
    exact {
      idle_iff := ⟨fun h => (by cases h), fun h => absurd h hsong⟩
      frozen_iff := ⟨fun h => absurd (hopen.symm.trans h) (by decide), fun h => (by cases h)⟩
      paused := fun _ => rfl
      resumes := hactive }
  · exact hs

theorem resume {s : Session F R} (hs : s.Steady) (now : R) : (s.resume now).Steady := by
  unfold Session.resume
  split
  · rename_i hpaused
    -- What resumes is the countdown or the playing, neither idle nor finished
    have hactive := Phase.isActive_iff.mp hs.resumes
    have hsong : s.song ≠ none := fun h => by
      have hidle := hs.idle_iff.mpr h
      rw [hpaused] at hidle
      cases hidle
    have hopen : s.keeper.frozen ≠ true := fun h => by
      have hfinished := hs.frozen_iff.mp h
      rw [hpaused] at hfinished
      cases hfinished
    exact {
      idle_iff := by
        refine ⟨fun h => ?_, fun h => absurd h hsong⟩
        rcases hactive with h' | h' <;> simp [h'] at h
      frozen_iff := by
        refine ⟨fun h => absurd h hopen, fun h => ?_⟩
        rcases hactive with h' | h' <;> simp [h'] at h
      paused := by
        intro h
        rcases hactive with h' | h' <;> simp [h'] at h
      resumes := hs.resumes }
  · exact hs

theorem finish {s : Session F R} (hs : s.Steady) : s.finish.Steady := by
  unfold Session.finish
  split
  · exact hs
  · rename_i hidle
    exact {
      idle_iff := ⟨fun h => (by cases h), fun h => absurd (hs.idle_iff.mpr h) hidle⟩
      frozen_iff := ⟨fun _ => rfl, fun _ => rfl⟩
      paused := fun h => (by cases h)
      resumes := hs.resumes }

end Steady

variable [Analytic F]

/-! ## §3 Events -/

/-- What can be done to a session. -/
inductive Event (F R : Type) [Scalar R] where
  | start (song : Song R)
  | tick
  | pause
  | resume
  | finish
  | reset
  | judge (pitch : HeardPitch F)
  | sweep
  | hear (pitch : Option (HeardPitch F))

/-- The judgments that an event returns, and the session after it. -/
def perform (c : Setup F R) (now : R) (s : Session F R) :
    Event F R → Except Fault (List (Hit F R)) × Session F R
  | .start song => (.ok [], s.start c now song)
  | .tick => s.tick c now
  | .pause => (.ok [], s.pause now)
  | .resume => (.ok [], s.resume now)
  | .finish => (.ok [], s.finish)
  | .reset => (.ok [], s.reset c)
  | .judge pitch => ((s.judge c pitch).1.map Option.toList, (s.judge c pitch).2)
  | .sweep => s.sweep c
  | .hear pitch => (.ok [], s.hear pitch)

/-- The session after an event at a reading of the clock. -/
def after (c : Setup F R) (s : Session F R) (e : R × Event F R) : Session F R :=
  (s.perform c e.1 e.2).2

/-- The judgments that an event returned; none if it ended in a fault. -/
def returned (c : Setup F R) (s : Session F R) (e : R × Event F R) : List (Hit F R) :=
  (s.perform c e.1 e.2).1.toOption.getD []

/-- The session after a run of events. -/
def run (c : Setup F R) (s : Session F R) (events : List (R × Event F R)) : Session F R :=
  events.foldl (after c) s

/-- The judgments that the events of a run returned, in order. -/
def gave (c : Setup F R) : Session F R → List (R × Event F R) → List (Hit F R)
  | _, [] => []
  | s, e :: rest => s.returned c e ++ (s.after c e).gave c rest

@[simp] theorem run_nil (c : Setup F R) (s : Session F R) : s.run c [] = s := rfl

@[simp] theorem run_cons (c : Setup F R) (s : Session F R) (e : R × Event F R)
    (rest : List (R × Event F R)) : s.run c (e :: rest) = (s.after c e).run c rest := rfl

theorem run_append (c : Setup F R) (s : Session F R) (front back : List (R × Event F R)) :
    s.run c (front ++ back) = (s.run c front).run c back := List.foldl_append

/-! ## §4 What a tick does -/

/-- A session whose song time was moved to a reading of the clock. -/
def moved (c : Setup F R) (now : R) (s : Session F R) : Session F R :=
  { s with
    progress := now - s.anchor - c.leadIn
    phase :=
      if s.phase = .countdown ∧ Scalar.ofInt 0 ≤ now - s.anchor - c.leadIn then .playing
      else s.phase }

theorem moved_sameScore (c : Setup F R) (now : R) (s : Session F R) :
    s.SameScore (s.moved c now) := ⟨rfl, rfl, rfl, rfl, fun h => h⟩

theorem tick_of_idle {c : Setup F R} {s : Session F R} (now : R)
    (h : s.phase.isActive = false ∨ s.song = none) : s.tick c now = (.ok [], s) := by
  unfold tick
  rcases h with h | h
  · rw [h]
  · rw [h]
    cases s.phase.isActive <;> rfl

/-- What the tick of an active session does: it moves the song time, reads the slot, sweeps, and
finishes if the time of the song is over. It stops where one of the four fails. -/
theorem tick_cases {c : Setup F R} {s : Session F R} {song : Song R} (now : R)
    (hactive : s.phase.isActive = true) (hsong : s.song = some song) :
    let heard := (s.moved c now).readSlot c
    let swept := heard.2.sweep c
    (∃ fault, heard.1 = .error fault ∧ s.tick c now = (.error fault, heard.2)) ∨
    (∃ hit fault, heard.1 = .ok hit ∧ swept.1 = .error fault ∧
      s.tick c now = (.error fault, swept.2)) ∨
    (∃ hit misses fault, heard.1 = .ok hit ∧ swept.1 = .ok misses ∧
      song.duration.atMost swept.2.progress = .error fault ∧
      s.tick c now = (.error fault, swept.2)) ∨
    (∃ hit misses, heard.1 = .ok hit ∧ swept.1 = .ok misses ∧
      song.duration.atMost swept.2.progress = .ok false ∧
      s.tick c now = (.ok (hit.toList ++ misses), swept.2)) ∨
    (∃ hit misses, heard.1 = .ok hit ∧ swept.1 = .ok misses ∧
      song.duration.atMost swept.2.progress = .ok true ∧
      s.tick c now = (.ok (hit.toList ++ misses), swept.2.finish)) := by
  intro heard swept
  have hread : heard = (s.moved c now).readSlot c := rfl
  have hswept : swept = heard.2.sweep c := rfl
  clear_value swept heard
  unfold moved at hread
  rw [hsong] at hread
  unfold tick
  rw [hactive, hsong]
  dsimp only
  rw [← hread]
  -- From here on only the results of reading and sweeping matter, not how they come about
  obtain ⟨fault | hit, t⟩ := heard
  · exact .inl ⟨fault, rfl, rfl⟩
  right
  dsimp only at hswept ⊢
  rw [← hswept]
  obtain ⟨fault | misses, u⟩ := swept
  · exact .inl ⟨hit, fault, rfl, rfl, rfl⟩
  right
  dsimp only [closeAt]
  cases hover : song.duration.atMost u.progress with
  | error fault => exact .inl ⟨hit, misses, fault, rfl, rfl, rfl, rfl⟩
  | ok ended =>
    right
    cases ended with
    | false => exact .inl ⟨hit, misses, rfl, rfl, rfl, rfl⟩
    | true => exact .inr ⟨hit, misses, rfl, rfl, rfl, rfl⟩

/-! ## §5 What judging leaves alone -/

theorem judge_sameCourse (c : Setup F R) (pitch : HeardPitch F) (s : Session F R) :
    s.SameCourse (s.judge c pitch).2 := by
  unfold judge
  split
  · exact .refl s
  · split
    · exact .refl s
    · exact .refl s
    · rename_i hit _
      have hrecord := record_sameCourse hit s
      split <;> rename_i heq <;> rw [heq] at hrecord <;> exact hrecord

theorem sweepFrom_sameCourse (c : Setup F R) (now : R) (notes : List (Note R))
    (s : Session F R) : s.SameCourse (sweepFrom c now notes s).2 := by
  induction notes generalizing s with
  | nil => exact .refl s
  | cons n rest ih =>
    unfold sweepFrom
    split
    · -- The cursor moves on, whether the note is marked or not
      have hmoved : s.SameCourse { s with missIndex := s.missIndex + 1 } :=
        ⟨rfl, rfl, rfl, rfl, rfl, rfl, rfl, rfl, rfl⟩
      dsimp only
      split
      · exact hmoved.trans (ih _)
      · have hrecord := hmoved.trans
          (record_sameCourse (missed now n) { s with missIndex := s.missIndex + 1 })
        split
        · rename_i heq
          rw [heq] at hrecord
          exact hrecord
        · rename_i t heq
          rw [heq] at hrecord
          have hrest := hrecord.trans (ih t)
          split <;> rename_i heq' <;> rw [heq'] at hrest <;> exact hrest
    · exact .refl s

theorem sweep_sameCourse (c : Setup F R) (s : Session F R) : s.SameCourse (s.sweep c).2 :=
  sweepFrom_sameCourse c _ _ s

theorem readSlot_sameCourse (c : Setup F R) (s : Session F R) :
    s.SameCourse (s.readSlot c).2 := by
  unfold readSlot
  split
  · exact .refl s
  · have hseen : s.SameCourse { s with seen := s.slot.version } :=
      ⟨rfl, rfl, rfl, rfl, rfl, rfl, rfl, rfl, rfl⟩
    dsimp only
    split
    · exact hseen
    · exact hseen.trans (judge_sameCourse c _ _)

/-- A tick of an active session leaves the course of the moved session, or finishes it. -/
theorem tick_sameCourse {c : Setup F R} {s : Session F R} {song : Song R} (now : R)
    (hactive : s.phase.isActive = true) (hsong : s.song = some song) :
    ∃ t, (s.moved c now).SameCourse t ∧ ((s.tick c now).2 = t ∨ (s.tick c now).2 = t.finish) := by
  -- Wherever the tick stops, it stops at a session that judging has left on its course
  have hheard := readSlot_sameCourse c (s.moved c now)
  have hswept := hheard.trans (sweep_sameCourse c ((s.moved c now).readSlot c).2)
  rcases tick_cases (c := c) now hactive hsong with
    ⟨_, -, htick⟩ | ⟨_, _, -, -, htick⟩ | ⟨_, _, _, -, -, -, htick⟩ | ⟨_, _, -, -, -, htick⟩ |
      ⟨_, _, -, -, -, htick⟩ <;> rw [htick]
  · exact ⟨_, hheard, .inl rfl⟩
  · exact ⟨_, hswept, .inl rfl⟩
  · exact ⟨_, hswept, .inl rfl⟩
  · exact ⟨_, hswept, .inl rfl⟩
  · exact ⟨_, hswept, .inr rfl⟩

/-! ## §6 The course of a run -/

namespace Steady

theorem fresh (c : Setup F R) : (Session.fresh c).Steady where
  idle_iff := ⟨fun _ => rfl, fun _ => rfl⟩
  frozen_iff := ⟨fun h => (by cases h), fun h => (by cases h)⟩
  paused h := by cases h
  resumes := rfl

theorem start {s : Session F R} (hs : s.Steady) (c : Setup F R) (now : R) (song : Song R) :
    (s.start c now song).Steady where
  idle_iff := ⟨fun h => (by cases h), fun h => (by cases h)⟩
  frozen_iff := ⟨fun h => (by cases h), fun h => (by cases h)⟩
  paused h := by cases h
  resumes := hs.resumes

theorem reset {s : Session F R} (hs : s.Steady) (c : Setup F R) : (s.reset c).Steady where
  idle_iff := ⟨fun _ => rfl, fun _ => rfl⟩
  frozen_iff := ⟨fun h => (by cases h), fun h => (by cases h)⟩
  paused h := by cases h
  resumes := hs.resumes

theorem moved {s : Session F R} (hs : s.Steady) (hactive : s.phase.isActive = true)
    (c : Setup F R) (now : R) : (s.moved c now).Steady := by
  obtain ⟨hsong, hopen⟩ := hs.of_active hactive
  -- Moving the song time may end the countdown, but leaves the session active
  have hphase : (s.moved c now).phase = .countdown ∨ (s.moved c now).phase = .playing := by
    unfold Session.moved
    dsimp only
    split
    · exact .inr rfl
    · exact Phase.isActive_iff.mp hactive
  exact {
    idle_iff := by
      refine ⟨fun h => ?_, fun h => absurd h hsong⟩
      rcases hphase with h' | h' <;> rw [h'] at h <;> cases h
    frozen_iff := by
      refine ⟨fun h => absurd (hopen.symm.trans h) (by decide), fun h => ?_⟩
      rcases hphase with h' | h' <;> rw [h'] at h <;> cases h
    paused := by
      intro h
      rcases hphase with h' | h' <;> rw [h'] at h <;> cases h
    resumes := hs.resumes }

theorem tick {s : Session F R} (hs : s.Steady) (c : Setup F R) (now : R) :
    (s.tick c now).2.Steady := by
  rcases s.active_or_idle with ⟨song, hactive, hsong⟩ | hidle
  · have hmoved := hs.moved hactive c now
    obtain ⟨t, hcourse, htick | htick⟩ := tick_sameCourse (c := c) now hactive hsong
    · rw [htick]
      exact hmoved.of_sameCourse hcourse
    · rw [htick]
      exact (hmoved.of_sameCourse hcourse).finish
  · rw [tick_of_idle now hidle]
    exact hs

/-- Every event keeps a session steady. -/
theorem after {s : Session F R} (hs : s.Steady) (c : Setup F R) (e : R × Event F R) :
    (s.after c e).Steady := by
  obtain ⟨now, e⟩ := e
  cases e with
  | start song => exact hs.start c now song
  | tick => exact hs.tick c now
  | pause => exact hs.pause now
  | resume => exact hs.resume now
  | finish => exact hs.finish
  | reset => exact hs.reset c
  | judge pitch => exact hs.of_sameCourse (judge_sameCourse c pitch s)
  | sweep => exact hs.of_sameCourse (sweep_sameCourse c s)
  | hear pitch => exact ⟨hs.idle_iff, hs.frozen_iff, hs.paused, hs.resumes⟩

end Steady

theorem song_tick (c : Setup F R) (now : R) (s : Session F R) :
    (s.tick c now).2.song = s.song := by
  rcases s.active_or_idle with ⟨song, hactive, hsong⟩ | hidle
  · obtain ⟨t, hcourse, htick | htick⟩ := tick_sameCourse (c := c) now hactive hsong
    · rw [htick]
      exact hcourse.song
    · rw [htick, (finish_sameScore t).song]
      exact hcourse.song
  · rw [tick_of_idle now hidle]

/-- An event leaves the song alone, begins one, or takes it away. -/
theorem song_after (c : Setup F R) (s : Session F R) (e : R × Event F R) :
    (s.after c e).song = s.song ∨ (∃ song, e.2 = .start song ∧ (s.after c e).song = some song) ∨
      (e.2 = .reset ∧ (s.after c e).song = none) := by
  obtain ⟨now, e⟩ := e
  cases e with
  | start song => exact .inr (.inl ⟨song, rfl, rfl⟩)
  | tick => exact .inl (song_tick c now s)
  | pause => exact .inl (pause_sameScore now s).song
  | resume => exact .inl (resume_sameScore now s).song
  | finish => exact .inl (finish_sameScore s).song
  | reset => exact .inr (.inr ⟨rfl, rfl⟩)
  | judge pitch => exact .inl (judge_sameCourse c pitch s).song
  | sweep => exact .inl (sweep_sameCourse c s).song
  | hear pitch => exact .inl rfl

/-- The song of a session is one that the run started. -/
theorem song_of_run (c : Setup F R) (events : List (R × Event F R)) {song : Song R}
    (hsong : ((fresh c).run c events).song = some song) :
    ∃ now, (now, Event.start song) ∈ events := by
  -- From any session on, a run keeps the song that it found or starts one
  have hrun : ∀ s : Session F R, (s.run c events).song = some song →
      s.song = some song ∨ ∃ now, (now, Event.start song) ∈ events := by
    clear hsong
    induction events with
    | nil => exact fun s hs => .inl hs
    | cons e rest ih =>
      intro s hs
      rcases ih (s.after c e) hs with hafter | ⟨now, hmem⟩
      · rcases song_after c s e with hsame | ⟨song', he, hstart⟩ | ⟨-, hnone⟩
        · exact .inl (hsame.symm.trans hafter)
        · obtain rfl : song' = song := Option.some.inj (hstart.symm.trans hafter)
          exact .inr ⟨e.1, by rw [← he]; exact List.mem_cons_self⟩
        · exact absurd (hnone.symm.trans hafter) nofun
      · exact .inr ⟨now, List.mem_cons_of_mem _ hmem⟩
  exact (hrun _ hsong).resolve_left nofun

/-- Every session that a run reaches is steady. -/
theorem steady_run (c : Setup F R) (events : List (R × Event F R)) :
    ((fresh c).run c events).Steady := by
  have hrun : ∀ s : Session F R, s.Steady → (s.run c events).Steady := by
    induction events with
    | nil => exact fun s hs => hs
    | cons e rest ih => exact fun s hs => ih _ (hs.after c e)
  exact hrun _ (.fresh c)

/-! ## §7 A small instrument

A single key and the usual settings, for sessions that are followed by hand. -/

/-- An instrument with a single key. -/
def soleKey : Layout Float where
  keys := [⟨0, 261.6255653005986, 1, 0, "1", "C", "C", 4⟩]
  name := "Sole key"
  calibrated := false
  keys_ne := by simp
  indices_eq := rfl

section Sole

variable {R : Type} [Scalar R]

/-- The usual settings, with a hit window of 150 milliseconds. -/
def usualSettings (hspeed : Scalar.ofInt 1 ≤ (Scalar.ofInt 5 : R) ∧
      (Scalar.ofInt 5 : R) ≤ Scalar.ofInt 10)
    (hwindow : ¬ (Windows.defaultHit : R) ≤ Scalar.ofInt 0) : Settings Float R where
  speed := Scalar.ofInt 5
  hitWindow := Windows.defaultHit
  tolerance := 15.0
  latency := Scalar.ofInt 0
  preset := Preset.usual
  root := some "C"
  clarity := Matcher.defaultClarity
  volume := Matcher.defaultVolume
  speed_range := hspeed
  hitWindow_pos := hwindow
  tolerance_pos := by decide +kernel

/-- The usual windows in exact numbers. -/
theorem usualWindows_rat : (¬ (Windows.defaultHit : Rat) ≤ Scalar.ofInt 0) ∧
    Scalar.ofInt 0 < (Windows.defaultPerfect : Rat) ∧
      (Windows.defaultPerfect : Rat) ≤ Windows.defaultGood ∧
      (Windows.defaultGood : Rat) ≤ Scalar.ofInt 1 := by
  decide +kernel

/-- A session on a single key that begins at once. -/
def soleSetup (settings : Settings Float R) (scoring : Scoring R)
    (hnested : Scalar.ofInt 0 < (Windows.defaultPerfect : R) ∧
      (Windows.defaultPerfect : R) ≤ Windows.defaultGood ∧
      (Windows.defaultGood : R) ≤ Scalar.ofInt 1) : Setup Float R where
  settings := settings
  layout := soleKey
  scoring := scoring
  leadIn := Scalar.ofInt 0
  windows := ⟨settings.hitWindow, Windows.defaultPerfect, Windows.defaultGood,
    settings.hitWindow_pos, hnested⟩

/-- A note of one second on the single key. -/
def soleNote (id : Text) (time : R) (htime : ¬ time < Scalar.ofInt 0)
    (hone : ¬ (Scalar.ofInt 1 : R) ≤ Scalar.ofInt 0) : Note R where
  key := 0
  time := time
  duration := Scalar.ofInt 1
  id := .str id
  time_not_neg := htime
  duration_pos := hone

/-- A song of some notes with a duration of its own. -/
def songOf (notes : List (Note R)) (duration : Value R)
    (htempo : ¬ (Scalar.ofInt 100 : R) ≤ Scalar.ofInt 0) : Song R where
  title := "Song"
  notes := notes
  tempo := .whole 100
  metre := .common
  artist := .null
  difficulty := .medium
  duration := duration
  tab := .null
  id := "song"
  tuning := .null
  tines := .null
  created := .null
  tempo_pos := htempo

end Sole

end Session

end Lamella
