import Lamella.Proofs.Session.Bookkeeping

/-!
# The phases of a session

The phases of a session are the states of a small machine: each event leaves the phase alone or
takes one of a few transitions. What a pause interrupts is remembered until the session goes on, and
a finished session keeps its score until a new one begins.

## Main definitions

- `Session.Moves`: the transitions, each with the event that takes it.
- `Session.PausedBy`: the pause in a run that a session is in, and the phase that it interrupted.

## Main statements

- `Session.phase_after`, `Session.phase_of_moves`: what an event does to the phase.
- `Session.pausedBy_run`: every pause was begun in the phase that its end goes back to.
- `Session.phases_of_run`: the machine, in every session that a run reaches.
-/

namespace Lamella.Session

variable {F R : Type} [Analytic F] [Scalar R] {c : Setup F R} {s : Session F R}

/-! ## §1 Transitions -/

/-- The transitions between phases, each taken by an event. A resumed session goes back to the phase
that was interrupted. -/
inductive Moves (interrupted : Phase) : Event F R → Phase → Phase → Prop where
  | start (song : Song R) (p : Phase) : Moves interrupted (.start song) p .countdown
  | play : Moves interrupted .tick .countdown .playing
  | ends {p : Phase} : p.isActive = true → Moves interrupted .tick p .finished
  | pause {p : Phase} : p.isActive = true → Moves interrupted .pause p .paused
  | resume : Moves interrupted .resume .paused interrupted
  | finish {p : Phase} : p ≠ .idle → Moves interrupted .finish p .finished
  | reset (p : Phase) : Moves interrupted .reset p .idle

omit [Analytic F] in
theorem finish_phase (hidle : s.phase ≠ .idle) : s.finish.phase = .finished := by
  unfold finish
  rw [if_neg hidle]

/-- A tick leaves the phase alone, ends the countdown, or finishes an active session. -/
theorem phase_tick (c : Setup F R) (now : R) (s : Session F R) :
    (s.tick c now).2.phase = s.phase ∨
      (s.phase = .countdown ∧ (s.tick c now).2.phase = .playing) ∨
      (s.phase.isActive = true ∧ (s.tick c now).2.phase = .finished) := by
  rcases s.active_or_idle with ⟨song, hactive, hsong⟩ | hidle
  · obtain ⟨t, hcourse, htick⟩ := tick_sameCourse (c := c) now hactive hsong
    -- Judging stays on the course of the moved session, which is still active
    have hmoved : (s.moved c now).phase = s.phase ∨
        (s.phase = .countdown ∧ (s.moved c now).phase = .playing) := by
      unfold moved
      dsimp only
      split
      · rename_i hzero
        exact .inr ⟨hzero.1, rfl⟩
      · exact .inl rfl
    rcases htick with htick | htick
    · rw [htick, hcourse.phase]
      rcases hmoved with hsame | hplays
      · exact .inl hsame
      · exact .inr (.inl hplays)
    · have hnotidle : t.phase ≠ .idle := by
        rw [hcourse.phase]
        intro h
        rcases hmoved with hsame | ⟨-, hplays⟩
        · rw [← hsame, h] at hactive
          cases hactive
        · rw [h] at hplays
          cases hplays
      rw [htick, finish_phase hnotidle]
      exact .inr (.inr ⟨hactive, rfl⟩)
  · rw [tick_of_idle now hidle]
    exact .inl rfl

/-- **Each event leaves the phase alone or takes a transition.** -/
theorem phase_after (c : Setup F R) (s : Session F R) (e : R × Event F R) :
    (s.after c e).phase = s.phase ∨ Moves s.resumePhase e.2 s.phase (s.after c e).phase := by
  obtain ⟨now, e⟩ := e
  cases e with
  | start song => exact .inr (.start song s.phase)
  | reset => exact .inr (.reset s.phase)
  | judge pitch => exact .inl (judge_sameCourse c pitch s).phase
  | sweep => exact .inl (sweep_sameCourse c s).phase
  | hear pitch => exact .inl rfl
  | tick =>
    have hafter : s.after c (now, .tick) = (s.tick c now).2 := rfl
    rw [hafter]
    rcases phase_tick c now s with hsame | ⟨hcountdown, hplays⟩ | ⟨hactive, hover⟩
    · exact .inl hsame
    · rw [hcountdown, hplays]
      exact .inr .play
    · rw [hover]
      exact .inr (.ends hactive)
  | pause =>
    have hafter : s.after c (now, .pause) = s.pause now := rfl
    rw [hafter]
    unfold Session.pause
    split
    · rename_i hactive
      exact .inr (.pause hactive)
    · exact .inl rfl
  | resume =>
    have hafter : s.after c (now, .resume) = s.resume now := rfl
    rw [hafter]
    unfold Session.resume
    split
    · rename_i hpaused
      rw [hpaused]
      exact .inr .resume
    · exact .inl rfl
  | finish =>
    have hafter : s.after c (now, .finish) = s.finish := rfl
    rw [hafter]
    by_cases hidle : s.phase = .idle
    · unfold Session.finish
      rw [if_pos hidle]
      exact .inl rfl
    · rw [finish_phase hidle]
      exact .inr (.finish hidle)

/-- An event other than a tick takes the transition that there is for it. -/
theorem phase_of_moves {e : R × Event F R} {p : Phase} (hmoves : Moves s.resumePhase e.2 s.phase p)
    (htick : e.2 ≠ .tick) : (s.after c e).phase = p := by
  obtain ⟨now, e⟩ := e
  generalize hphase : s.phase = q at hmoves
  cases hmoves with
  | start song => rfl
  | play => exact absurd rfl htick
  | ends => exact absurd rfl htick
  | pause hactive =>
    show (s.pause now).phase = .paused
    unfold Session.pause
    rw [if_pos (by rw [hphase]; exact hactive)]
  | resume =>
    show (s.resume now).phase = s.resumePhase
    unfold Session.resume
    rw [if_pos hphase]
  | finish hidle =>
    show s.finish.phase = .finished
    exact finish_phase (by rw [hphase]; exact hidle)
  | reset => rfl

/-! ## §2 Pauses -/

/-- A run has paused a session at a reading of the clock, in the phase that the session remembers,
and has left it paused ever since. -/
def PausedBy (c : Setup F R) (events : List (R × Event F R)) (s : Session F R) : Prop :=
  ∃ front now back, events = front ++ (now, .pause) :: back ∧ s.pausedAt = some now ∧
    ((fresh c).run c front).phase = s.resumePhase ∧
    ∀ part, part <+: back → ((fresh c).run c (front ++ (now, .pause) :: part)).phase = .paused

/-- A session that is paused after an event was paused by it in the phase that it now remembers, or
is still in the pause that it was in before. -/
theorem paused_after (hs : s.Steady) {e : R × Event F R} (hpaused : (s.after c e).phase = .paused) :
    (e.2 = .pause ∧ (s.after c e).pausedAt = some e.1 ∧ (s.after c e).resumePhase = s.phase) ∨
      (s.phase = .paused ∧ (s.after c e).pausedAt = s.pausedAt ∧
        (s.after c e).resumePhase = s.resumePhase) := by
  obtain ⟨now, e⟩ := e
  have hstill : ∀ t : Session F R, s.SameCourse t → t.phase = .paused →
      s.phase = .paused ∧ t.pausedAt = s.pausedAt ∧ t.resumePhase = s.resumePhase :=
    fun t h ht => ⟨h.phase.symm.trans ht, h.pausedAt, h.resumePhase⟩
  cases e with
  | start song => cases hpaused
  | reset => cases hpaused
  | judge pitch => exact .inr (hstill _ (judge_sameCourse c pitch s) hpaused)
  | sweep => exact .inr (hstill _ (sweep_sameCourse c s) hpaused)
  | hear pitch => exact .inr ⟨hpaused, rfl, rfl⟩
  | tick =>
    have hafter : s.after c (now, .tick) = (s.tick c now).2 := rfl
    rw [hafter] at hpaused ⊢
    -- A tick that leaves a paused session has found one, and done nothing to it
    have hbefore : s.phase = .paused := by
      rcases phase_tick c now s with hsame | ⟨-, hplays⟩ | ⟨-, hover⟩
      · exact hsame.symm.trans hpaused
      · rw [hplays] at hpaused
        cases hpaused
      · rw [hover] at hpaused
        cases hpaused
    rw [tick_of_idle now (.inl (by rw [hbefore]; rfl))]
    exact .inr ⟨hbefore, rfl, rfl⟩
  | pause =>
    have hafter : s.after c (now, .pause) = s.pause now := rfl
    rw [hafter] at hpaused ⊢
    unfold Session.pause at hpaused ⊢
    split
    · exact .inl ⟨rfl, rfl, rfl⟩
    · rename_i hidle
      rw [if_neg hidle] at hpaused
      exact .inr ⟨hpaused, rfl, rfl⟩
  | resume =>
    have hafter : s.after c (now, .resume) = s.resume now := rfl
    rw [hafter] at hpaused ⊢
    unfold Session.resume at hpaused ⊢
    split
    · rename_i hbefore
      -- What goes on is active
      rw [if_pos hbefore] at hpaused
      have hresumes : s.resumePhase = .paused := hpaused
      have hactive := hs.resumes
      rw [hresumes] at hactive
      cases hactive
    · rename_i hbefore
      rw [if_neg hbefore] at hpaused
      exact absurd hpaused hbefore
  | finish =>
    have hafter : s.after c (now, .finish) = s.finish := rfl
    rw [hafter] at hpaused
    by_cases hidle : s.phase = .idle
    · unfold Session.finish at hpaused
      rw [if_pos hidle, hidle] at hpaused
      cases hpaused
    · rw [finish_phase hidle] at hpaused
      cases hpaused

/-- **Every pause was begun in the phase that its end goes back to.** -/
theorem pausedBy_run (c : Setup F R) (events : List (R × Event F R))
    (hpaused : ((fresh c).run c events).phase = .paused) :
    PausedBy c events ((fresh c).run c events) := by
  induction events using List.reverseRecOn with
  | nil => cases hpaused
  | append_singleton front e ih =>
    rw [run_append] at hpaused ⊢
    rcases paused_after (steady_run c front) hpaused with
      ⟨he, hat, hresumes⟩ | ⟨hbefore, hat, hresumes⟩
    · -- The last event is the pause
      refine ⟨front, e.1, [], by rw [← he], hat, hresumes.symm, fun part hpart => ?_⟩
      rw [List.prefix_nil.mp hpart, ← he, run_append]
      exact hpaused
    · -- The pause goes on, so what was paused before is paused by the same pause
      obtain ⟨first, now, back, hevents, hat', hresumes', hsince⟩ := ih hbefore
      refine ⟨first, now, back ++ [e], by rw [hevents, List.append_assoc, List.cons_append],
        hat.trans hat', hresumes'.trans hresumes.symm, fun part hpart => ?_⟩
      rcases List.prefix_concat_iff.mp hpart with hall | hpart'
      · rw [hall, ← List.cons_append, ← List.append_assoc, ← hevents, run_append]
        exact hpaused
      · exact hsince part hpart'

/-! ## §3 Finished sessions -/

omit [Analytic F] in
/-- A frozen score takes no hit. -/
theorem record_of_frozen (hfrozen : s.keeper.frozen = true) (hit : Hit F R) :
    s.record hit = (.ok (), s) := by
  unfold record
  rw [Keeper.register_of_frozen hfrozen]

theorem sweepFrom_of_frozen (c : Setup F R) (now : R) (notes : List (Note R))
    (hfrozen : s.keeper.frozen = true) :
    (sweepFrom c now notes s).2.keeper = s.keeper ∧ (sweepFrom c now notes s).2.hits = s.hits := by
  induction notes generalizing s with
  | nil => exact ⟨rfl, rfl⟩
  | cons n rest ih =>
    cases hleft : hasLeft c now n with
    | false =>
      rw [sweepFrom_of_staying rest hleft]
      exact ⟨rfl, rfl⟩
    | true =>
      -- Whether the note was judged or not, nothing but the cursor moves on
      cases hjudged : s.keeper.isJudged n.id with
      | true =>
        rw [sweepFrom_of_judged rest hleft hjudged]
        exact ih hfrozen
      | false =>
        rw [sweepFrom_of_recorded rest hleft hjudged (record_of_frozen (s := s.passed) hfrozen _)]
        exact ih hfrozen

/-- **A finished session keeps its score**, its judged notes and its hits, whatever is done to it
but to begin anew. -/
theorem after_of_finished (hs : s.Steady) (hfinished : s.phase = .finished) {e : R × Event F R}
    (hbegins : e.2.begins = false) :
    (s.after c e).keeper = s.keeper ∧ (s.after c e).hits = s.hits := by
  have hfrozen : s.keeper.frozen = true := hs.frozen_iff.mpr hfinished
  have hidle : s.phase.isActive = false := by
    rw [hfinished]
    rfl
  obtain ⟨now, e⟩ := e
  cases e with
  | start song => cases hbegins
  | reset => cases hbegins
  | hear pitch => exact ⟨rfl, rfl⟩
  | sweep => exact sweepFrom_of_frozen c _ _ hfrozen
  | tick =>
    have hafter : s.after c (now, .tick) = (s.tick c now).2 := rfl
    rw [hafter, tick_of_idle now (.inl hidle)]
    exact ⟨rfl, rfl⟩
  | pause =>
    have hafter : s.after c (now, .pause) = s.pause now := rfl
    rw [hafter, Session.pause, if_neg (by simp [hidle])]
    exact ⟨rfl, rfl⟩
  | resume =>
    have hafter : s.after c (now, .resume) = s.resume now := rfl
    rw [hafter, Session.resume, if_neg (by simp [hfinished])]
    exact ⟨rfl, rfl⟩
  | finish =>
    have hafter : s.after c (now, .finish) = s.finish := rfl
    rw [hafter, Session.finish, if_neg (by simp [hfinished])]
    exact ⟨Keeper.with_frozen hfrozen, rfl⟩
  | judge pitch =>
    have hafter : s.after c (now, .judge pitch) = (s.judge c pitch).2 := rfl
    rw [hafter, Session.judge, if_pos (by simp [hidle])]
    exact ⟨rfl, rfl⟩

/-! ## §4 The machine -/

/-- **The phases of a session are those of a state machine.** In every session that a run reaches:
it is idle just if it has no song, its score is frozen just if it is finished, and it would resume
an active phase. A paused session was paused at the instant that it remembers, in the phase that it
resumes. Each event leaves the phase alone or takes one of the transitions, and each but a tick
takes the transition that there is for it. And a finished session keeps its score, its judged notes
and its hits, until an event begins anew. -/
theorem phases_of_run (c : Setup F R) (events : List (R × Event F R)) :
    let s := (fresh c).run c events
    s.Steady ∧ (s.phase = .paused → PausedBy c events s) ∧
      (∀ e, (s.after c e).phase = s.phase ∨
        Moves s.resumePhase e.2 s.phase (s.after c e).phase) ∧
      (∀ e p, Moves s.resumePhase e.2 s.phase p → e.2 ≠ .tick → (s.after c e).phase = p) ∧
      (s.phase = .finished → ∀ e, e.2.begins = false →
        (s.after c e).keeper = s.keeper ∧ (s.after c e).hits = s.hits) := by
  intro s
  have hs : s.Steady := steady_run c events
  refine ⟨hs, pausedBy_run c events, fun e => phase_after c s e, ?_, ?_⟩
  · exact fun e p hmoves htick => phase_of_moves hmoves htick
  · exact fun hfinished e hbegins => after_of_finished hs hfinished hbegins

end Lamella.Session
