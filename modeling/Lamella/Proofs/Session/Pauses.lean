import Lamella.Proofs.Session.Likeness

/-!
# Pauses

In a pause the song time stands still. What happens meanwhile does nothing but write into the slot,
and going on counts that as read. So in exact numbers a pause is never seen afterwards: all goes on
as it would have without it, as much later as the pause was long. The song time of a frame is what
the clock has told since the start, less the time that was spent in pauses.

## Main definitions

- `Session.Event.Waits`: what may happen in a pause without ending it.
- `Session.pausedTime`: the time that a run spends in pauses.

## Main statements

- `Session.alike_of_pause`: after a pause a session is like the one that it interrupted, on a clock
  that is set forward by its length.
- `Session.since_run`: the reading of the clock at the start, moved on by the pauses since then.
- `Session.pauses_invisible`: both for every session that a run reaches.
-/

namespace Lamella.Session

/-! ## §1 Waiting out a pause -/

section Waiting

variable {F R : Type} [Scalar R] {s t : Session F R}

/-- What may happen in a pause without ending it. -/
inductive Event.Waits : Event F R → Prop where
  | tick : Waits .tick
  | judge (pitch : HeardPitch F) : Waits (.judge pitch)
  | hear (pitch : Option (HeardPitch F)) : Waits (.hear pitch)

theorem pause_of_active (hactive : s.phase.isActive = true) (now : R) :
    s.pause now = { s with phase := .paused, pausedAt := some now, resumePhase := s.phase } :=
  if_pos hactive

/-- The second session differs from the first at most in what was written since into its slot. -/
structure Wrote (s t : Session F R) : Prop where
  rest : t = { s with slot := t.slot }
  behind : t.ReadsBehind

namespace Wrote

/-- A pause has just begun. -/
theorem begin (hbehind : s.ReadsBehind) (hactive : s.phase.isActive = true) (now : R) :
    Wrote (s.pause now) (s.pause now) := by
  refine ⟨rfl, ?_⟩
  rw [pause_of_active hactive]
  exact hbehind

variable [Analytic F] {c : Setup F R}

/-- What may happen in a pause only writes into the slot. -/
theorem after (h : Wrote s t) (hpaused : s.phase = .paused) {e : R × Event F R}
    (hwaits : e.2.Waits) : Wrote s (t.after c e) := by
  have hidle : t.phase.isActive = false := by
    rw [h.rest]
    simp [hpaused, Phase.isActive]
  obtain ⟨now, e⟩ := e
  cases hwaits with
  | tick =>
    have hafter : t.after c (now, .tick) = (t.tick c now).2 := rfl
    rw [hafter, tick_of_idle now (.inl hidle)]
    exact h
  | judge pitch =>
    have hafter : t.after c (now, .judge pitch) = t := by
      simp [Session.after, perform, Session.judge, hidle]
    rw [hafter]
    exact h
  | hear pitch =>
    refine ⟨?_, Nat.le_succ_of_le h.behind⟩
    show t.hear pitch = _
    conv_lhs => rw [h.rest]
    rfl

theorem run (h : Wrote s t) (hpaused : s.phase = .paused) {within : List (R × Event F R)}
    (hwaits : ∀ e ∈ within, e.2.Waits) : Wrote s (t.run c within) := by
  induction within generalizing t with
  | nil => exact h
  | cons e rest ih =>
    apply ih (h.after hpaused (hwaits e List.mem_cons_self))
    intro e' he'
    exact hwaits e' (List.mem_cons_of_mem e he')

end Wrote

end Waiting

/-! ## §2 A pause is not seen -/

section Pause

variable {F : Type} [Analytic F] {c : Setup F Rat} {s : Session F Rat}

/-- **After a pause a session is like the one that it interrupted**, on a clock that is set forward
by the length of the pause. -/
theorem alike_of_pause (hbehind : s.ReadsBehind) (hactive : s.phase.isActive = true)
    (hread : s.unread = none) {within : List (Rat × Event F Rat)}
    (hwaits : ∀ e ∈ within, e.2.Waits) (p q : Rat) :
    Alike (fun x => x + (q - p)) s
      (s.run c ((p, .pause) :: within ++ [(q, .resume)])) := by
  have hpause := pause_of_active hactive p
  have hpaused : (s.pause p).phase = .paused := by rw [hpause]
  have hwrote := (Wrote.begin hbehind hactive p).run (c := c) hpaused hwaits
  -- The pause ends where it began, up to what was written, which then counts as read
  have hrun : s.run c ((p, .pause) :: within ++ [(q, .resume)]) =
      ((s.pause p).run c within).resume q := by
    rw [run_append]
    rfl
  rw [hrun]
  generalize (s.pause p).run c within = t at hwrote
  have hend : t.resume q =
      { s with
        slot := t.slot
        anchor := s.anchor + (q - p)
        pausedAt := none
        resumePhase := s.phase
        seen := t.slot.version } := by
    have hphase : t.phase = .paused := by rw [hwrote.rest, hpaused]
    unfold Session.resume
    rw [if_pos hphase, hwrote.rest, hpause]
    rfl
  rw [hend]
  exact {
    front := rfl
    anchor := rfl
    unread := (if_pos rfl).trans hread.symm
    behind := hbehind
    behind' := Nat.le_refl _
    paused := fun h => absurd h (Phase.ne_of_isActive hactive).2.1 }

end Pause

/-! ## §3 The time spent in pauses -/

section PausedTime

variable {F : Type} {s : Session F Rat} {began rest past : Rat}

/-- A session that began at a reading of the clock and has spent some time in pauses, when the clock
was last read at `past`. -/
structure Since (s : Session F Rat) (began rest past : Rat) : Prop where
  active : s.phase.isActive = true → s.anchor = began + rest
  paused : s.phase = .paused → ∃ p, s.pausedAt = some p ∧ s.anchor + (past - p) = began + rest

namespace Since

/-- What leaves the course of a session alone. -/
theorem of_sameCourse {t : Session F Rat} (h : Since s began rest past) (hcourse : s.SameCourse t) :
    Since t began rest past where
  active := by
    rw [hcourse.phase, hcourse.anchor]
    exact h.active
  paused := by
    rw [hcourse.phase, hcourse.anchor, hcourse.pausedAt]
    exact h.paused

/-- A pause that goes on gets longer with the clock. -/
theorem later (h : Since s began rest past) (now : Rat) :
    Since s began (rest + if s.phase = .paused then now - past else 0) now where
  active := by
    intro hactive
    rw [if_neg (Phase.ne_of_isActive hactive).2.1, add_zero]
    exact h.active hactive
  paused := by
    intro hpaused
    obtain ⟨p, hpausedAt, hanchor⟩ := h.paused hpaused
    rw [if_pos hpaused]
    exact ⟨p, hpausedAt, by linarith⟩

/-- What is neither active nor paused. -/
theorem of_still (hactive : s.phase.isActive = false) (hpaused : s.phase ≠ .paused) :
    Since s began rest past where
  active := by
    intro h
    rw [hactive] at h
    cases h
  paused := fun h => absurd h hpaused

theorem finish (h : Since s began rest past) : Since s.finish began rest past := by
  by_cases hidle : s.phase = .idle
  · unfold Session.finish
    rw [if_pos hidle]
    exact h
  · have hphase : s.finish.phase = .finished := by
      unfold Session.finish
      rw [if_neg hidle]
    exact of_still (by rw [hphase]; rfl) (by simp [hphase])

theorem pause (h : Since s began rest past) : Since (s.pause past) began rest past := by
  unfold Session.pause
  split
  · rename_i hactive
    exact {
      active := by
        intro hpaused
        cases hpaused
      paused := by
        intro _
        have hanchor := h.active hactive
        exact ⟨past, rfl, by dsimp only; linarith⟩ }
  · exact h

theorem resume (hs : s.Steady) (h : Since s began rest past) :
    Since (s.resume past) began rest past := by
  unfold Session.resume
  split
  · rename_i hpaused
    obtain ⟨p, hpausedAt, hanchor⟩ := h.paused hpaused
    have hresumes := hs.resumes
    exact {
      active := by
        intro _
        rw [hpausedAt]
        exact hanchor
      paused := fun hstill => absurd hstill (Phase.ne_of_isActive hresumes).2.1 }
  · exact h

variable [Analytic F] {c : Setup F Rat}

theorem tick (h : Since s began rest past) (c : Setup F Rat) (now : Rat) :
    Since (s.tick c now).2 began rest past := by
  rcases s.active_or_idle with ⟨song, hactive, hsong⟩ | hidle
  · obtain ⟨t, hcourse, htick⟩ := tick_sameCourse (c := c) now hactive hsong
    have hmoved : Since (s.moved c now) began rest past := {
      active := fun _ => h.active hactive
      paused := by
        intro hpaused
        unfold moved at hpaused
        dsimp only at hpaused
        split at hpaused
        · cases hpaused
        · exact absurd hpaused (Phase.ne_of_isActive hactive).2.1 }
    rcases htick with htick | htick
    · rw [htick]
      exact hmoved.of_sameCourse hcourse
    · rw [htick]
      exact (hmoved.of_sameCourse hcourse).finish
  · rw [tick_of_idle now hidle]
    exact h

/-- Every event but a start, which begins anew. -/
theorem after (hs : s.Steady) (h : Since s began rest past) (c : Setup F Rat)
    {e : Rat × Event F Rat} (hstart : ∀ song, e.2 ≠ .start song) :
    Since (s.after c e) began (rest + if s.phase = .paused then e.1 - past else 0) e.1 := by
  have hlater := h.later e.1
  generalize rest + (if s.phase = .paused then e.1 - past else 0) = rest' at hlater
  obtain ⟨now, e⟩ := e
  cases e with
  | start song => exact absurd rfl (hstart song)
  | tick => exact hlater.tick c now
  | pause => exact hlater.pause
  | resume => exact hlater.resume hs
  | finish => exact hlater.finish
  | reset => exact of_still rfl (by intro hpaused; cases hpaused)
  | judge pitch => exact hlater.of_sameCourse (judge_sameCourse c pitch s)
  | sweep => exact hlater.of_sameCourse (sweep_sameCourse c s)
  | hear pitch => exact ⟨hlater.active, hlater.paused⟩

end Since

variable [Analytic F] {c : Setup F Rat}

/-- The time that a run spends in pauses, where `past` is the reading of the clock at its begin: what
the clock tells from one event to the next while the session is paused. -/
def pausedTime (c : Setup F Rat) (s : Session F Rat) (past : Rat) :
    List (Rat × Event F Rat) → Rat
  | [] => 0
  | e :: events =>
    (if s.phase = .paused then e.1 - past else 0) + (s.after c e).pausedTime c e.1 events

/-- **A run without a start moves the reading at the start on by the time it spends in pauses.** -/
theorem since_run (hs : s.Steady) (h : Since s began rest past) {events : List (Rat × Event F Rat)}
    (hstart : ∀ e ∈ events, ∀ song, e.2 ≠ .start song) :
    ∃ past', Since (s.run c events) began (rest + s.pausedTime c past events) past' := by
  -- The time spent so far moves from the rest of the run into `rest`, event by event
  induction events generalizing s rest past with
  | nil =>
    rw [pausedTime, add_zero]
    exact ⟨past, h⟩
  | cons e events ih =>
    have hnext := h.after hs c (hstart e List.mem_cons_self)
    rw [pausedTime, ← add_assoc]
    apply ih (hs.after c e) hnext
    intro e' he'
    exact hstart e' (List.mem_cons_of_mem e he')

/-- The song time after the tick of an active session. -/
theorem progress_tick {song : Song Rat} (hactive : s.phase.isActive = true) (hsong : s.song = some song)
    (now : Rat) : (s.tick c now).2.progress = now - s.anchor - c.leadIn := by
  obtain ⟨t, hcourse, htick⟩ := tick_sameCourse (c := c) now hactive hsong
  rcases htick with htick | htick
  · rw [htick, hcourse.progress]
    rfl
  · have hfinish : t.finish.progress = t.progress := by
      unfold Session.finish
      split <;> rfl
    rw [htick, hfinish, hcourse.progress]
    rfl

/-- A pause counts with what the clock tells from its begin to its end, whatever comes in between. -/
theorem pausedTime_pause (hbehind : s.ReadsBehind) (hactive : s.phase.isActive = true)
    {within : List (Rat × Event F Rat)} (hwaits : ∀ e ∈ within, e.2.Waits) (p q : Rat) :
    s.pausedTime c past ((p, .pause) :: within ++ [(q, .resume)]) = q - p := by
  have hbegun : (s.pause p).phase = .paused := by rw [pause_of_active hactive]
  -- What lies between the events of the pause adds up to its length
  have hwaiting : ∀ (t : Session F Rat) (past : Rat), Wrote (s.pause p) t →
      t.pausedTime c past (within ++ [(q, .resume)]) = q - past := by
    induction within with
    | nil =>
      intro t past hwrote
      have hpaused : t.phase = .paused := by rw [hwrote.rest, hbegun]
      simp [pausedTime, hpaused]
    | cons e within ih =>
      intro t past hwrote
      have hpaused : t.phase = .paused := by rw [hwrote.rest, hbegun]
      have hnext := hwrote.after (c := c) hbegun (hwaits e List.mem_cons_self)
      have hrest := ih (fun e' he' => hwaits e' (List.mem_cons_of_mem e he')) _ e.1 hnext
      simp only [List.cons_append, pausedTime, hpaused, if_true, hrest]
      ring
  have hnot := (Phase.ne_of_isActive hactive).2.1
  simp only [List.cons_append, pausedTime, if_neg hnot, zero_add]
  exact hwaiting _ p (.begin hbehind hactive p)

end PausedTime

/-! ## §4 Pauses in a run -/

/-- **Pauses are invisible.** Let a run have reached an active session whose slot holds no unread
estimate. A pause of any length, in which estimates are written and judged and frames come, leaves
a session that shows the same, and of which every event that follows returns and shows the same, as
much later as the pause was long. And in a session that was started and not started again, a frame
sets the song time to what the clock has told since the start, less the time spent in pauses and the
lead-in. -/
theorem pauses_invisible {F : Type} [Analytic F] (c : Setup F Rat)
    (before : List (Rat × Event F Rat)) :
    (∀ (p d : Rat) (within events : List (Rat × Event F Rat)),
      let s := (fresh c).run c before
      let resumed := s.run c ((p, .pause) :: within ++ [(p + d, .resume)])
      s.phase.isActive = true → s.unread = none → (∀ e ∈ within, e.2.Waits) →
        resumed.scene c = s.scene c ∧
          resumed.film c (onClock (fun x => x + d) events) = s.film c events) ∧
    ∀ (began : Rat) (song : Song Rat) (events : List (Rat × Event F Rat)) (now : Rat),
      let started := (fresh c).run c (before ++ [(began, .start song)])
      let s := started.run c events
      (∀ e ∈ events, ∀ song', e.2 ≠ .start song') → s.phase.isActive = true →
        (s.tick c now).2.progress = now - began - started.pausedTime c began events - c.leadIn := by
  constructor
  · intro p d within events s resumed hactive hread hwaits
    have halike := alike_of_pause (c := c) (readsBehind_run c before) hactive hread hwaits p (p + d)
    rw [add_sub_cancel_left] at halike
    exact ⟨halike.scene_eq, halike.film_eq (Scalar.shift_add d) events⟩
  · intro began song events now started s hstart hactive
    have hsteady : started.Steady := steady_run c _
    have hsteady' : s.Steady := by
      unfold s started
      rw [← run_append]
      exact steady_run c _
    have hbegan : Since started began 0 began := by
      have hrun : started = ((fresh c).run c before).start c began song := by
        unfold started
        rw [run_append]
        rfl
      rw [hrun]
      exact ⟨fun _ => (add_zero began).symm, fun hpaused => by cases hpaused⟩
    obtain ⟨past, hsince⟩ := since_run (c := c) hsteady hbegan hstart
    have hanchor := hsince.active hactive
    obtain ⟨song', hsong⟩ := Option.ne_none_iff_exists'.mp (hsteady'.of_active hactive).1
    rw [progress_tick hactive hsong, hanchor]
    ring

/-- A session that is paused in its countdown, while an estimate is written and judged and a frame
comes. -/
theorem pauses_invisible_of_sole_note :
    let c : Setup Float Rat :=
      soleSetup (usualSettings (by decide) usualWindows_rat.1) .usual usualWindows_rat.2
    let song : Song Rat := songOf [soleNote "a" 1 (by decide) (by decide)] (.num 3) (by decide)
    let pitch : HeardPitch Float := ⟨261.6255653005986, 0.99, some 0.5, 0⟩
    let s := (fresh c).run c [(0, .start song)]
    let within : List (Rat × Event Float Rat) :=
      [(1 / 2, .hear (some pitch)), (3 / 4, .tick), (3 / 4, .judge pitch)]
    let pause := (1 / 2, .pause) :: within ++ [(1 / 2 + 1 / 4, .resume)]
    (s.run c pause).film c (onClock (fun x => x + 1 / 4) [(2, .tick)]) = s.film c [(2, .tick)] ∧
      ((s.run c pause).tick c 2).2.progress = 2 - 0 - 1 / 4 - c.leadIn := by
  intro c song pitch s within pause
  have hwaits : ∀ e ∈ within, e.2.Waits := by
    simp only [within, List.forall_mem_cons]
    exact ⟨.hear _, .tick, .judge _, by simp⟩
  have hstart : ∀ e ∈ pause, ∀ song', e.2 ≠ .start song' := by
    simp [pause, within]
  have hrest : s.pausedTime c 0 pause = 1 / 4 := by
    unfold pause
    rw [pausedTime_pause (readsBehind_run c _) rfl hwaits]
    norm_num
  obtain ⟨hfilm, -⟩ := pauses_invisible c [(0, .start song)]
  obtain ⟨-, hprogress⟩ := pauses_invisible c []
  refine ⟨(hfilm (1 / 2) (1 / 4) within [(2, .tick)] rfl rfl hwaits).2, ?_⟩
  have hsince := hprogress 0 song pause 2 hstart rfl
  rw [← hrest]
  exact hsince

end Lamella.Session
