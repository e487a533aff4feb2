import Lamella.Proofs.Scalar.Exact
import Lamella.Proofs.Session.Settling

/-!
# Sessions that look alike

Of a session only its scene can be seen: its phase, its song and song time, its hits and its score,
and the notes that matter now. Two sessions may look the same and yet differ in what is hidden: in
what was written into the slot before it was read, in what is remembered of an earlier pause, in the
reading of the clock at the start. Here it is told when such a difference is never seen, whatever
comes after: when the two are alike, on clocks that may be set to different times.

Likeness is a bisimulation: related sessions return the same and stay related, event by event. So
one induction over the events that follow gives the same film of both.

## Main definitions

- `Session.scene`, `Session.film`: what is seen of a session, and along a run.
- `Scalar.Shift`: a clock that is set to another time.
- `Session.Alike`: sessions whose differences are never seen.

## Main statements

- `Session.Alike.perform`: every event returns the same of both, and leaves them alike.
- `Session.Alike.film_eq`: whatever follows, both have the same film.
- `Session.readsBehind_run`: no session that a run reaches has read more than was written.
- `Session.start_forgets`: what was before a start is never seen after it.
-/

namespace Lamella

/-! ## §1 Clocks -/

/-- Setting a clock to another time: what lies between two readings stays as it is. -/
structure Scalar.Shift {R : Type} [Scalar R] (shift : R → R) : Prop where
  sub (x y : R) : shift x - shift y = x - y
  add (x y : R) : shift x + y = shift (x + y)

/-- A clock that is left alone. -/
theorem Scalar.shift_id {R : Type} [Scalar R] : Scalar.Shift fun x : R => x :=
  ⟨fun _ _ => rfl, fun _ _ => rfl⟩

/-- In exact numbers a clock can be put forward or back. -/
theorem Scalar.shift_add (d : Rat) : Scalar.Shift fun x : Rat => x + d := by
  constructor
  · intro x y
    linarith
  · intro x y
    linarith

namespace Session

/-! ## §2 Scenes and films -/

section Scene

variable {F R : Type} [Scalar R]

/-- What can be seen of a session. -/
structure Scene (F R : Type) [Scalar R] where
  phase : Phase
  song : Option (Song R)
  progress : R
  hits : List (Hit F R)
  score : Score R
  hitZone : List (Note R)
  visible : List (Note R)

variable [Analytic F]

/-- What is seen of a session. -/
def scene (c : Setup F R) (s : Session F R) : Scene F R where
  phase := s.phase
  song := s.song
  progress := s.progress
  hits := s.hits
  score := s.keeper.score
  hitZone := s.hitZone c
  visible := s.visible c

/-- What is seen along a run: of each event what it returned, or its fault, and then the session. -/
def film (c : Setup F R) :
    Session F R → List (R × Event F R) → List (Except Fault (List (Hit F R)) × Scene F R)
  | _, [] => []
  | s, e :: rest => ((s.perform c e.1 e.2).1, (s.after c e).scene c) :: film c (s.after c e) rest

/-- The events of a run as another clock tells their time. -/
def onClock (shift : R → R) (events : List (R × Event F R)) : List (R × Event F R) :=
  events.map fun e => (shift e.1, e.2)

end Scene

/-! ## §3 Likeness -/

variable {F R : Type} [Scalar R] {shift : R → R} {s t : Session F R}

/-- A session that has read no more than was written. -/
def ReadsBehind (s : Session F R) : Prop := s.seen ≤ s.slot.version

/-- The second session looks like the first, on a clock that is shifted. What they may differ in is
hidden from judging, and of that all agrees which can come to light again: the estimate that waits
to be read, the reading of the clock at the start, and in a pause what it will go on with. -/
structure Alike (shift : R → R) (s t : Session F R) : Prop where
  front : t = s.withHidden t.hidden
  anchor : t.anchor = shift s.anchor
  unread : t.unread = s.unread
  behind : s.ReadsBehind
  behind' : t.ReadsBehind
  paused : s.phase = .paused → t.pausedAt = s.pausedAt.map shift ∧ t.resumePhase = s.resumePhase

theorem unread_caught (s : Session F R) : s.caught.unread = none := if_pos rfl

/-- What is written is unread, in a session that has read no more than was written. -/
theorem unread_hear (hs : s.ReadsBehind) (pitch : Option (HeardPitch F)) :
    (s.hear pitch).unread = pitch := by
  have hnew : ¬ (s.slot.version + 1 = s.seen) := by
    unfold ReadsBehind at hs
    omega
  exact if_neg hnew

namespace Alike

theorem phase_eq (h : Alike shift s t) : t.phase = s.phase := by
  rw [h.front]
  rfl

theorem song_eq (h : Alike shift s t) : t.song = s.song := by
  rw [h.front]
  rfl

/-- What leaves the hidden parts of both alone leaves them alike. -/
theorem of_hidden {s' : Session F R} (h : Alike shift s t) (hhidden : s'.hidden = s.hidden)
    (hpaused : s'.phase = .paused → s.phase = .paused) :
    Alike shift s' (s'.withHidden t.hidden) := by
  have hslot : s'.slot = s.slot := congrArg Hidden.slot hhidden
  have hanchor : s'.anchor = s.anchor := congrArg Hidden.anchor hhidden
  have hpausedAt : s'.pausedAt = s.pausedAt := congrArg Hidden.pausedAt hhidden
  have hresumes : s'.resumePhase = s.resumePhase := congrArg Hidden.resumePhase hhidden
  have hseen : s'.seen = s.seen := congrArg Hidden.seen hhidden
  exact {
    front := rfl
    anchor := by rw [hanchor]; exact h.anchor
    unread := by
      have hsame : s'.unread = s.unread := by simp only [Session.unread, hslot, hseen]
      rw [hsame]
      exact h.unread
    behind := by
      have hbehind := h.behind
      unfold ReadsBehind at hbehind ⊢
      rwa [hslot, hseen]
    behind' := h.behind'
    paused := by
      intro hphase
      rw [hpausedAt, hresumes]
      exact h.paused (hpaused hphase) }

/-- A session is like itself, as long as it has read no more than was written. -/
theorem refl (hs : s.ReadsBehind) : Alike (fun x => x) s s :=
  ⟨rfl, rfl, rfl, hs, hs, fun _ => ⟨Option.map_id'.symm, rfl⟩⟩

theorem hear (h : Alike shift s t) (pitch : Option (HeardPitch F)) :
    Alike shift (s.hear pitch) (t.hear pitch) where
  front := by
    conv_lhs => rw [h.front]
    rfl
  anchor := h.anchor
  unread := by rw [unread_hear h.behind, unread_hear h.behind']
  behind := Nat.le_succ_of_le h.behind
  behind' := Nat.le_succ_of_le h.behind'
  paused := h.paused

theorem finish (h : Alike shift s t) : Alike shift s.finish t.finish := by
  have hfinish : t.finish = s.finish.withHidden t.hidden := by
    conv_lhs => rw [h.front, finish_withHidden]
  rw [hfinish]
  refine h.of_hidden ?_ ?_
  · unfold Session.finish
    split <;> rfl
  · intro hpaused
    unfold Session.finish at hpaused
    split at hpaused
    · exact hpaused
    · cases hpaused

theorem pause (h : Alike shift s t) (now : R) :
    Alike shift (s.pause now) (t.pause (shift now)) := by
  unfold Session.pause
  rw [h.phase_eq]
  split
  · -- Both remember their own reading of the clock, and what was interrupted
    exact {
      front := by
        conv_lhs => rw [h.front]
        rfl
      anchor := h.anchor
      unread := h.unread
      behind := h.behind
      behind' := h.behind'
      paused := fun _ => ⟨rfl, rfl⟩ }
  · exact h

theorem resume (hshift : Scalar.Shift shift) (h : Alike shift s t) (now : R) :
    Alike shift (s.resume now) (t.resume (shift now)) := by
  unfold Session.resume
  rw [h.phase_eq]
  split
  · rename_i hpaused
    obtain ⟨hpausedAt, hresumes⟩ := h.paused hpaused
    have hat : t.pausedAt.getD (shift now) = shift (s.pausedAt.getD now) := by
      rw [hpausedAt]
      cases s.pausedAt <;> rfl
    exact {
      front := by
        rw [hresumes]
        conv_lhs => rw [h.front]
        rfl
      anchor := by
        -- What lies between the two readings of the pause is the same on both clocks
        show t.anchor + (shift now - t.pausedAt.getD (shift now)) =
          shift (s.anchor + (now - s.pausedAt.getD now))
        rw [hat, hshift.sub, h.anchor, hshift.add]
      unread := (if_pos rfl).trans (if_pos rfl).symm
      behind := Nat.le_refl _
      behind' := Nat.le_refl _
      paused := fun _ => ⟨rfl, hresumes⟩ }
  · exact h

variable [Analytic F] {c : Setup F R}

theorem scene_eq (h : Alike shift s t) : t.scene c = s.scene c := by
  rw [h.front]
  rfl

/-- A start leaves any two sessions alike. -/
theorem start (c : Setup F R) (shift : R → R) (now : R) (song : Song R) (s t : Session F R) :
    Alike shift (s.start c now song) (t.start c (shift now) song) where
  front := rfl
  anchor := rfl
  unread := by
    have hs : (s.start c now song).unread = none := if_pos rfl
    rw [hs]
    exact if_pos rfl
  behind := Nat.le_refl _
  behind' := Nat.le_refl _
  paused := by
    intro hpaused
    cases hpaused

theorem reset (h : Alike shift s t) (c : Setup F R) : Alike shift (s.reset c) (t.reset c) where
  front := rfl
  anchor := h.anchor
  unread := h.unread
  behind := h.behind
  behind' := h.behind'
  paused := by
    intro hpaused
    cases hpaused

theorem judge (h : Alike shift s t) (c : Setup F R) (pitch : HeardPitch F) :
    (t.judge c pitch).1 = (s.judge c pitch).1 ∧
      Alike shift (s.judge c pitch).2 (t.judge c pitch).2 := by
  have hjudge := judge_withHidden c s t.hidden pitch
  rw [← h.front] at hjudge
  rw [hjudge]
  refine ⟨rfl, h.of_hidden (judge_hidden c s pitch) ?_⟩
  rw [(judge_sameCourse c pitch s).phase]
  exact fun hpaused => hpaused

theorem sweep (h : Alike shift s t) (c : Setup F R) :
    (t.sweep c).1 = (s.sweep c).1 ∧ Alike shift (s.sweep c).2 (t.sweep c).2 := by
  have hsweep := sweep_withHidden c s t.hidden
  rw [← h.front] at hsweep
  rw [hsweep]
  refine ⟨rfl, h.of_hidden (sweep_hidden c s) ?_⟩
  rw [(sweep_sameCourse c s).phase]
  exact fun hpaused => hpaused

/-- Moving the song time and reading the slot, at the same reading of both clocks. -/
theorem moved_caught (hshift : Scalar.Shift shift) (h : Alike shift s t)
    (hactive : s.phase.isActive = true) (now : R) :
    Alike shift (s.moved c now).caught (t.moved c (shift now)).caught where
  front := by
    have hprogress : shift now - t.anchor = now - s.anchor := by rw [h.anchor, hshift.sub]
    unfold moved
    rw [hprogress]
    conv_lhs => rw [h.front]
    rfl
  anchor := h.anchor
  unread := by rw [unread_caught, unread_caught]
  behind := Nat.le_refl _
  behind' := Nat.le_refl _
  paused := by
    intro hpaused
    unfold moved at hpaused
    simp only [caught] at hpaused
    split at hpaused
    · cases hpaused
    · exact absurd hpaused (Phase.ne_of_isActive hactive).2.1

/-- A tick leaves no session paused that it found active. -/
theorem tick_not_paused (hactive : s.phase.isActive = true) (now : R) :
    (s.tick c now).2.phase ≠ .paused := by
  rcases phase_tick c now s with hsame | ⟨-, hplays⟩ | ⟨-, hover⟩
  · rw [hsame]
    exact (Phase.ne_of_isActive hactive).2.1
  · simp [hplays]
  · simp [hover]

theorem tick (hshift : Scalar.Shift shift) (h : Alike shift s t) (c : Setup F R) (now : R) :
    (t.tick c (shift now)).1 = (s.tick c now).1 ∧
      Alike shift (s.tick c now).2 (t.tick c (shift now)).2 := by
  rcases s.active_or_idle with ⟨song, hactive, hsong⟩ | hidle
  · -- Both settle what they have read, which is the same
    have hnext := h.moved_caught (c := c) hshift hactive now
    have hsettle := settle_withHidden c (s.moved c now).caught (t.moved c (shift now)).caught.hidden
      song s.unread
    rw [← hnext.front] at hsettle
    have hpaused := tick_not_paused (c := c) hactive now
    rw [tick_eq_settle now hactive hsong] at hpaused ⊢
    rw [tick_eq_settle (shift now) (h.phase_eq ▸ hactive) (h.song_eq.trans hsong), h.unread, hsettle]
    exact ⟨rfl, hnext.of_hidden (settle_hidden ..) fun hphase' => absurd hphase' hpaused⟩
  · rw [tick_of_idle now hidle, tick_of_idle (shift now) (by rwa [h.phase_eq, h.song_eq])]
    exact ⟨rfl, h⟩

/-- **Every event returns the same of both, and leaves them alike.** -/
theorem perform (hshift : Scalar.Shift shift) (h : Alike shift s t) (c : Setup F R)
    (e : R × Event F R) :
    (t.perform c (shift e.1) e.2).1 = (s.perform c e.1 e.2).1 ∧
      Alike shift (s.after c e) (t.after c (shift e.1, e.2)) := by
  obtain ⟨now, e⟩ := e
  cases e with
  | start song => exact ⟨rfl, .start c shift now song s t⟩
  | tick => exact h.tick hshift c now
  | pause => exact ⟨rfl, h.pause now⟩
  | resume => exact ⟨rfl, h.resume hshift now⟩
  | finish => exact ⟨rfl, h.finish⟩
  | reset => exact ⟨rfl, h.reset c⟩
  | judge pitch =>
    obtain ⟨hreturns, halike⟩ := h.judge c pitch
    exact ⟨congrArg (Except.map Option.toList) hreturns, halike⟩
  | sweep => exact h.sweep c
  | hear pitch => exact ⟨rfl, h.hear pitch⟩

/-- **Whatever follows, both have the same film.** -/
theorem film_eq (hshift : Scalar.Shift shift) (h : Alike shift s t)
    (events : List (R × Event F R)) : t.film c (onClock shift events) = s.film c events := by
  induction events generalizing s t with
  | nil => rfl
  | cons e rest ih =>
    obtain ⟨hreturns, halike⟩ := h.perform hshift c e
    have hscene := halike.scene_eq (c := c)
    have hrest := ih halike
    show ((t.perform c (shift e.1) e.2).1, (t.after c (shift e.1, e.2)).scene c) ::
      (t.after c (shift e.1, e.2)).film c (onClock shift rest) = _
    rw [hreturns, hscene, hrest]
    rfl

end Alike

variable [Analytic F] {c : Setup F R}

theorem ReadsBehind.after (hs : s.ReadsBehind) (e : R × Event F R) : (s.after c e).ReadsBehind :=
  ((Alike.refl hs).perform Scalar.shift_id c e).2.behind

/-- **No session that a run reaches has read more than was written.** -/
theorem readsBehind_run (c : Setup F R) (events : List (R × Event F R)) :
    ((fresh c).run c events).ReadsBehind := by
  have hrun : ∀ s : Session F R, s.ReadsBehind → (s.run c events).ReadsBehind := by
    induction events with
    | nil => exact fun s hs => hs
    | cons e rest ih => exact fun s hs => ih _ (hs.after e)
  exact hrun _ (Nat.le_refl 0)

/-! ## §4 Starting anew -/

/-- **What was before a start is never seen after it.** Take two sessions of one setup that any two
runs have reached, and begin a song in both at one reading of the clock. Then whatever is done to
both, each event returns the same, and each time they show the same phase, song time, notes in the
hit zone and in sight, hits and score. -/
theorem start_forgets (c : Setup F R) (before before' : List (R × Event F R)) (now : R)
    (song : Song R) (events : List (R × Event F R)) :
    ((fresh c).run c before').film c ((now, .start song) :: events) =
      ((fresh c).run c before).film c ((now, .start song) :: events) := by
  have halike := Alike.start c (fun x => x) now song ((fresh c).run c before)
    ((fresh c).run c before')
  have hscene := halike.scene_eq (c := c)
  have hfilm := halike.film_eq (c := c) Scalar.shift_id events
  have hclock : onClock (fun x => x) events = events := List.map_id' events
  rw [hclock] at hfilm
  show (.ok [], (((fresh c).run c before').start c now song).scene c) ::
    (((fresh c).run c before').start c now song).film c events = _
  rw [hscene, hfilm]
  rfl

end Session

end Lamella
