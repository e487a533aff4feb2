import Lamella.Proofs.Session.Phases

/-!
# What a tick settles

A tick moves the song time to a reading of the clock, reads the slot, and then settles the frame: it
judges the estimate that it has read, sweeps, and finishes the song if its time is over. Settling
looks neither at the clock nor at the slot any more, and leaves both as they are. So whatever
happens to them meanwhile could as well have happened before or after.

## Main definitions

- `Session.Hidden`: what judging neither looks at nor changes.
- `Session.unread`: the estimate that a tick would read.
- `Session.settle`: what a tick does once it has read the slot.

## Main statements

- `Session.tick_eq_settle`: a tick reads the unread estimate and settles.
- `Session.judge_withHidden`, `Session.sweep_withHidden`, `Session.settle_withHidden`: judging
  commutes with any change of what is hidden from it.
-/

namespace Lamella.Session

/-! ## §1 What judging does not look at -/

section Hidden

variable {F R : Type} [Scalar R]

/-- What judging neither looks at nor changes: the slot and how far it was read, the reading of the
clock at the start, and what is remembered of a pause. -/
structure Hidden (F R : Type) where
  slot : Slot F
  anchor : R
  pausedAt : Option R
  resumePhase : Phase
  seen : Nat

/-- What is hidden from judging in a session. -/
def hidden (s : Session F R) : Hidden F R := ⟨s.slot, s.anchor, s.pausedAt, s.resumePhase, s.seen⟩

/-- A session with other hidden parts. -/
def withHidden (s : Session F R) (h : Hidden F R) : Session F R :=
  { s with
    slot := h.slot
    anchor := h.anchor
    pausedAt := h.pausedAt
    resumePhase := h.resumePhase
    seen := h.seen }

variable (s : Session F R) (h k : Hidden F R)

@[simp] theorem withHidden_phase : (s.withHidden h).phase = s.phase := rfl

@[simp] theorem withHidden_song : (s.withHidden h).song = s.song := rfl

@[simp] theorem withHidden_progress : (s.withHidden h).progress = s.progress := rfl

@[simp] theorem withHidden_keeper : (s.withHidden h).keeper = s.keeper := rfl

@[simp] theorem withHidden_hits : (s.withHidden h).hits = s.hits := rfl

@[simp] theorem withHidden_missIndex : (s.withHidden h).missIndex = s.missIndex := rfl

@[simp] theorem hidden_withHidden : (s.withHidden h).hidden = h := rfl

@[simp] theorem withHidden_hidden : s.withHidden s.hidden = s := rfl

@[simp] theorem withHidden_withHidden : (s.withHidden h).withHidden k = s.withHidden k := rfl

@[simp] theorem withHidden_notes : (s.withHidden h).notes = s.notes := rfl

theorem record_withHidden (hit : Hit F R) :
    (s.withHidden h).record hit = ((s.record hit).1, (s.record hit).2.withHidden h) := by
  simp only [record, withHidden_keeper]
  cases hregister : s.keeper.register hit.note hit.tier with
  | mk applied keeper =>
    cases applied with
    | error fault => rfl
    | ok applied => cases applied <;> rfl

theorem finish_withHidden : (s.withHidden h).finish = s.finish.withHidden h := by
  by_cases hidle : s.phase = .idle
  · simp [finish, hidle]
  · simp only [finish, withHidden_phase, hidle, if_false]
    rfl

theorem closeAt_withHidden (song : Song R) :
    (s.withHidden h).closeAt song = ((s.closeAt song).1, (s.closeAt song).2.withHidden h) := by
  simp only [closeAt, withHidden_progress]
  cases song.duration.atMost s.progress with
  | error fault => rfl
  | ok ended =>
    cases ended with
    | false => rfl
    | true => simp only [finish_withHidden]

end Hidden

variable {F R : Type} [Analytic F] [Scalar R]

section Judging

variable (c : Setup F R) (s : Session F R) (h : Hidden F R)

@[simp] theorem withHidden_inputTime : (s.withHidden h).inputTime c = s.inputTime c := rfl

@[simp] theorem withHidden_hitZone : (s.withHidden h).hitZone c = s.hitZone c := rfl

@[simp] theorem withHidden_visible : (s.withHidden h).visible c = s.visible c := rfl

theorem judge_withHidden (pitch : HeardPitch F) :
    (s.withHidden h).judge c pitch = ((s.judge c pitch).1, (s.judge c pitch).2.withHidden h) := by
  cases hgate : !s.phase.isActive || !c.matcher.accepts pitch with
  | true => simp [judge, hgate]
  | false =>
    simp only [judge, withHidden_phase, withHidden_inputTime, withHidden_hitZone, hgate,
      Bool.false_eq_true, if_false]
    cases firstHit c (s.inputTime c) pitch (s.hitZone c) with
    | error fault => rfl
    | ok found =>
      cases found with
      | none => rfl
      | some hit =>
        -- The hit is recorded in the same way, whatever is hidden
        simp only [record_withHidden]
        cases s.record hit with
        | mk recorded t => cases recorded <;> rfl

theorem sweepFrom_withHidden (now : R) (notes : List (Note R)) :
    sweepFrom c now notes (s.withHidden h) =
      ((sweepFrom c now notes s).1, (sweepFrom c now notes s).2.withHidden h) := by
  induction notes generalizing s with
  | nil => rfl
  | cons n rest ih =>
    -- A note is passed in the same way, whatever is hidden
    have hpassed : (s.withHidden h).passed = s.passed.withHidden h := rfl
    cases hleft : hasLeft c now n with
    | false => simp only [sweepFrom_of_staying rest hleft]
    | true =>
      cases hjudged : s.keeper.isJudged n.id with
      | true =>
        have hjudged' : (s.withHidden h).keeper.isJudged n.id = true := hjudged
        rw [sweepFrom_of_judged rest hleft hjudged, sweepFrom_of_judged rest hleft hjudged', hpassed]
        exact ih s.passed
      | false =>
        have hjudged' : (s.withHidden h).keeper.isJudged n.id = false := hjudged
        have hrecord := record_withHidden s.passed h (missed now n)
        rw [← hpassed] at hrecord
        rcases hrecorded : s.passed.record (missed now n) with ⟨fault | _, t⟩
        · rw [hrecorded] at hrecord
          rw [sweepFrom_of_refused rest hleft hjudged hrecorded,
            sweepFrom_of_refused rest hleft hjudged' hrecord]
        · rw [hrecorded] at hrecord
          rw [sweepFrom_of_recorded rest hleft hjudged hrecorded,
            sweepFrom_of_recorded rest hleft hjudged' hrecord, ih t]

theorem sweep_withHidden :
    (s.withHidden h).sweep c = ((s.sweep c).1, (s.sweep c).2.withHidden h) :=
  sweepFrom_withHidden c s h _ _

end Judging

/-! ## §2 Reading the slot and settling -/

/-- The estimate that a tick would read: what was written last, unless it was read before. -/
def unread (s : Session F R) : Option (HeardPitch F) :=
  if s.slot.version = s.seen then none else s.slot.pitch

/-- A session that has read its slot. -/
def caught (s : Session F R) : Session F R := { s with seen := s.slot.version }

/-- Judges an estimate, if there is one. -/
def judgeAny (c : Setup F R) (heard : Option (HeardPitch F)) (s : Session F R) :
    Except Fault (Option (Hit F R)) × Session F R :=
  match heard with
  | none => (.ok none, s)
  | some pitch => s.judge c pitch

/-- What a tick does once it has moved the song time and read the slot: it judges the estimate that
it has read, sweeps, and finishes the song if its time is over. -/
def settle (c : Setup F R) (song : Song R) (heard : Option (HeardPitch F)) (s : Session F R) :
    Except Fault (List (Hit F R)) × Session F R :=
  match s.judgeAny c heard with
  | (.error fault, s) => (.error fault, s)
  | (.ok hit, s) =>
    match s.sweep c with
    | (.error fault, s) => (.error fault, s)
    | (.ok misses, s) =>
      match s.closeAt song with
      | (.error fault, s) => (.error fault, s)
      | (.ok _, s) => (.ok (hit.toList ++ misses), s)

theorem readSlot_eq (c : Setup F R) (s : Session F R) :
    s.readSlot c = s.caught.judgeAny c s.unread := by
  unfold readSlot unread
  split
  · rename_i hread
    -- A slot that was read is read once more, to no effect
    have hcaught : s.caught = s := by
      unfold caught
      rw [hread]
    rw [hcaught]
    rfl
  · unfold judgeAny caught
    rfl

/-- **A tick reads the unread estimate and settles.** -/
theorem tick_eq_settle {c : Setup F R} {s : Session F R} {song : Song R} (now : R)
    (hactive : s.phase.isActive = true) (hsong : s.song = some song) :
    s.tick c now = (s.moved c now).caught.settle c song s.unread := by
  have hread : (s.moved c now).readSlot c = (s.moved c now).caught.judgeAny c s.unread :=
    readSlot_eq c (s.moved c now)
  unfold settle
  rw [← hread]
  unfold tick
  split
  · rename_i song' _ hsong'
    obtain rfl : song' = song := Option.some.inj (hsong'.symm.trans hsong)
    rfl
  · rename_i hidle
    exact absurd hsong (hidle song hactive)

section Settling

variable (c : Setup F R) (s : Session F R) (h : Hidden F R)

theorem judgeAny_withHidden (heard : Option (HeardPitch F)) :
    (s.withHidden h).judgeAny c heard =
      ((s.judgeAny c heard).1, (s.judgeAny c heard).2.withHidden h) := by
  cases heard with
  | none => rfl
  | some pitch => exact judge_withHidden c s h pitch

/-- Settling commutes with any change of what is hidden from judging. -/
theorem settle_withHidden (song : Song R) (heard : Option (HeardPitch F)) :
    (s.withHidden h).settle c song heard =
      ((s.settle c song heard).1, (s.settle c song heard).2.withHidden h) := by
  simp only [settle, judgeAny_withHidden]
  obtain ⟨fault | hit, t⟩ := s.judgeAny c heard
  · rfl
  simp only [sweep_withHidden]
  obtain ⟨fault | misses, u⟩ := t.sweep c
  · rfl
  simp only [closeAt_withHidden]
  obtain ⟨fault | _, v⟩ := u.closeAt song <;> rfl

/-! What commutes with every change leaves the hidden parts as they are. -/

theorem judge_hidden (pitch : HeardPitch F) : (s.judge c pitch).2.hidden = s.hidden :=
  congrArg (fun result => result.2.hidden) (judge_withHidden c s s.hidden pitch)

theorem sweep_hidden : (s.sweep c).2.hidden = s.hidden :=
  congrArg (fun result => result.2.hidden) (sweep_withHidden c s s.hidden)

theorem settle_hidden (song : Song R) (heard : Option (HeardPitch F)) :
    (s.settle c song heard).2.hidden = s.hidden :=
  congrArg (fun result => result.2.hidden) (settle_withHidden c s s.hidden song heard)

end Settling

end Lamella.Session
