import Lamella.Proofs.Session.Swept

/-!
# What is judged late

What a sweep marks has left the window at the song time of the sweep. Where no estimate hits a note
and no pause comes, the song time is never ahead of the clock, so that whatever is judged has left
the window by the last reading; and after a tick that returns, all of that is judged. If the clock
never goes back, the judged notes are therefore a matter of its last reading alone.

## Main definitions

- `Session.SweepsIn`: the session in which an event sweeps.
- `Session.IsLate`, `Session.MarksLate`: notes that have left, and sweeps that mark only these.
- `Session.Unstruck`: an event at which no estimate judges a note.
- `Session.Undisturbed`: a run after a start without pauses and hits.

## Main statements

- `Session.Covered.marksLate`: a sweep marks late notes only.
- `Session.SweptBy.run`: what is judged in a run without hits has left the window.
- `Session.sweeps_complete_and_exact`: sweeps in every run.
-/

namespace Lamella

namespace Session

variable {F R : Type} [Analytic F] [Scalar R] {c : Setup F R} {s t u : Session F R}

/-! ## §1 What sweeps mark -/

/-- The session in which an event sweeps: a direct sweep does so as the session stands, and the tick
of an active session once it has moved the song time and read the slot. -/
inductive SweepsIn (c : Setup F R) (s : Session F R) : R × Event F R → Session F R → Prop where
  | direct (now : R) : SweepsIn c s (now, .sweep) s
  | tick {now : R} {hit : Option (Hit F R)} : s.phase.isActive = true →
      ((s.moved c now).readSlot c).1 = .ok hit →
      SweepsIn c s (now, .tick) ((s.moved c now).readSlot c).2

/-- An id is that of a note that is late by more than the window at a song time. -/
def IsLate (c : Setup F R) (notes : List (Note R)) (now : R) (x : Value R) : Prop :=
  ∃ n ∈ notes, Song.sameId x n.id = true ∧ c.settings.hitSeconds < now - n.time

/-- What a sweep returns, adds to the hits and judges are notes that are late. -/
structure MarksLate (c : Setup F R) (u t : Session F R) : Prop where
  returned : ∀ hits, (u.sweep c).1 = .ok hits → ∀ hit ∈ hits,
    ∃ n ∈ u.notes, hit = missed (u.inputTime c) n ∧ c.settings.hitSeconds < u.inputTime c - n.time
  added : ∀ hit ∈ t.hits, hit ∈ u.hits ∨
    ∃ n ∈ u.notes, hit = missed (u.inputTime c) n ∧ c.settings.hitSeconds < u.inputTime c - n.time
  judged : ∀ x, t.keeper.isJudged x = true →
    u.keeper.isJudged x = true ∨ IsLate c u.notes (u.inputTime c) x

/-- What a sweep passes are notes that are late. -/
theorem late_of_leaving {now : R} {index : Nat} {n : Note R}
    (hn : n ∈ leaving c now (s.notes.drop index)) :
    n ∈ s.notes ∧ c.settings.hitSeconds < now - n.time := by
  refine ⟨List.mem_of_mem_drop ((List.takeWhile_sublist _).subset hn), ?_⟩
  have hleft : hasLeft c now n = true := List.mem_takeWhile_imp hn
  exact of_decide_eq_true hleft

/-- **A sweep marks late notes only.** -/
theorem Covered.marksLate (hu : u.Covered) (c : Setup F R) : MarksLate c u (u.sweep c).2 := by
  have hreturned : ∀ hits, (u.sweep c).1 = .ok hits → ∀ hit ∈ hits, ∃ n ∈ u.notes,
      hit = missed (u.inputTime c) n ∧ c.settings.hitSeconds < u.inputTime c - n.time := by
    intro hits hhits hit hhit
    obtain ⟨marked, hsublist, rfl⟩ := sweepFrom_returns hhits
    obtain ⟨n, hn, rfl⟩ := List.mem_map.mp hhit
    obtain ⟨hmem, hlate⟩ := late_of_leaving (hsublist.subset hn)
    exact ⟨n, hmem, rfl, hlate⟩
  cases hopen : u.keeper.frozen with
  | true =>
    -- A score that is frozen takes nothing in
    obtain ⟨hkeeper, hhits⟩ :=
      sweepFrom_of_frozen c (u.inputTime c) (u.notes.drop u.missIndex) hopen
    have hkeeper' : (u.sweep c).2.keeper = u.keeper := hkeeper
    have hhits' : (u.sweep c).2.hits = u.hits := hhits
    refine ⟨hreturned, fun hit hhit => .inl ?_, fun x hx => .inl ?_⟩
    · rwa [hhits'] at hhit
    · rwa [hkeeper'] at hx
  | false =>
    obtain ⟨passed, hreach, hpasses, -⟩ := hu.sweep_passes hopen c
    obtain ⟨marked, hmarked, hhits⟩ := hpasses.hits
    refine ⟨hreturned, fun hit hhit => ?_, fun x hx => ?_⟩
    · rw [hhits] at hhit
      rcases List.mem_append.mp hhit with hold | hnew
      · exact .inl hold
      · obtain ⟨n, hn, rfl⟩ := List.mem_map.mp hnew
        obtain ⟨hmem, hlate⟩ := late_of_leaving (hreach.subset (hmarked.subset hn))
        exact .inr ⟨n, hmem, rfl, hlate⟩
    · rw [hpasses.judged, Bool.or_eq_true, List.any_eq_true] at hx
      rcases hx with hold | ⟨n, hn, hsame⟩
      · exact .inl hold
      · obtain ⟨hmem, hlate⟩ := late_of_leaving (hreach.subset hn)
        exact .inr ⟨n, hmem, hsame, hlate⟩

/-- What an event leaves of a session that it swept is what the sweep left, frozen at most. -/
theorem SweepsIn.sameScore {e : R × Event F R} (h : SweepsIn c s e u) (hsteady : s.Steady) :
    u.notes = s.notes ∧ (u.sweep c).2.SameScore (s.after c e) := by
  cases h with
  | direct now => exact ⟨rfl, rfl, rfl, rfl, rfl, id⟩
  | @tick now hit hactive hread =>
    obtain ⟨song, hsong⟩ := Option.ne_none_iff_exists'.mp (hsteady.of_active hactive).1
    refine ⟨(readSlot_sameCourse c (s.moved c now)).notes, ?_⟩
    have hafter : s.after c (now, .tick) = (s.tick c now).2 := rfl
    rw [hafter]
    rcases tick_cases (c := c) now hactive hsong with
      ⟨_, hfault, -⟩ | ⟨_, _, -, -, htick⟩ | ⟨_, _, _, -, -, -, htick⟩ | ⟨_, _, -, -, -, htick⟩ |
        ⟨_, _, -, -, -, htick⟩
    · rw [hread] at hfault
      cases hfault
    iterate 3
      · rw [htick]
        exact ⟨rfl, rfl, rfl, rfl, id⟩
    · rw [htick]
      exact finish_sameScore _

theorem Covered.sweepsIn (hs : s.Covered) {e : R × Event F R} (h : SweepsIn c s e u) :
    u.Covered := by
  cases h with
  | direct now => exact hs
  | tick hactive hread => exact (hs.of_sameScore (moved_sameScore c _ s)).readSlot c

/-! ## §2 Runs without hits -/

section Unstruck

/-- An event at which no estimate judges a note, neither one that is judged directly nor the one that
a tick reads from the slot. -/
def Unstruck (c : Setup F R) (s : Session F R) : R × Event F R → Prop
  | (_, .judge pitch) =>
      ∀ x, (s.judge c pitch).2.keeper.isJudged x = s.keeper.isJudged x
  | (now, .tick) => s.phase.isActive = true →
      ∀ x, ((s.moved c now).readSlot c).2.keeper.isJudged x = s.keeper.isJudged x
  | _ => True

/-- Where nothing new is in the slot, no estimate is judged. -/
theorem unstruck_of_read (hread : s.slot.version = s.seen) (now : R) : Unstruck c s (now, .tick) := by
  intro _ x
  have hnothing : (s.moved c now).readSlot c = (.ok none, s.moved c now) := if_pos hread
  rw [hnothing]
  rfl

variable {c : Setup F Rat} {s t : Session F Rat} {song : Song Rat} {began past now : Rat}

/-- The song time that is heard at a reading of the clock, if the song began at another. -/
def timeSince (c : Setup F Rat) (began now : Rat) : Rat :=
  now - began - c.leadIn - c.settings.latencySeconds

theorem IsLate.later {notes : List (Note Rat)} {x : Value Rat}
    (h : IsLate c notes (timeSince c began past) x) (hpast : past ≤ now) :
    IsLate c notes (timeSince c began now) x := by
  obtain ⟨n, hn, hsame, hlate⟩ := h
  refine ⟨n, hn, hsame, ?_⟩
  unfold timeSince at hlate ⊢
  linarith

/-- What holds of a session since the start of its song, as long as no pause comes and no estimate
hits a note: while it goes on, its song time is not ahead of the clock, and what is judged has left
the window by the last reading. -/
structure SweptBy (c : Setup F Rat) (song : Song Rat) (began past : Rat) (s : Session F Rat) :
    Prop where
  awake : s.phase ≠ .paused
  plays : s.phase.isActive = true → s.song = some song
  anchor : s.phase.isActive = true → s.anchor = began
  progress : s.phase.isActive = true → s.progress ≤ past - began - c.leadIn
  judged : s.phase.isActive = true → ∀ x, s.keeper.isJudged x = true →
    IsLate c song.notes (timeSince c began past) x

namespace SweptBy

theorem start (s : Session F Rat) (c : Setup F Rat) (began : Rat) (song : Song Rat) :
    SweptBy c song began began (s.start c began song) where
  awake h := by cases h
  plays _ := rfl
  anchor _ := rfl
  progress _ := by
    show -c.leadIn ≤ began - began - c.leadIn
    linarith
  judged _ x hx := by
    have hnone : (s.start c began song).keeper.isJudged x = false :=
      Keeper.isJudged_fresh c.scoring x
    rw [hnone] at hx
    cases hx

theorem later (h : SweptBy c song began past s) (hpast : past ≤ now) :
    SweptBy c song began now s where
  awake := h.awake
  plays := h.plays
  anchor := h.anchor
  progress hactive := by
    have hbefore := h.progress hactive
    linarith
  judged hactive x hx := (h.judged hactive x hx).later hpast

/-- Nothing is asked of a session that does not go on. -/
theorem of_idle (hawake : s.phase ≠ .paused) (hidle : s.phase.isActive = false) :
    SweptBy c song began now s where
  awake := hawake
  plays h := absurd (h.symm.trans hidle) (by decide)
  anchor h := absurd (h.symm.trans hidle) (by decide)
  progress h := absurd (h.symm.trans hidle) (by decide)
  judged h := absurd (h.symm.trans hidle) (by decide)

/-- A session on the course of another is judged for what it judges itself. -/
theorem of_sameCourse (h : SweptBy c song began now s) (hcourse : s.SameCourse t)
    (hjudged : s.phase.isActive = true → ∀ x, t.keeper.isJudged x = true →
      IsLate c song.notes (timeSince c began now) x) : SweptBy c song began now t where
  awake := by
    rw [hcourse.phase]
    exact h.awake
  plays hactive := hcourse.song.trans (h.plays (hcourse.phase ▸ hactive))
  anchor hactive := hcourse.anchor.trans (h.anchor (hcourse.phase ▸ hactive))
  progress hactive := by
    rw [hcourse.progress]
    exact h.progress (hcourse.phase ▸ hactive)
  judged hactive := hjudged (hcourse.phase ▸ hactive)

theorem finish (h : SweptBy c song began now s) : SweptBy c song began now s.finish := by
  by_cases hidle : s.phase = .idle
  · unfold Session.finish
    rw [if_pos hidle]
    exact h
  · have hphase := finish_phase hidle
    exact of_idle (by rw [hphase]; decide) (by rw [hphase]; rfl)

/-- A sweep judges what is late at the song time, which is not ahead of the clock. -/
theorem sweep (h : SweptBy c song began now s) (hs : s.Covered) :
    SweptBy c song began now (s.sweep c).2 := by
  refine h.of_sameCourse (sweep_sameCourse c s) fun hactive x hx => ?_
  rcases (hs.marksLate c).judged x hx with hold | ⟨n, hn, hsame, hlate⟩
  · exact h.judged hactive x hold
  · rw [notes_of_song (h.plays hactive)] at hn
    refine ⟨n, hn, hsame, ?_⟩
    have hbefore := h.progress hactive
    have hheard : s.inputTime c ≤ timeSince c began now := by
      unfold inputTime timeSince
      linarith
    linarith

/-- The session that a tick of an active session sweeps. -/
theorem read (h : SweptBy c song began past s) (hpast : past ≤ now)
    (hactive : s.phase.isActive = true) (hunstruck : Unstruck c s (now, .tick)) :
    SweptBy c song began now ((s.moved c now).readSlot c).2 := by
  have hmoved : SweptBy c song began now (s.moved c now) := by
    refine ⟨(Phase.ne_of_isActive (moved_isActive hactive now)).2.1, fun _ => h.plays hactive,
      fun _ => h.anchor hactive, fun _ => ?_, fun _ x hx => (h.judged hactive x hx).later hpast⟩
    show now - s.anchor - c.leadIn ≤ now - began - c.leadIn
    rw [h.anchor hactive]
  refine hmoved.of_sameCourse (readSlot_sameCourse c _) fun hactive' x hx => ?_
  rw [hunstruck hactive] at hx
  exact (h.judged hactive x hx).later hpast

theorem tick (h : SweptBy c song began past s) (hs : s.Covered) (hpast : past ≤ now)
    (hunstruck : Unstruck c s (now, .tick)) : SweptBy c song began now (s.tick c now).2 := by
  cases hactive : s.phase.isActive with
  | false =>
    rw [tick_of_idle now (.inl hactive)]
    exact h.later hpast
  | true =>
    have hread := h.read hpast hactive hunstruck
    have hswept := hread.sweep ((hs.of_sameScore (moved_sameScore c now s)).readSlot c)
    rcases tick_cases (c := c) now hactive (h.plays hactive) with
      ⟨_, -, htick⟩ | ⟨_, _, -, -, htick⟩ | ⟨_, _, _, -, -, -, htick⟩ | ⟨_, _, -, -, -, htick⟩ |
        ⟨_, _, -, -, -, htick⟩ <;> rw [htick]
    · exact hread
    · exact hswept
    · exact hswept
    · exact hswept
    · exact hswept.finish

/-- An event that begins no song and no pause keeps it, if the clock does not go back and no
estimate hits a note. -/
theorem after (h : SweptBy c song began past s) (hs : s.Covered) {e : Rat × Event F Rat}
    (hpast : past ≤ e.1) (hpause : e.2 ≠ .pause) (hstart : ∀ other, e.2 ≠ .start other)
    (hunstruck : Unstruck c s e) : SweptBy c song began e.1 (s.after c e) := by
  have hlater := h.later hpast
  obtain ⟨now, e⟩ := e
  cases e with
  | start other => exact absurd rfl (hstart other)
  | pause => exact absurd rfl hpause
  | tick => exact h.tick hs hpast hunstruck
  | resume =>
    have hafter : s.after c (now, .resume) = s := if_neg h.awake
    rw [hafter]
    exact hlater
  | finish => exact hlater.finish
  | reset => exact of_idle (fun h => by cases h) rfl
  | judge pitch =>
    refine hlater.of_sameCourse (judge_sameCourse c pitch s) fun hactive x hx => ?_
    exact hlater.judged hactive x ((hunstruck x).symm.trans hx)
  | sweep => exact hlater.sweep hs
  | hear pitch => exact ⟨hlater.awake, hlater.plays, hlater.anchor, hlater.progress, hlater.judged⟩

end SweptBy

/-- A run after a start: it begins no other song and no pause, no estimate hits a note, also not in a
last tick, and the clock never goes back. -/
structure Undisturbed (c : Setup F Rat) (began : Rat) (s : Session F Rat)
    (events : List (Rat × Event F Rat)) (now : Rat) : Prop where
  pauses : ∀ e ∈ events, e.2 ≠ .pause
  starts : ∀ e ∈ events, ∀ song, e.2 ≠ .start song
  clock : (began :: (events.map Prod.fst ++ [now])).Pairwise (· ≤ ·)
  unstruck : Along c (Unstruck c) s (events ++ [(now, .tick)])

/-- **What is judged in a run without hits has left the window.** -/
theorem SweptBy.run {events : List (Rat × Event F Rat)} (h : SweptBy c song began past s)
    (hs : s.Covered) (hpauses : ∀ e ∈ events, e.2 ≠ .pause)
    (hstarts : ∀ e ∈ events, ∀ song, e.2 ≠ .start song)
    (hclock : (past :: (events.map Prod.fst ++ [now])).Pairwise (· ≤ ·))
    (hunstruck : Along c (Unstruck c) s events) :
    SweptBy c song began now (s.run c events) := by
  induction events generalizing past s with
  | nil => exact h.later ((List.pairwise_cons.mp hclock).1 now (by simp))
  | cons e rest ih =>
    obtain ⟨hpast, hclock'⟩ := List.pairwise_cons.mp hclock
    have hstart := hstarts e List.mem_cons_self
    have hafter := h.after hs (hpast e.1 (by simp)) (hpauses e List.mem_cons_self) hstart
      hunstruck.1
    have hs' : (s.after c e).Covered := hs.after fun song' he => absurd he (hstart song')
    exact ih hafter hs' (fun e' he' => hpauses e' (List.mem_cons_of_mem e he'))
      (fun e' he' => hstarts e' (List.mem_cons_of_mem e he')) hclock' hunstruck.2

/-- What is judged after a tick that returns is what is late at its reading of the clock. -/
theorem SweptBy.judged_iff (h : SweptBy c song began past s) (hs : s.Covered) (hsteady : s.Steady)
    (horder : s.notes.Pairwise fun m n => m.time ≤ n.time) (hpast : past ≤ now)
    (hunstruck : Unstruck c s (now, .tick)) (hactive : s.phase.isActive = true)
    {hits : List (Hit F Rat)} (hreturns : (s.tick c now).1 = .ok hits) (x : Value Rat) :
    (s.tick c now).2.keeper.isJudged x = true ↔ IsLate c song.notes (timeSince c began now) x := by
  have hsong := h.plays hactive
  have htime : (s.tick c now).2.inputTime c = timeSince c began now := by
    rw [inputTime_tick now hactive hsong, heardAt, h.anchor hactive]
    rfl
  constructor
  · intro hx
    obtain ⟨_, _, -, -, -, hscore⟩ := tick_of_returns hactive hsong hreturns
    rw [hscore.isJudged] at hx
    have hread := h.read hpast hactive hunstruck
    have hswept := hread.sweep ((hs.of_sameScore (moved_sameScore c now s)).readSlot c)
    refine hswept.judged ?_ x hx
    rw [(sweep_sameCourse c _).phase, (readSlot_sameCourse c _).phase]
    exact moved_isActive hactive now
  · rintro ⟨n, hn, hsame, hlate⟩
    obtain ⟨hcomplete, -⟩ := hs.tick_complete hsteady horder hactive hreturns
    rw [Keeper.isJudged_congr hsame]
    refine hcomplete n ?_ ?_
    · have hnotes : (s.tick c now).2.notes = song.notes :=
        notes_of_song ((song_tick c now s).trans hsong)
      rwa [hnotes]
    · rw [htime]
      exact decide_eq_true hlate

end Unstruck

/-! ## §3 Sweeps in every run -/

/-- **Sweeps are complete and exact.** Take any run that starts songs as they are made, with exact
times in any order, whatever the latency is and wherever the clock goes. After a tick of an active
session that returns, every note that is late by more than the window is judged, and so is every note
before the cursor. Whenever an event sweeps, what the sweep returns, adds to the hits and judges are
notes that are late by more than the window at that time, and the event leaves just what the sweep
has left. And after a start, as long as there are no pauses and no hits of estimates and the clock
never goes back, the judged notes after such a tick are those that are late at its reading of the
clock, however many ticks came before. -/
theorem sweeps_complete_and_exact {F : Type} [Analytic F] (c : Setup F Rat)
    (events : List (Rat × Event F Rat))
    (hmade : ∀ now song, (now, Event.start song) ∈ events → song.Made) :
    let s := (fresh c).run c events
    (∀ now hits, s.phase.isActive = true → (s.tick c now).1 = .ok hits →
      let t := (s.tick c now).2
      (∀ n ∈ t.notes, c.settings.hitSeconds < t.inputTime c - n.time →
        t.keeper.isJudged n.id = true) ∧
      ∀ n ∈ t.notes.take t.missIndex, t.keeper.isJudged n.id = true) ∧
    (∀ e u, SweepsIn c s e u → u.notes = s.notes ∧ MarksLate c u (u.sweep c).2 ∧
      (u.sweep c).2.SameScore (s.after c e)) ∧
    ∀ earlier began song later, events = earlier ++ (began, .start song) :: later →
      ∀ now hits, Undisturbed c began ((fresh c).run c (earlier ++ [(began, .start song)])) later now →
        s.phase.isActive = true → (s.tick c now).1 = .ok hits →
        ∀ x, (s.tick c now).2.keeper.isJudged x = true ↔
          IsLate c song.notes (timeSince c began now) x := by
  intro s
  have hs : s.Covered := covered_run fun now song hmem => (hmade now song hmem).identifying
  have hsteady : s.Steady := steady_run c events
  have horder : s.notes.Pairwise fun m n => m.time ≤ n.time :=
    inOrder_of_run fun now song hmem => (hmade now song hmem).inOrder
  refine ⟨fun now hits hactive hreturns => ?_, fun e u hsweeps => ?_, ?_⟩
  · obtain ⟨hcomplete, hbefore⟩ := hs.tick_complete hsteady horder hactive hreturns
    exact ⟨fun n hn hlate => hcomplete n hn (decide_eq_true hlate), hbefore⟩
  · obtain ⟨hnotes, hscore⟩ := hsweeps.sameScore hsteady
    exact ⟨hnotes, (hs.sweepsIn hsweeps).marksLate c, hscore⟩
  · intro earlier began song later hevents now hits hrun hactive hreturns x
    -- The run up to the last tick, from the start on
    have hsplit : s = (((fresh c).run c earlier).start c began song).run c later := by
      simp only [s, hevents, run_append]
      rfl
    have hbegun : (fresh c).run c (earlier ++ [(began, .start song)]) =
        ((fresh c).run c earlier).start c began song := run_append ..
    have hunstruck := hrun.unstruck
    rw [hbegun] at hunstruck
    obtain ⟨halong, hlast, -⟩ := (along_append _ _).mp hunstruck
    rw [← hsplit] at hlast
    have hcovered : (((fresh c).run c earlier).start c began song).Covered := by
      refine ⟨(hmade began song ?_).identifying, fun _ n hn => by cases hn⟩
      rw [hevents]
      exact List.mem_append_right _ List.mem_cons_self
    have hswept := (SweptBy.start ((fresh c).run c earlier) c began song).run hcovered hrun.pauses
      hrun.starts hrun.clock halong
    rw [← hsplit] at hswept
    exact hswept.judged_iff hs hsteady horder (le_refl now) hlast hactive hreturns x

/-- A song of two notes that is made and started: when the clock reads a second and a half, the first
of them has left the window and the second has not. -/
theorem swept_song_of_two_notes :
    let c : Setup Float Rat :=
      soleSetup (usualSettings (by decide) usualWindows_rat.1) .usual usualWindows_rat.2
    let first : Note Rat := soleNote "a" 1 (by decide) (by decide)
    let second : Note Rat := soleNote "b" 2 (by decide) (by decide)
    ∃ song : Song Rat, song.Made ∧ song.notes = [first, second] ∧
      let s := (fresh c).run c [(0, .start song), (1, .tick)]
      (∃ hits, (s.tick c (3 / 2)).1 = .ok hits) ∧
        (s.tick c (3 / 2)).2.keeper.isJudged first.id = true ∧
        ¬ (s.tick c (3 / 2)).2.keeper.isJudged second.id = true := by
  intro c first second
  let d : Song.Draft Rat := { title := "Song", notes := [first, second], id := some "song" }
  have howned : Song.Owned d.notes := by
    refine ⟨fun n _ => le_refl n.time, ?_, ?_, ?_⟩
    · exact List.pairwise_pair.mpr (by decide : first.time ≤ second.time)
    · simp [d, first, second, soleNote, Value.isNull, Song.isIdentifying]
    · exact List.pairwise_pair.mpr (by decide : Song.sameId first.id second.id = false)
  have hgives := Song.make_of_owned (d := d) {} rfl (by decide +kernel) rfl
    (Difficulty.ofValue_text .medium) howned
  refine ⟨_, ⟨d, _, _, hgives⟩, rfl, ?_⟩
  generalize hsong : ({ .. } : Song Rat) = song at hgives ⊢
  intro s
  have hreturns : (s.tick c (3 / 2)).1.toOption.isSome = true := by
    subst hsong
    decide +kernel
  have hactive : s.phase.isActive = true := by
    subst hsong
    decide +kernel
  have hnotes : song.notes = [first, second] := by
    subst hsong
    rfl
  obtain ⟨hits, hhits⟩ : ∃ hits, (s.tick c (3 / 2)).1 = .ok hits := by
    cases hresult : (s.tick c (3 / 2)).1 with
    | ok hits => exact ⟨hits, rfl⟩
    | error fault =>
      rw [hresult] at hreturns
      cases hreturns
  let events : List (Rat × Event Float Rat) := [(0, .start song), (1, .tick)]
  have hmade : ∀ now song', (now, .start song') ∈ events → song'.Made := by
    simp only [events, List.mem_cons, Prod.mk.injEq, Event.start.injEq, reduceCtorEq, and_false,
      List.not_mem_nil, or_false]
    rintro now song' ⟨-, rfl⟩
    exact ⟨d, _, _, hgives⟩
  -- No estimate is written into the slot, so that the ticks judge none
  have hrun : Undisturbed c 0 ((fresh c).run c ([] ++ [(0, .start song)])) [(1, .tick)] (3 / 2) := by
    refine ⟨by simp, by simp, by decide +kernel, unstruck_of_read rfl 1, unstruck_of_read ?_ (3 / 2),
      trivial⟩
    subst hsong
    decide +kernel
  have hjudged := (sweeps_complete_and_exact c events hmade).2.2 [] 0 song [(1, .tick)] rfl (3 / 2)
    hits hrun hactive hhits
  refine ⟨⟨hits, hhits⟩, (hjudged first.id).mpr ⟨first, ?_, ?_, ?_⟩, fun hsecond => ?_⟩
  · simp [hnotes]
  · decide +kernel
  · decide +kernel
  · obtain ⟨n, hn, hsame, hlate⟩ := (hjudged second.id).mp hsecond
    rw [hnotes] at hn
    rcases List.mem_pair.mp hn with rfl | rfl
    · revert hsame
      decide +kernel
    · revert hlate
      decide +kernel

end Session

end Lamella
