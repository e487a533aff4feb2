import Lamella.Proofs.Scalar.Orderly
import Lamella.Proofs.Session.Sweeping
import Lamella.Proofs.Song.Lasting
import Mathlib.Data.List.TakeWhile

/-!
# The end of a song

A tick finishes a song when its time is over, and the time of a song is a matter of its duration,
which is computed or was given with it. Whether every note has been judged by then depends on
whether the song outlasts its notes: whether, whenever its time is over, all of them have left the
hit window.

## Main definitions

- `Song.Outlasts`: a song that is over only when its notes have left the hit window.
- `Session.Complete`: each note of a song was judged just once.

## Main statements

- `Session.complete_at_finish_iff`: just the songs that outlast their notes are complete whenever a
  tick finishes them.
- `Song.outlasts_of_lt`: a duration that leaves room for the hit window and the latency is enough.
-/

namespace Lamella

/-! ## §1 Songs that outlast their notes -/

section Outlasts

variable {F R : Type} [Analytic F] [Scalar R]

/-- A song that outlasts its notes: wherever a session has started it and wherever the clock stands,
if its time is over then all its notes have left the hit window. -/
def Song.Outlasts (c : Setup F R) (song : Song R) : Prop :=
  ∀ anchor now, song.duration.atMost (now - anchor - c.leadIn) = .ok true →
    ∀ n ∈ song.notes,
      Session.hasLeft c (now - anchor - c.leadIn - c.settings.latencySeconds) n = true

/-- What has left the hit window at a song time has left it at each later one. -/
theorem Session.hasLeft_of_le [Scalar.Orderly R] {c : Setup F R} {x y : R} {n : Note R}
    (h : Session.hasLeft c (x - c.settings.latencySeconds) n = true) (hxy : x ≤ y) :
    Session.hasLeft c (y - c.settings.latencySeconds) n = true := by
  have hlt : c.settings.hitSeconds < x - c.settings.latencySeconds - n.time := of_decide_eq_true h
  obtain ⟨z, hz⟩ := Scalar.Orderly.exists_lt_of_lt_sub hlt
  obtain ⟨-, hlatency⟩ := Scalar.Orderly.le_refl_of_lt_sub hz
  obtain ⟨-, htime⟩ := Scalar.Orderly.le_refl_of_lt_sub hlt
  have hheard := Scalar.Orderly.sub_le_sub hz hxy hlatency
  exact decide_eq_true (Scalar.lt_sub_of_le hlt hheard htime)

/-- A song outlasts its notes if at its end the hit window has passed over each of them, as heard
with the latency. -/
theorem Song.outlasts_of_lt [Scalar.Orderly R] {c : Setup F R} {song : Song R} {d : R}
    (hduration : song.duration = .num d)
    (hroom : ∀ n ∈ song.notes,
      c.settings.hitSeconds < d - c.settings.latencySeconds - n.time) : song.Outlasts c := by
  intro anchor now hover n hn
  rw [hduration] at hover
  have hd : d ≤ now - anchor - c.leadIn := by simpa [Value.atMost] using hover
  -- The end is not later than now, and by the end the note has left
  exact Session.hasLeft_of_le (decide_eq_true (hroom n hn)) hd

end Outlasts

section Exact

/-- A computed duration ends with the silence after the last note. -/
theorem Song.finish_add_tail_le {notes : List (Note Rat)} {n : Note Rat} (hn : n ∈ notes) :
    n.finish + Song.tail ≤ Song.durationOf notes := by
  have hnumber : ∀ m ∈ notes, m.finish ≤ m.finish := fun m _ => le_rfl
  rcases Song.last_durationOf hnumber with ⟨rfl, -⟩ | ⟨last, -, hleast, hduration⟩
  · cases hn
  · rw [hduration]
    exact add_le_add_left (hleast n hn) Song.tail

/-- In exact numbers a song whose duration was computed outlasts its notes, as long as hit window
and latency together fit into the silence after the last note. -/
theorem Song.outlasts_of_computed {F : Type} [Analytic F] {c : Setup F Rat} {song : Song Rat}
    (hduration : song.duration = .num (Song.durationOf song.notes))
    (hroom : c.settings.hitSeconds + c.settings.latencySeconds ≤ Song.tail) :
    song.Outlasts c := by
  refine Song.outlasts_of_lt hduration fun n hn => ?_
  have hend : n.time + n.duration + Song.tail ≤ Song.durationOf song.notes :=
    Song.finish_add_tail_le hn
  have hlasts : 0 < n.duration := not_le.mp n.duration_pos
  linarith

end Exact

namespace Session

variable {F R : Type} [Analytic F] [Scalar R] {c : Setup F R} {s : Session F R} {song : Song R}

/-! ## §2 Complete sessions -/

/-- Each note of a song was judged just once, and the score and its accuracy are those of all of
them. -/
structure Complete (c : Setup F R) (song : Song R) (s : Session F R) : Prop where
  once : (s.hits.map Hit.note).Perm (song.notes.map Note.id)
  judged : s.keeper.score.judged = song.notes.length
  accuracy : Keeper.accuracy c.scoring.worth s.keeper.score = .ok s.keeper.score.accuracy

/-- Notes of one song with the same id are one. -/
theorem Sound.eq_of_sameId (hs : s.Sound c) {m n : Note R} (hm : m ∈ s.notes) (hn : n ∈ s.notes)
    (hsame : Song.sameId m.id n.id = true) : m = n := by
  by_contra hne
  have : Std.Symm fun m n : Note R => Song.sameId m.id n.id = false :=
    ⟨fun _ _ h => (Song.sameId_comm ..).trans h⟩
  -- Different notes of the song have ids that are told apart
  have hdifferent := hs.distinct.forall hm hn hne
  exact absurd (hsame.symm.trans hdifferent) nofun

/-- A sound session is complete just if all notes of its song are judged. -/
theorem Sound.complete_iff (hs : s.Sound c) (hsong : s.song = some song) :
    s.Complete c song ↔ ∀ n ∈ song.notes, s.keeper.isJudged n.id = true := by
  rw [← notes_of_song hsong]
  constructor
  · intro hcomplete n hn
    have hmem : n.id ∈ s.hits.map Hit.note := by
      rw [hcomplete.once.mem_iff, ← notes_of_song hsong]
      exact List.mem_map_of_mem hn
    obtain ⟨h, hh, hnote⟩ := List.mem_map.mp hmem
    rw [hs.inStep.judged, List.any_eq_true]
    exact ⟨h, hh, by rw [hnote, Song.sameId_self]; exact hs.identifying n hn⟩
  · intro hall
    -- Both rows of ids are without repetition, so it is enough that they have the same members
    have hhits := Song.nodup_of_distinct hs.inStep.distinct fun id hid => by
      obtain ⟨h, hh, rfl⟩ := List.mem_map.mp hid
      exact (hs.inStep.known h hh).2
    have hnotes : (s.notes.map Note.id).Nodup := by
      refine Song.nodup_of_distinct (List.pairwise_map.mpr hs.distinct) fun id hid => ?_
      obtain ⟨n, hn, rfl⟩ := List.mem_map.mp hid
      exact hs.identifying n hn
    have honce : (s.hits.map Hit.note).Perm (s.notes.map Note.id) := by
      rw [List.perm_ext_iff_of_nodup hhits hnotes]
      intro id
      constructor
      · intro hid
        obtain ⟨h, hh, rfl⟩ := List.mem_map.mp hid
        obtain ⟨n, hn, hnote⟩ := (hs.inStep.known h hh).1
        exact List.mem_map.mpr ⟨n, hn, hnote⟩
      · intro hid
        obtain ⟨n, hn, rfl⟩ := List.mem_map.mp hid
        have hjudged := hall n hn
        rw [hs.inStep.judged, List.any_eq_true] at hjudged
        obtain ⟨h, hh, hsame⟩ := hjudged
        -- The hit that is the same as `n` is of a note, which can only be `n`
        obtain ⟨m, hm, hnote⟩ := (hs.inStep.known h hh).1
        rw [← hnote] at hsame
        have hmn : n = m := hs.eq_of_sameId hn hm hsame
        exact List.mem_map.mpr ⟨h, hh, by rw [hmn, hnote]⟩
    have hlength := honce.length_eq
    rw [List.length_map, List.length_map, notes_of_song hsong] at hlength
    have hrated : s.keeper.IsRated := hs.rated
    rw [Keeper.IsRated, hs.inStep.scoring_eq] at hrated
    exact ⟨notes_of_song hsong ▸ honce, hs.inStep.judged_eq_length.trans hlength, hrated⟩

/-! ## §3 The tick that finishes -/

theorem moved_isActive (hactive : s.phase.isActive = true) (now : R) :
    (s.moved c now).phase.isActive = true := by
  unfold moved
  dsimp only
  split
  · rfl
  · exact hactive

/-- The tick of an active session that finishes it: the time of the song is over, and what is left
is the session after a sweep, finished. -/
theorem tick_of_finishing (hactive : s.phase.isActive = true) (hsong : s.song = some song)
    {now : R} (hfinished : (s.tick c now).2.phase = .finished) :
    song.duration.atMost (now - s.anchor - c.leadIn) = .ok true ∧
      (s.tick c now).2 = (((s.moved c now).readSlot c).2.sweep c).2.finish := by
  have hheard := readSlot_sameCourse c (s.moved c now)
  have hswept := hheard.trans (sweep_sameCourse c ((s.moved c now).readSlot c).2)
  -- Judging never finishes a session, so only the last of the five outcomes does
  have hgoing : ∀ t : Session F R, (s.moved c now).SameCourse t → t.phase ≠ .finished := by
    intro t hcourse hphase
    have hstill := moved_isActive (c := c) hactive now
    rw [← hcourse.phase, hphase] at hstill
    cases hstill
  rcases tick_cases (c := c) now hactive hsong with
    ⟨_, -, htick⟩ | ⟨_, _, -, -, htick⟩ | ⟨_, _, _, -, -, -, htick⟩ | ⟨_, _, -, -, -, htick⟩ |
      ⟨_, _, -, -, hover, htick⟩ <;> rw [htick] at hfinished
  · exact absurd hfinished (hgoing _ hheard)
  · exact absurd hfinished (hgoing _ hswept)
  · exact absurd hfinished (hgoing _ hswept)
  · exact absurd hfinished (hgoing _ hswept)
  · rw [hswept.progress] at hover
    exact ⟨hover, by rw [htick]⟩

/-- A tick that finishes a session judges all notes, if they have all left the hit window. -/
theorem Sound.judged_of_finishing (hs : s.Sound c) (hgains : c.scoring.Gains)
    (hactive : s.phase.isActive = true) (hsong : s.song = some song) {now : R}
    (hfinished : (s.tick c now).2.phase = .finished)
    (hleft : ∀ n ∈ song.notes,
      hasLeft c (now - s.anchor - c.leadIn - c.settings.latencySeconds) n = true) :
    ∀ n ∈ song.notes, (s.tick c now).2.keeper.isJudged n.id = true := by
  intro n hn
  -- The sweep of this tick begins in a sound session at the song time of the tick
  have hopen := (hs.steady.of_active hactive).2
  have hcourse := readSlot_sameCourse c (s.moved c now)
  have hheard := (hs.moved hactive now).readSlot hgains hopen
  set heard := ((s.moved c now).readSlot c).2
  have hnotes : heard.notes = song.notes := by
    rw [hcourse.notes]
    exact notes_of_song hsong
  have htime : heard.inputTime c = now - s.anchor - c.leadIn - c.settings.latencySeconds := by
    rw [inputTime, hcourse.progress]
    rfl
  have hopen' : heard.keeper.frozen = false := hcourse.frozen.trans hopen
  -- All notes from the cursor on have left, so the sweep passes every note
  have hall : leaving c (heard.inputTime c) (heard.notes.drop heard.missIndex) =
      heard.notes.drop heard.missIndex := by
    refine List.takeWhile_eq_self_iff.mpr fun m hm => ?_
    rw [htime]
    exact hleft m (hnotes ▸ List.mem_of_mem_drop hm)
  have htake := hheard.take_missIndex_sweep hgains hopen'
  rw [hall, List.take_append_drop] at htake
  have hjudged := hheard.judged_after_sweep hgains hopen' (n := n) (by rw [htake, hnotes]; exact hn)
  rw [(tick_of_finishing hactive hsong hfinished).2, (finish_sameScore _).isJudged]
  exact hjudged

/-- A session that has just started a song, whose time is over at the first tick: the tick finishes
it, and judges no note but those that have left the hit window. -/
theorem first_tick_of_over (hgains : c.scoring.Gains) (hplays : c.Plays song) {anchor now : R}
    (hover : song.duration.atMost (now - anchor - c.leadIn) = .ok true) :
    let s := (fresh c).start c anchor song
    (s.tick c now).2.phase = .finished ∧
      ∀ n ∈ song.notes, (s.tick c now).2.keeper.isJudged n.id = true →
        hasLeft c (now - anchor - c.leadIn - c.settings.latencySeconds) n = true := by
  intro s
  have hs : s.Sound c := (Sound.fresh c).after hgains (e := (anchor, .start song)) fun song' h => by
    cases h
    exact hplays
  have hmoved : (s.moved c now).Sound c := hs.moved rfl now
  -- Estimates written before the start count as read, so that only the sweep judges
  have hread : (s.moved c now).readSlot c = (.ok none, s.moved c now) := if_pos rfl
  obtain ⟨hmarks, hswept, -⟩ := sweep_eq hmoved hgains rfl
  have hprogress : ((s.moved c now).sweep c).2.progress = now - anchor - c.leadIn :=
    (sweep_sameCourse c (s.moved c now)).progress
  have hphase : ((s.moved c now).sweep c).2.phase ≠ .idle := by
    rw [(sweep_sameCourse c (s.moved c now)).phase]
    intro hidle
    have hactive := moved_isActive (s := s) (c := c) rfl now
    rw [hidle] at hactive
    cases hactive
  have hfinished : (s.tick c now).2.phase = .finished := by
    have hcases :=
      tick_cases (c := c) now (rfl : s.phase.isActive = true) (rfl : s.song = some song)
    rw [hread] at hcases
    dsimp only at hcases
    rw [hswept, hprogress, hover] at hcases
    rcases hcases with ⟨_, h, -⟩ | ⟨_, _, -, h, -⟩ | ⟨_, _, _, -, -, h, -⟩ | ⟨_, _, -, -, h, -⟩ |
      ⟨_, _, -, -, -, htick⟩
    · cases h
    · cases h
    · cases h
    · cases h
    · rw [htick]
      unfold finish
      rw [if_neg hphase]
  refine ⟨hfinished, fun n hn hjudged => ?_⟩
  -- What is judged after the tick was marked by the sweep, which marks only what has left
  rw [(tick_of_finishing rfl rfl hfinished).2, (finish_sameScore _).isJudged, hread,
    hmarks.isJudged] at hjudged
  have hnone : (s.moved c now).keeper.isJudged n.id = false := Keeper.isJudged_fresh ..
  rw [hnone, Bool.false_or, List.any_eq_true] at hjudged
  obtain ⟨h, hh, hsame⟩ := hjudged
  obtain ⟨m, hm, rfl⟩ := List.mem_map.mp hh
  have hleft := (List.mem_filter.mp hm).1
  have hmem : m ∈ (s.moved c now).notes :=
    List.mem_of_mem_drop ((List.takeWhile_sublist _).subset hleft)
  have hnm : n = m := hmoved.eq_of_sameId hn hmem hsame
  rw [hnm]
  exact List.mem_takeWhile_imp hleft

/-- **No note escapes judgment just if the song outlasts its notes.** Under rules that compute
scores, whatever a run did before: every tick that finishes a song leaves each of its notes judged
just once, with the score and the accuracy of all of them, if and only if the song is over only when
all its notes have left the hit window. -/
theorem complete_at_finish_iff (c : Setup F R) (hgains : c.scoring.Gains) (song : Song R)
    (hplays : c.Plays song) :
    (∀ (events : List (R × Event F R)) (now : R),
      (∀ started song', (started, Event.start song') ∈ events → c.Plays song') →
      ((fresh c).run c events).song = some song →
      ((fresh c).run c events).phase ≠ .finished →
      ((fresh c).run c (events ++ [(now, .tick)])).phase = .finished →
      ((fresh c).run c (events ++ [(now, .tick)])).Complete c song) ↔
    song.Outlasts c := by
  have htick : ∀ (events : List (R × Event F R)) (now : R),
      (fresh c).run c (events ++ [(now, .tick)]) = (((fresh c).run c events).tick c now).2 :=
    fun events now => run_append ..
  constructor
  · -- A song that is over too early is so at the first tick after its start
    intro hcomplete anchor now hover n hn
    obtain ⟨hfinished, hleft⟩ := first_tick_of_over hgains hplays hover
    refine hleft n hn ?_
    -- So the tick is one of a run to which the assumption applies
    have hstarted : ∀ started song',
        ((started, .start song') : R × Event F R) ∈ [(anchor, .start song)] → c.Plays song' := by
      intro started song' hmem
      cases List.mem_singleton.mp hmem
      exact hplays
    have hall := hcomplete [(anchor, .start song)] now hstarted rfl nofun hfinished
    have hsound := (sound_run hgains hstarted).tick hgains now
    exact (hsound.complete_iff (song_tick ..)).mp hall n hn
  · intro houtlasts events now hstarted hsong hgoing hfinished
    have hs := sound_run hgains hstarted
    rw [htick] at hfinished ⊢
    generalize (fresh c).run c events = s at hs hsong hgoing hfinished
    -- Only the tick of an active session finishes it
    have hactive : s.phase.isActive = true := by
      by_contra hidle
      rw [tick_of_idle now (.inl (by simpa using hidle))] at hfinished
      exact hgoing hfinished
    have hover := (tick_of_finishing hactive hsong hfinished).1
    have hall := hs.judged_of_finishing hgains hactive hsong hfinished
      (houtlasts s.anchor now hover)
    exact ((hs.tick hgains now).complete_iff ((song_tick c now s).trans hsong)).mpr hall

/-- A single note in a song of three seconds: it is swept, and the song is complete at its end. -/
theorem complete_of_sole_note :
    let c : Setup Float Float :=
      soleSetup (usualSettings (by decide) (by decide)) .usual (by decide)
    let song : Song Float := songOf
      [soleNote "a" 1 (by decide) (by decide)] (.num 3) (by decide)
    c.scoring.Gains ∧ c.Plays song ∧ song.Outlasts c ∧
      ((fresh c).run c ([(0, .start song)] ++ [(3.5, .tick)])).Complete c song := by
  intro c song
  have hplays : c.Plays song := by
    refine ⟨fun n hn => ?_, List.pairwise_singleton _ _, Scoring.reaches_one_usual⟩
    obtain rfl := List.mem_singleton.mp hn
    rfl
  have houtlasts : song.Outlasts c := by
    refine Song.outlasts_of_lt (d := 3) rfl fun n hn => ?_
    obtain rfl := List.mem_singleton.mp hn
    decide +kernel
  refine ⟨Scoring.gains_usual, hplays, houtlasts, ?_⟩
  refine (complete_at_finish_iff c Scoring.gains_usual song hplays).mpr houtlasts
    [(0, .start song)] 3.5 (fun started song' hmem => ?_) rfl nofun (by decide +kernel)
  cases List.mem_singleton.mp hmem
  exact hplays

/-- Songs that finish with a note that was never judged: one whose given duration ends before its
note, and one that ends while its note is still in a wide hit window. And a note that is swept under
rules whose points are no machine numbers, which no counter counts. -/
theorem note_escapes_judgment :
    let settings : Settings Float Float := usualSettings (by decide) (by decide)
    let patient : Settings Float Float := { settings with
      hitWindow := 5000, hitWindow_pos := by decide }
    let c := soleSetup settings .usual (by decide)
    let wide := soleSetup patient .usual (by decide)
    let huge := soleSetup settings ⟨⟨100, 75, 50, 10 ^ 309⟩, [], by simp⟩ (by decide)
    let song (duration : Value Float) : Song Float := songOf
      [soleNote "a" 1 (by decide) (by decide)] duration (by decide)
    let short := song (.num 0.5)
    let usual := song (.num (Song.durationOf (song .null).notes))
    let early := (fresh c).run c [(0, .start short), (0.6, .tick)]
    let patient := (fresh wide).run wide [(0, .start usual), (4.5, .tick)]
    let uncounted := (fresh huge).run huge [(0, .start usual), (4.5, .tick), (4.5, .tick)]
    (early.phase = .finished ∧ early.keeper.score.judged = 0) ∧
      (patient.phase = .finished ∧ patient.keeper.score.judged = 0) ∧
      (uncounted.phase = .finished ∧ uncounted.keeper.score.judged = 0) := by
  decide +kernel

end Session

end Lamella
