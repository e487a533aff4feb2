import Lamella.Proofs.Order.Sorted
import Lamella.Proofs.Scalar.Orderly
import Lamella.Proofs.Session.Finishing

/-!
# The tests of a note's time

Three expressions tell how a note lies to the time that is heard now. The hit zone looks up both
ends of the window in the row of times, a sweep compares how late a note is with the window in
seconds, and the tier of a hit compares it in milliseconds. In exact numbers they draw one line;
rounded, each draws its own, and a note between two of them is judged twice or not at all.

## Main definitions

- `Song.InOrder`: songs whose notes are in the order of their times.
- `Session.TestsAgree`: the tests agree on a note.
- `Session.EdgesMeet`: what they draw as the edges of the window is the same for a time.

## Main statements

- `Session.Sound.tests_agree_iff`: the tests agree on a note just if the edges meet there.
- `Session.edgesMeet_of_exact`: in exact numbers the edges meet everywhere.
-/

namespace Lamella

/-- A song whose notes are in the order of their times. -/
def Song.InOrder {R : Type} [Scalar R] (song : Song R) : Prop :=
  song.notes.Pairwise fun m n => m.time ≤ n.time

namespace Session

variable {F R : Type} [Analytic F] [Scalar R] [Scalar.Orderly R] {c : Setup F R}
  {s : Session F R}

/-! ## §1 The hit zone -/

omit [Analytic F] in
/-- The notes between two times, found by halving, are those that lie between them. -/
theorem unjudgedBetween_eq (horder : s.notes.Pairwise fun m n => m.time ≤ n.time) (low high : R) :
    s.unjudgedBetween low high =
      (s.notes.filter fun n => !decide (n.time < low) && !decide (high < n.time)).filter
        fun n => !s.keeper.isJudged n.id := by
  -- In the order of times both tests of the search hold of a front part
  have hbelow : s.notes.Pairwise fun m n =>
      decide (n.time < low) = true → decide (m.time < low) = true := by
    refine horder.imp fun {m n} hmn h => decide_eq_true ?_
    exact Scalar.Orderly.lt_of_le_of_lt hmn (of_decide_eq_true h)
  have habove : s.notes.Pairwise fun m n =>
      (!decide (high < n.time)) = true → (!decide (high < m.time)) = true := by
    refine horder.imp fun {m n} hmn h => ?_
    simp only [Bool.not_eq_true', decide_eq_false_iff_not] at h ⊢
    exact fun hm => h (Scalar.Orderly.lt_of_lt_of_le hm hmn)
  rw [← Order.slice_eq_filter hbelow habove]
  unfold unjudgedBetween Order.firstAtLeast Order.firstAbove
  dsimp only
  rw [Order.partitionPoint_map, Order.partitionPoint_map]
  rfl

omit [Analytic F] in
theorem mem_unjudgedBetween (horder : s.notes.Pairwise fun m n => m.time ≤ n.time) {low high : R}
    {n : Note R} : n ∈ s.unjudgedBetween low high ↔
      n ∈ s.notes ∧ ¬ n.time < low ∧ ¬ high < n.time ∧ s.keeper.isJudged n.id = false := by
  rw [unjudgedBetween_eq horder, List.mem_filter, List.mem_filter]
  simp [and_assoc]

/-! ## §2 What a sweep would mark -/

/-- A sweep would mark a note as missed. -/
def WouldMiss (c : Setup F R) (s : Session F R) (n : Note R) : Prop :=
  ∃ hits, (s.sweep c).1 = .ok hits ∧ missed (s.inputTime c) n ∈ hits

/-- A sweep would mark the notes that were not judged and whose lateness exceeds the window. -/
theorem wouldMiss_iff (hs : s.Sound c) (hgains : c.scoring.Gains) (hopen : s.keeper.frozen = false)
    (horder : s.notes.Pairwise fun m n => m.time ≤ n.time) {n : Note R} (hn : n ∈ s.notes)
    (hnew : s.keeper.isJudged n.id = false) :
    s.WouldMiss c n ↔ c.settings.hitSeconds < s.inputTime c - n.time := by
  obtain ⟨-, hreturns, -⟩ := sweep_eq hs hgains hopen
  set left := leaving c (s.inputTime c) (s.notes.drop s.missIndex) with hleft
  -- What is later than a note that has not left has not left either
  have hfront : (s.notes.drop s.missIndex).Pairwise fun m n =>
      hasLeft c (s.inputTime c) n = true → hasLeft c (s.inputTime c) m = true := by
    refine (horder.sublist (List.drop_sublist _ _)).imp fun {m n} hmn h => decide_eq_true ?_
    have hlate : c.settings.hitSeconds < s.inputTime c - n.time := of_decide_eq_true h
    exact Scalar.lt_sub_of_le hlate (Scalar.Orderly.le_refl_of_lt_sub hlate).1 hmn
  -- A note that was not judged lies behind the cursor
  have hbehind : n ∈ s.notes.drop s.missIndex := by
    rw [← List.take_append_drop s.missIndex s.notes] at hn
    rcases List.mem_append.mp hn with hbefore | hbehind
    · exact absurd (hnew.symm.trans (hs.swept hopen n hbefore)) nofun
    · exact hbehind
  have hmem : n ∈ left ↔ c.settings.hitSeconds < s.inputTime c - n.time := by
    rw [hleft, leaving, Order.takeWhile_eq_filter hfront, List.mem_filter, hasLeft,
      decide_eq_true_iff]
    exact ⟨fun h => h.2, fun h => ⟨hbehind, h⟩⟩
  rw [← hmem]
  constructor
  · rintro ⟨hits, hhits, hmiss⟩
    obtain rfl := Except.ok.inj (hreturns.symm.trans hhits)
    -- A miss of the same id is a miss of the same note
    obtain ⟨m, hm, hsame⟩ := List.mem_map.mp hmiss
    have hmleft := List.mem_of_mem_filter hm
    have hid : m.id = n.id := congrArg Hit.note hsame
    have hmmem : m ∈ s.notes := List.mem_of_mem_drop ((List.takeWhile_sublist _).subset hmleft)
    have hmn : m = n := hs.eq_of_sameId hmmem hn (by
      rw [hid, Song.sameId_self]
      exact hs.identifying n hn)
    exact hmn ▸ hmleft
  · intro hn'
    refine ⟨_, hreturns, List.mem_map.mpr ⟨n, List.mem_filter.mpr ⟨hn', ?_⟩, rfl⟩⟩
    simp [hnew]

/-! ## §3 What hits are no misses -/

/-- A hit is no miss just if its distance from the note is within the whole window, since the
windows of the better tiers lie within it. -/
theorem classify_ne_miss_iff (w : Windows R) (delta : R) :
    w.classify delta ≠ .miss ↔ Scalar.abs delta ≤ w.hit := by
  -- The windows of the better tiers are parts of the whole one, rounded or not
  obtain ⟨hperfect, hnested, hgood⟩ := w.nested
  have hnested' : w.perfect ≤ Scalar.ofInt 1 := Scalar.Orderly.le_trans hnested hgood
  unfold Windows.classify
  dsimp only
  split_ifs with h1 h2 h3
  · exact ⟨fun _ => Scalar.Orderly.le_of_le_mul w.hit_pos hnested' h1, fun _ => nofun⟩
  · exact ⟨fun _ => Scalar.Orderly.le_of_le_mul w.hit_pos hgood h2, fun _ => nofun⟩
  · exact ⟨fun _ => h3, fun _ => nofun⟩
  · exact ⟨fun h => absurd rfl h, fun h => absurd h h3⟩

omit [Analytic F] [Scalar.Orderly R] in
/-- Each mark goes on with the combo or ends it. -/
theorem Marks.combo_eq {t : Session F R} {xs : List (Hit F R)} (h : s.Marks xs t) :
    t.keeper.score.combo =
      xs.foldl (fun combo hit => if hit.tier.isHit then combo + 1 else 0) s.keeper.score.combo := by
  induction h with
  | none => rfl
  | reading _ _ _ ih => exact ih
  | @mark hits t hit points percent _ _ _ _ _ ih =>
    have hcombo : (t.keeper.apply hit.note hit.tier points percent).score.combo =
        (t.keeper.score.advance hit.tier).combo := by
      cases hit.tier <;> rfl
    rw [List.foldl_append, List.foldl_cons, List.foldl_nil, ← ih]
    show (t.keeper.apply hit.note hit.tier points percent).score.combo = _
    rw [hcombo]
    unfold Score.advance
    split <;> rfl

/-! ## §4 Where the edges of the window meet -/

/-- The tests agree on a note: it is either in the hit zone, or a sweep would miss it, or it is
still ahead, and it is in the hit zone just if a hit of it is no miss. -/
def TestsAgree (c : Setup F R) (s : Session F R) (n : Note R) : Prop :=
  let ahead := s.inputTime c + c.settings.hitSeconds < n.time
  ((n ∈ s.hitZone c ∧ ¬ s.WouldMiss c n ∧ ¬ ahead) ∨
    (n ∉ s.hitZone c ∧ s.WouldMiss c n ∧ ¬ ahead) ∨
    (n ∉ s.hitZone c ∧ ¬ s.WouldMiss c n ∧ ahead)) ∧
  (n ∈ s.hitZone c ↔ c.windows.classify ((s.inputTime c - n.time) * 1000.0) ≠ .miss)

/-- Behind the hit zone begins what a sweep would miss: of the times that are not ahead, those
before the window are those that are late by more than the window. -/
def MeetsSweep (c : Setup F R) (now time : R) : Prop :=
  now + c.settings.hitSeconds < time ∨
    (time < now - c.settings.hitSeconds ↔ c.settings.hitSeconds < now - time)

/-- The hit zone is where hits are no misses: the times in the window are those that are off by no
more milliseconds than the window has. -/
def MeetsTiers (c : Setup F R) (now time : R) : Prop :=
  (¬ time < now - c.settings.hitSeconds ∧ ¬ now + c.settings.hitSeconds < time) ↔
    Scalar.abs ((now - time) * 1000.0) ≤ c.windows.hit

/-- The edges of the window meet at a time, those of the sweep and those of the tiers. -/
structure EdgesMeet (c : Setup F R) (now time : R) : Prop where
  sweep : MeetsSweep c now time
  tiers : MeetsTiers c now time

/-- The tests of a sound session agree on a note just if the edges of the window meet at its time.
-/
theorem Sound.tests_agree_iff (hs : s.Sound c) (hgains : c.scoring.Gains)
    (hopen : s.keeper.frozen = false) (horder : s.notes.Pairwise fun m n => m.time ≤ n.time)
    {n : Note R} (hn : n ∈ s.notes) (hnew : s.keeper.isJudged n.id = false) :
    s.TestsAgree c n ↔ EdgesMeet c (s.inputTime c) n.time := by
  -- Each of the tests is a comparison of the note's time
  have hzone : n ∈ s.hitZone c ↔ ¬ n.time < s.inputTime c - c.settings.hitSeconds ∧
      ¬ s.inputTime c + c.settings.hitSeconds < n.time := by
    unfold hitZone
    dsimp only
    rw [mem_unjudgedBetween horder]
    exact ⟨fun h => ⟨h.2.1, h.2.2.1⟩, fun h => ⟨hn, h.1, h.2, hnew⟩⟩
  have hmiss := wouldMiss_iff hs hgains hopen horder hn hnew
  have hstruck := classify_ne_miss_iff c.windows ((s.inputTime c - n.time) * 1000.0)
  -- A note that is ahead is not late
  have hahead : s.inputTime c + c.settings.hitSeconds < n.time →
      ¬ c.settings.hitSeconds < s.inputTime c - n.time :=
    Scalar.Orderly.not_lt_sub_of_add_lt (Scalar.Orderly.not_milli_neg c.settings.hitWindow_pos)
  -- The three places exclude each other and leave none out just if the sweep meets the zone
  have hone : ((n ∈ s.hitZone c ∧ ¬ s.WouldMiss c n ∧
        ¬ s.inputTime c + c.settings.hitSeconds < n.time) ∨
      (n ∉ s.hitZone c ∧ s.WouldMiss c n ∧ ¬ s.inputTime c + c.settings.hitSeconds < n.time) ∨
      (n ∉ s.hitZone c ∧ ¬ s.WouldMiss c n ∧ s.inputTime c + c.settings.hitSeconds < n.time)) ↔
      MeetsSweep c (s.inputTime c) n.time := by
    rw [hzone, hmiss, MeetsSweep]
    by_cases hnext : s.inputTime c + c.settings.hitSeconds < n.time
    · simp [hnext, hahead hnext]
    · by_cases hbefore : n.time < s.inputTime c - c.settings.hitSeconds <;> simp [hnext, hbefore]
  unfold TestsAgree
  dsimp only
  rw [hone, hzone, hstruck]
  exact ⟨fun h => ⟨h.1, h.2⟩, fun h => ⟨h.sweep, h.tiers⟩⟩

/-! ## §5 What judging returns -/

omit [Scalar.Orderly R] in
/-- What judging returns was found in the hit zone of an active session. -/
theorem firstHit_of_judge {pitch : HeardPitch F} {hit : Hit F R}
    (hjudge : (s.judge c pitch).1 = .ok (some hit)) :
    firstHit c (s.inputTime c) pitch (s.hitZone c) = .ok (some hit) := by
  unfold judge at hjudge
  split at hjudge
  · cases hjudge
  · split at hjudge
    · cases hjudge
    · cases hjudge
    · rename_i found hfound
      split at hjudge
      · cases hjudge
      · cases hjudge
        exact hfound

/-- A hit that judging returns is of a note in the hit zone. It is a miss, which ends the combo,
just if the edges of the tiers do not meet those of the zone there; else it goes on with the combo.
-/
theorem Sound.judge_returns (hs : s.Sound c) (hgains : c.scoring.Gains)
    (horder : s.notes.Pairwise fun m n => m.time ≤ n.time) {pitch : HeardPitch F} {hit : Hit F R}
    (hjudge : (s.judge c pitch).1 = .ok (some hit)) :
    ∃ n ∈ s.hitZone c, n.id = hit.note ∧
      (hit.tier = .miss ↔ ¬ MeetsTiers c (s.inputTime c) n.time) ∧
      (s.judge c pitch).2.keeper.score.combo =
        if hit.tier = .miss then 0 else s.keeper.score.combo + 1 := by
  obtain ⟨n, hn, cents, hit_eq⟩ := firstHit_eq_some (firstHit_of_judge hjudge)
  refine ⟨n, hn, by rw [hit_eq], ?_, ?_⟩
  · have hstruck := classify_ne_miss_iff c.windows ((s.inputTime c - n.time) * 1000.0)
    obtain ⟨-, hnotbefore, hnotahead, -⟩ := (mem_unjudgedBetween horder).mp hn
    unfold MeetsTiers
    rw [hit_eq, ← hstruck]
    simp [hnotbefore, hnotahead]
  · obtain ⟨hits, hmarks, hreturns⟩ := judge_marks hs.inStep (hs.computes hgains)
      (fun hactive => (hs.steady.of_active hactive).2) c pitch
    -- What was returned is the only mark
    have hhits : hits = [hit] := by
      rcases hreturns with ⟨fault, hfault, -⟩ | ⟨found, hfound, hhits⟩
      · exact absurd (hfault.symm.trans hjudge) nofun
      · obtain rfl := Except.ok.inj (hfound.symm.trans hjudge)
        exact hhits
    rw [hmarks.combo_eq, hhits, List.foldl_cons, List.foldl_nil]
    cases hit.tier <;> simp [Tier.isHit]

omit [Scalar.Orderly R] in
/-- Songs in the order of their times keep the notes of a session in that order. -/
theorem inOrder_of_run {events : List (R × Event F R)}
    (horder : ∀ now song, (now, Event.start song) ∈ events → song.InOrder) :
    ((fresh c).run c events).notes.Pairwise fun m n => m.time ≤ n.time := by
  rcases ((fresh c).run c events).notes_cases with hnone | ⟨song, hsong, hnotes⟩
  · simp [hnone]
  · rw [hnotes]
    obtain ⟨now, hmem⟩ := song_of_run c events hsong
    exact horder now song hmem

/-- **The tests of a note's time agree just where the edges of the window meet.** In every session
that a run reaches and that is not finished, whatever the clock did: each note that was not judged
is either in the hit zone or would be swept or is ahead, and in the hit zone just if hitting it is
no miss, if and only if the edges meet at its time. And a hit that judging returns is a miss, which
ends the combo, just if its note is one in the hit zone at which the edges of the tiers do not meet.
-/
theorem timing_tests_agree_iff (c : Setup F R) (hgains : c.scoring.Gains)
    (events : List (R × Event F R))
    (hstarted : ∀ now song, (now, Event.start song) ∈ events → c.Plays song ∧ song.InOrder)
    (hgoing : ((fresh c).run c events).phase ≠ .finished) :
    let s := (fresh c).run c events
    (∀ n ∈ s.notes, s.keeper.isJudged n.id = false →
      (s.TestsAgree c n ↔ EdgesMeet c (s.inputTime c) n.time)) ∧
    ∀ pitch hit, (s.judge c pitch).1 = .ok (some hit) →
      ∃ n ∈ s.hitZone c, n.id = hit.note ∧
        (hit.tier = .miss ↔ ¬ MeetsTiers c (s.inputTime c) n.time) ∧
        (s.judge c pitch).2.keeper.score.combo =
          if hit.tier = .miss then 0 else s.keeper.score.combo + 1 := by
  intro s
  have hs : s.Sound c := sound_run hgains fun now song hmem => (hstarted now song hmem).1
  have horder := inOrder_of_run (c := c) fun now song hmem => (hstarted now song hmem).2
  have hopen : s.keeper.frozen = false :=
    Bool.eq_false_iff.mpr fun hfrozen => hgoing (hs.steady.frozen_iff.mp hfrozen)
  exact ⟨fun n hn hnew => hs.tests_agree_iff hgains hopen horder hn hnew,
    fun pitch hit hjudge => hs.judge_returns hgains horder hjudge⟩

/-- A single note, heard a little early, on which the tests agree. -/
theorem timing_tests_agree_on_sole_note :
    let c : Setup Float Float :=
      soleSetup (usualSettings (by decide) (by decide)) .usual (by decide)
    let n := soleNote "a" 0.25 (by decide) (by decide)
    let song : Song Float := songOf [n] (.num 3) (by decide)
    let s := (fresh c).run c [(0, .start song), (0.125, .tick)]
    c.scoring.Gains ∧ c.Plays song ∧ song.InOrder ∧ s.phase ≠ .finished ∧
      s.keeper.isJudged n.id = false ∧ s.TestsAgree c n := by
  intro c n song s
  have hplays : c.Plays song := by
    refine ⟨fun m hm => ?_, List.pairwise_singleton _ _, Scoring.reaches_one_usual⟩
    obtain rfl := List.mem_singleton.mp hm
    rfl
  have horder : song.InOrder := List.pairwise_singleton _ _
  have hgoing : s.phase ≠ .finished := by decide +kernel
  have hnew : s.keeper.isJudged n.id = false := by decide +kernel
  have hstarted : ∀ started song',
      ((started, .start song') : Float × Event Float Float) ∈ [(0, .start song), (0.125, .tick)] →
        c.Plays song' ∧ song'.InOrder := by
    intro started song' hmem
    rcases List.mem_cons.mp hmem with hfirst | hlast
    · cases hfirst
      exact ⟨hplays, horder⟩
    · cases List.mem_singleton.mp hlast
  have hmeet : EdgesMeet c (s.inputTime c) n.time := by
    constructor
    · unfold MeetsSweep
      decide +kernel
    · unfold MeetsTiers
      decide +kernel
  have htests := timing_tests_agree_iff c Scoring.gains_usual
    [(0, .start song), (0.125, .tick)] hstarted hgoing
  -- The note is that of the started song
  have hsong : s.song = some song := song_tick c 0.125 ((fresh c).start c 0 song)
  have hn : n ∈ s.notes := by
    rw [notes_of_song hsong]
    exact List.mem_cons_self
  exact ⟨Scoring.gains_usual, hplays, horder, hgoing, hnew, (htests.1 n hn hnew).mpr hmeet⟩

/-- Machine numbers at the edge of a window of 150 milliseconds, where the tests disagree. A note at
0.01 that is heard at 0.16 is in none of the three places, and one at 0.2 that is heard at 0.05 is
in the hit zone, where hitting it is a miss. A note at 0.25 is, at 0.4, in the hit zone and late
enough to be missed, and hitting it is a miss. -/
theorem timing_tests_disagree :
    let c : Setup Float Float :=
      soleSetup (usualSettings (by decide) (by decide)) .usual (by decide)
    let song (time : Float) (h : ¬ time < Scalar.ofInt 0) : Song Float :=
      songOf [soleNote "a" time h (by decide)] (.num 3) (by decide)
    let heard (time now : Float) (h : ¬ time < Scalar.ofInt 0) :=
      (fresh c).run c [(0, .start (song time h)), (now, .tick)]
    let lost := heard 0.01 0.16 (by decide)
    let early := heard 0.2 0.05 (by decide)
    let late := { c with leadIn := -0.4 }
    let passed := (fresh late).run late [(0, .start (song 0.25 (by decide)))]
    (lost.hitZone c = [] ∧ (lost.sweep c).1.toOption.map List.length = some 0 ∧
        lost.keeper.isJudged (.str "a") = false ∧
        ¬ lost.inputTime c + c.settings.hitSeconds < 0.01) ∧
      ((early.hitZone c).length = 1 ∧
        c.windows.classify ((early.inputTime c - 0.2) * 1000.0) = .miss) ∧
      ((passed.hitZone late).length = 1 ∧
        (passed.sweep late).1.toOption.map List.length = some 1 ∧
        late.windows.classify ((passed.inputTime late - 0.25) * 1000.0) = .miss) := by
  decide +kernel

/-! ## §6 Exact numbers -/

/-- **In exact numbers the edges meet everywhere**, so that the tests agree on every note. -/
theorem edgesMeet_of_exact {c : Setup F Rat} (hwindows : c.windows.hit = c.settings.hitWindow)
    (now time : Rat) : EdgesMeet c now time := by
  have hseconds : c.settings.hitSeconds = c.settings.hitWindow / 1000 := by
    show c.settings.hitWindow / (1000.0 : Rat) = _
    norm_num
  have hthousand : (1000.0 : Rat) = 1000 := by norm_num
  constructor
  · right
    constructor <;> intro h <;> linarith
  · unfold MeetsTiers
    rw [Scalar.abs_rat, abs_le, hwindows, hseconds, hthousand]
    constructor
    · rintro ⟨hnotbefore, hnotahead⟩
      constructor <;> linarith
    · rintro ⟨hearly, hlate⟩
      constructor <;> linarith

end Session

end Lamella
