import Lamella.Proofs.Scalar.Octaves
import Lamella.Proofs.Session.Returning
import Lamella.Proofs.Session.Swept

/-!
# What a linear scan would find

The notes that matter at a time are cut out of the row of times by halving, and an estimate is then
compared with those that are left, one after the other. As long as the notes lie in order, that comes
to the same as going through all notes of the song and testing each of them.

An estimate takes the first note from whose key it is not farther away than the tolerance. That is
the first within the tolerance only where tolerance and distance can be compared at all: a tolerance
that is no number lets every key pass.

## Main definitions

- `Setup.Compares`: the tolerance compares with the distance of an estimate from each key.
- `Session.Within`: an estimate is so many cents away from the key of a note, within the tolerance.
- `Session.Strikes`: the test of a note in a linear scan.
- `Session.Strike`: the hit of a note, and what is left of the session.

## Main statements

- `Session.hitZone_scan`, `Session.visible_scan`: the slices are scans.
- `Session.firstHit_append`: notes that are not hit are gone over.
- `Session.bisection_is_scan`: sessions find what a linear scan would.
-/

namespace Lamella

/-- The tolerance compares with the distance of an estimate from each key, which can be computed. -/
def Setup.Compares {F R : Type} [Analytic F] [Scalar R] (c : Setup F R) (pitch : HeardPitch F) :
    Prop :=
  ∀ k ∈ c.layout.keys, ∃ cents, Pitch.cents pitch.frequency k.frequency = .ok cents ∧
    (c.settings.tolerance < Scalar.abs cents ∨ Scalar.abs cents ≤ c.settings.tolerance)

namespace Session

/-! ## §1 Slices in exact times -/

section Slices

variable {F : Type} [Analytic F] {c : Setup F Rat} {s : Session F Rat}

omit [Analytic F] in
/-- The notes between two times that were not judged, as a scan finds them. -/
theorem unjudgedBetween_scan (horder : s.notes.Pairwise fun m n => m.time ≤ n.time) (low high : Rat) :
    s.unjudgedBetween low high = s.notes.filter fun n =>
      !s.keeper.isJudged n.id && decide (low ≤ n.time ∧ n.time ≤ high) := by
  rw [unjudgedBetween_eq horder, List.filter_filter]
  refine List.filter_congr fun n _ => ?_
  simp only [← decide_not, not_lt, ← Bool.decide_and]

/-- **The hit zone is a scan** for the notes that are near enough in time. -/
theorem hitZone_scan (horder : s.notes.Pairwise fun m n => m.time ≤ n.time) :
    s.hitZone c = s.notes.filter fun n =>
      !s.keeper.isJudged n.id && decide (|n.time - s.inputTime c| ≤ c.settings.hitSeconds) := by
  unfold hitZone
  rw [unjudgedBetween_scan horder]
  refine List.filter_congr fun n _ => ?_
  have hnear : (s.inputTime c - c.settings.hitSeconds ≤ n.time ∧
      n.time ≤ s.inputTime c + c.settings.hitSeconds) ↔
      |n.time - s.inputTime c| ≤ c.settings.hitSeconds := by
    rw [abs_le]
    constructor <;> intro h <;> constructor <;> linarith [h.1, h.2]
  rw [decide_eq_decide.mpr hnear]

/-- **What is in sight is a scan** too. -/
theorem visible_scan (horder : s.notes.Pairwise fun m n => m.time ≤ n.time) :
    s.visible c = s.notes.filter fun n => !s.keeper.isJudged n.id &&
      decide (s.progress - 1 / 2 ≤ n.time ∧ n.time ≤ s.progress + c.settings.lookahead) := by
  have htail : (visibleTail : Rat) = 1 / 2 := by norm_num [visibleTail]
  rw [← htail]
  exact unjudgedBetween_scan horder _ _

end Slices

/-! ## §2 Trying notes -/

section Trying

variable {F R : Type} [Analytic F] [Scalar R] {c : Setup F R} {s : Session F R}
  {pitch : HeardPitch F} {n : Note R} {now : R} {cents : F}

/-- An estimate lies so many cents above the key of a note, which is on the layout, and that is
within the tolerance. -/
def Within (c : Setup F R) (pitch : HeardPitch F) (n : Note R) (cents : F) : Prop :=
  c.layout.has n.key ∧ ∃ k, c.layout.get n.key = .ok k ∧
    Pitch.cents pitch.frequency k.frequency = .ok cents ∧ Scalar.abs cents ≤ c.settings.tolerance

/-- The judgment of a note that an estimate hits. -/
def hitOf (c : Setup F R) (now : R) (n : Note R) (cents : F) : Hit F R :=
  ⟨n.id, c.windows.classify ((now - n.time) * 1000.0), (now - n.time) * 1000.0, n.key, cents⟩

/-- A note is tried by its distance, if that compares with the tolerance. -/
theorem centsWithin_spec [Scalar.Orderly F] (hcompares : c.Compares pitch) (hkey : 0 ≤ n.key) :
    (∃ cents, Within c pitch n cents ∧ centsWithin c pitch n = .ok (some cents)) ∨
      (∀ cents, ¬ Within c pitch n cents) ∧ centsWithin c pitch n = .ok none := by
  cases hbeyond : c.layout.isBeyond n.key with
  | true =>
    refine .inr ⟨fun cents hwithin => ?_, centsWithin_of_beyond hbeyond⟩
    have hend : (c.layout.size : Int) ≤ n.key := of_decide_eq_true hbeyond
    exact absurd hwithin.1.2 (by omega)
  | false =>
    have hhas : c.layout.has n.key := ⟨hkey, not_le.mp (of_decide_eq_false hbeyond)⟩
    obtain ⟨k, hk, hget⟩ := Layout.exists_get hbeyond (by omega : -(c.layout.size : Int) ≤ n.key)
    obtain ⟨cents, hcents, hcompare⟩ := hcompares k hk
    have htried : centsWithin c pitch n =
        .ok (if c.settings.tolerance < Scalar.abs cents then none else some cents) := by
      rw [centsWithin_of_not hbeyond, hget]
      show (Pitch.cents pitch.frequency k.frequency >>= _) = _
      rw [hcents]
      rfl
    rw [htried]
    rcases hcompare with hfar | hnear
    · refine .inr ⟨fun other hwithin => ?_, by rw [if_pos hfar]⟩
      -- A key is at one distance only
      obtain ⟨-, k', hget', hcents', hnear⟩ := hwithin
      obtain rfl := Except.ok.inj (hget.symm.trans hget')
      obtain rfl := Except.ok.inj (hcents.symm.trans hcents')
      exact Scalar.Orderly.not_lt_of_le hnear hfar
    · exact .inl ⟨cents, ⟨hhas, k, hget, hcents, hnear⟩,
        by rw [if_neg (Scalar.Orderly.not_lt_of_le hnear)]⟩

theorem firstHit_of_none {notes : List (Note R)} (hcents : centsWithin c pitch n = .ok none) :
    firstHit c now pitch (n :: notes) = firstHit c now pitch notes := by
  rw [firstHit, hcents]
  rfl

theorem firstHit_of_some {notes : List (Note R)} (hcents : centsWithin c pitch n = .ok (some cents)) :
    firstHit c now pitch (n :: notes) = .ok (some (hitOf c now n cents)) := by
  rw [firstHit, hcents]
  rfl

/-- **Notes that are not hit are gone over** on the way to the first one that is. -/
theorem firstHit_append {front : List (Note R)} (hfront : ∀ m ∈ front, centsWithin c pitch m = .ok none)
    (rest : List (Note R)) : firstHit c now pitch (front ++ rest) = firstHit c now pitch rest := by
  induction front with
  | nil => rfl
  | cons m front ih =>
    rw [List.cons_append, firstHit_of_none (hfront m List.mem_cons_self)]
    exact ih fun m' hm' => hfront m' (List.mem_cons_of_mem m hm')

/-! ## §3 Judging -/

theorem judge_of_none (hfirst : firstHit c (s.inputTime c) pitch (s.hitZone c) = .ok none) :
    s.judge c pitch = (.ok none, s) := by
  unfold judge
  rw [hfirst]
  split <;> rfl

theorem judge_of_some {hit : Hit F R} (hactive : s.phase.isActive = true)
    (haccepts : c.matcher.accepts pitch = true)
    (hfirst : firstHit c (s.inputTime c) pitch (s.hitZone c) = .ok (some hit)) :
    s.judge c pitch = ((s.record hit).1.map fun _ => some hit, (s.record hit).2) := by
  unfold judge
  rw [if_neg (by simp [hactive, haccepts]), hfirst]
  dsimp only
  rcases s.record hit with ⟨fault | done, t⟩ <;> rfl

end Trying

/-! ## §4 Scans -/

section Scans

variable {F : Type} [Analytic F] {c : Setup F Rat} {s : Session F Rat} {pitch : HeardPitch F}

/-- The test of a note in a linear scan for an estimate: the note was not judged, is in the hit
window and on the layout, and the estimate is within the tolerance of its key. -/
def Strikes (c : Setup F Rat) (s : Session F Rat) (pitch : HeardPitch F) (n : Note Rat) : Prop :=
  s.keeper.isJudged n.id = false ∧ |n.time - s.inputTime c| ≤ c.settings.hitSeconds ∧
    ∃ cents, Within c pitch n cents

/-- What judging an estimate returns and leaves that hits a note: the hit is that of the note, it is
the last of the hits, and the keeper has applied its judgment. Nothing else has changed, and no other
note is judged. -/
structure Strike (c : Setup F Rat) (s : Session F Rat) (pitch : HeardPitch F) (n : Note Rat)
    (hit : Hit F Rat) (t : Session F Rat) : Prop where
  hit_eq : ∃ cents, Within c pitch n cents ∧ hit = hitOf c (s.inputTime c) n cents
  left : ∃ points percent, t = { s with
    keeper := s.keeper.apply n.id hit.tier points percent
    hits := s.hits ++ [hit] }
  isJudged : ∀ x, t.keeper.isJudged x = (Song.sameId x n.id || s.keeper.isJudged x)

theorem mem_hitZone_scan (horder : s.notes.Pairwise fun m n => m.time ≤ n.time) {n : Note Rat} :
    n ∈ s.hitZone c ↔ n ∈ s.notes ∧ s.keeper.isJudged n.id = false ∧
      |n.time - s.inputTime c| ≤ c.settings.hitSeconds := by
  rw [hitZone_scan horder, List.mem_filter]
  simp

omit [Analytic F] in
/-- Under exact rules the judgment of a note that was not judged is kept. -/
theorem record_exact (hopen : s.keeper.frozen = false) (hit : Hit F Rat)
    (hid : Song.isIdentifying hit.note = true) (hnew : s.keeper.isJudged hit.note = false) :
    ∃ points percent, s.record hit = (.ok (), { s with
      keeper := s.keeper.apply hit.note hit.tier points percent
      hits := s.hits ++ [hit] }) := by
  obtain ⟨points, percent, hregister⟩ :=
    Keeper.register_of_new hopen hid hnew (s.keeper.scoring.computes_rat _) hit.tier
  refine ⟨points, percent, ?_⟩
  unfold record
  rw [hregister]

/-- An estimate that hits a note leaves the strike of it. -/
theorem strike_of_some (hopen : s.keeper.frozen = false) (hactive : s.phase.isActive = true)
    (haccepts : c.matcher.accepts pitch = true) {n : Note Rat}
    (hid : Song.isIdentifying n.id = true) (hnew : s.keeper.isJudged n.id = false) {cents : F}
    (hwithin : Within c pitch n cents) (hfirst : firstHit c (s.inputTime c) pitch (s.hitZone c) =
      .ok (some (hitOf c (s.inputTime c) n cents))) :
    (s.judge c pitch).1 = .ok (some (hitOf c (s.inputTime c) n cents)) ∧
      Strike c s pitch n (hitOf c (s.inputTime c) n cents) (s.judge c pitch).2 := by
  rw [judge_of_some hactive haccepts hfirst]
  obtain ⟨points, percent, hrecord⟩ :=
    record_exact hopen (hitOf c (s.inputTime c) n cents) hid hnew
  rw [hrecord]
  exact ⟨rfl, ⟨cents, hwithin, rfl⟩, ⟨points, percent, rfl⟩, fun x => Keeper.isJudged_apply ..⟩

/-- **Sessions find what a linear scan would.** Take any run that starts songs as they are made, with
exact times and no key below zero, and let it end in an active session. The hit zone is, in the order
of the song, just the notes that were not judged and are near enough in time; and what is in sight
are just those that were not judged and lie between the tail and the lookahead. An estimate that
passes the gate, and whose distances compare with the tolerance, hits the first note of the song that
a scan takes, and changes nothing but its judgment; if there is none, nothing is returned and nothing
changes. -/
theorem bisection_is_scan [Scalar.Orderly F] (c : Setup F Rat) (events : List (Rat × Event F Rat))
    (hmade : ∀ now song, (now, Event.start song) ∈ events →
      song.Made ∧ ∀ n ∈ song.notes, 0 ≤ n.key)
    (hactive : ((fresh c).run c events).phase.isActive = true) :
    let s := (fresh c).run c events
    (s.hitZone c = s.notes.filter fun n => !s.keeper.isJudged n.id &&
      decide (|n.time - s.inputTime c| ≤ c.settings.hitSeconds)) ∧
    (s.visible c = s.notes.filter fun n => !s.keeper.isJudged n.id &&
      decide (s.progress - 1 / 2 ≤ n.time ∧ n.time ≤ s.progress + c.settings.lookahead)) ∧
    ∀ pitch, c.matcher.accepts pitch = true → c.Compares pitch →
      (∀ front n back, s.notes = front ++ n :: back → Strikes c s pitch n →
        (∀ m ∈ front, ¬ Strikes c s pitch m) →
        ∃ hit, (s.judge c pitch).1 = .ok (some hit) ∧ Strike c s pitch n hit (s.judge c pitch).2) ∧
      ((∀ n ∈ s.notes, ¬ Strikes c s pitch n) → s.judge c pitch = (.ok none, s)) := by
  intro s
  have horder : s.notes.Pairwise fun m n => m.time ≤ n.time :=
    inOrder_of_run fun now song hmem => (hmade now song hmem).1.inOrder
  have hs : s.Covered := covered_run fun now song hmem => (hmade now song hmem).1.identifying
  have hopen : s.keeper.frozen = false := ((steady_run c events).of_active hactive).2
  have hkeys : ∀ n ∈ s.notes, 0 ≤ n.key := by
    obtain ⟨song, hsong⟩ := Option.ne_none_iff_exists'.mp ((steady_run c events).of_active hactive).1
    obtain ⟨now, hmem⟩ := song_of_run c events hsong
    rw [notes_of_song hsong]
    exact (hmade now song hmem).2
  refine ⟨hitZone_scan horder, visible_scan horder, fun pitch haccepts hcompares => ?_⟩
  have htried : ∀ n ∈ s.hitZone c, ¬ Strikes c s pitch n → centsWithin c pitch n = .ok none := by
    intro n hn hnot
    obtain ⟨hmem, hnew, hnear⟩ := (mem_hitZone_scan horder).mp hn
    rcases centsWithin_spec hcompares (hkeys n hmem) with ⟨cents, hwithin, -⟩ | ⟨-, hnone⟩
    · exact absurd ⟨hnew, hnear, cents, hwithin⟩ hnot
    · exact hnone
  refine ⟨fun front n back hnotes hstrikes hfront => ?_, fun hnone => ?_⟩
  · -- The first note that the scan takes is the first of the hit zone that is tried with success
    have hmem : n ∈ s.notes := by simp [hnotes]
    obtain ⟨front', back', hzone, hsub⟩ : ∃ front' back',
        s.hitZone c = front' ++ n :: back' ∧ ∀ m ∈ front', m ∈ front := by
      rw [hitZone_scan horder, hnotes, List.filter_append,
        List.filter_cons_of_pos (by simp [hstrikes.1, hstrikes.2.1])]
      exact ⟨_, _, rfl, fun m hm => (List.mem_filter.mp hm).1⟩
    obtain ⟨cents, hwithin, hcents⟩ : ∃ cents, Within c pitch n cents ∧
        centsWithin c pitch n = .ok (some cents) := by
      rcases centsWithin_spec hcompares (hkeys n hmem) with hsome | ⟨hnot, -⟩
      · exact hsome
      · obtain ⟨cents, hwithin⟩ := hstrikes.2.2
        exact absurd hwithin (hnot cents)
    have hfirst : firstHit c (s.inputTime c) pitch (s.hitZone c) =
        .ok (some (hitOf c (s.inputTime c) n cents)) := by
      rw [hzone, firstHit_append, firstHit_of_some hcents]
      intro m hm
      refine htried m ?_ (hfront m (hsub m hm))
      rw [hzone]
      exact List.mem_append_left _ hm
    exact ⟨_, strike_of_some hopen hactive haccepts (hs.identifying n hmem) hstrikes.1 hwithin hfirst⟩
  · refine judge_of_none ?_
    have hall : ∀ n ∈ s.hitZone c, centsWithin c pitch n = .ok none :=
      fun n hn => htried n hn (hnone n ((mem_hitZone_scan horder).mp hn).1)
    rw [← List.append_nil (s.hitZone c)]
    exact firstHit_append hall []

end Scans

/-! ## §5 Keys that lie octaves apart -/

open Octaves

theorem cents_octaves (i j : Int) :
    Pitch.cents (440 * 2 ^ i : Rat) (440 * 2 ^ j) = .ok (1200 * (i - j)) := by
  have hpower : (2 : ℚ) ^ j ≠ 0 := zpow_ne_zero j (by norm_num)
  have hratio : (440 * 2 ^ i / (440 * 2 ^ j) : ℚ) = 2 ^ (i - j) := by
    rw [mul_div_mul_left _ _ (by norm_num), ← zpow_sub₀ (by norm_num)]
  have hlog : Analytic.log2 ((2 : ℚ) ^ (i - j)) = (i - j : ℤ) := by
    show (Int.log 2 ((2 : ℚ) ^ (i - j)) : ℚ) + (2 ^ (i - j) / 2 ^ Int.log 2 ((2 : ℚ) ^ (i - j)) - 1) = _
    have hexact : Int.log 2 ((2 : ℚ) ^ (i - j)) = i - j := Int.log_zpow (by norm_num) _
    rw [hexact, div_self (zpow_ne_zero _ (by norm_num))]
    ring
  have hpitched : Scalar.isZero (440 * 2 ^ j : ℚ) = false := by
    rw [Scalar.isZero_rat]
    exact decide_eq_false (mul_ne_zero (by norm_num) hpower)
  rw [Pitch.cents_of_pitched hpitched, hratio, hlog]
  push_cast
  norm_num

/-- A usual speed, window and tolerance. -/
theorem octave_range : ((Scalar.ofInt 1 : Rat) ≤ 5 ∧ (5 : Rat) ≤ Scalar.ofInt 10) ∧
    ¬ (150 : Rat) ≤ Scalar.ofInt 0 ∧ ¬ (15 : Rat) ≤ Scalar.ofInt 0 := by
  norm_num

/-- A session on three keys, at the usual settings. -/
def octaveSetup : Setup Rat Rat where
  settings := {
    speed := 5
    hitWindow := 150
    tolerance := 15
    latency := 0
    preset := Preset.usual
    root := some "C"
    clarity := Matcher.defaultClarity
    volume := Matcher.defaultVolume
    speed_range := octave_range.1
    hitWindow_pos := octave_range.2.1
    tolerance_pos := octave_range.2.2 }
  layout := Octaves.layout
  scoring := .usual
  leadIn := 0
  windows := ⟨150, Windows.defaultPerfect, Windows.defaultGood, octave_range.2.1, usualWindows_rat.2⟩

theorem octaveSetup_compares (i : Int) (p : HeardPitch Rat) (hp : p.frequency = 440 * 2 ^ i) :
    octaveSetup.Compares p := by
  intro k hk
  obtain ⟨j, hj⟩ : ∃ j : Int, k.frequency = 440 * 2 ^ j := by
    simp only [octaveSetup, Octaves.layout, List.mem_cons, List.not_mem_nil, or_false] at hk
    rcases hk with rfl | rfl | rfl <;> exact ⟨_, rfl⟩
  exact ⟨_, by rw [hp, hj, cents_octaves], lt_or_ge _ _⟩

/-- Two notes of a song that is made and started lie in the hit window. An estimate of the second key
hits the second of them. -/
theorem bisection_is_scan_of_two_notes :
    let first : Note Rat := soleNote "a" 0 (by decide) (by decide)
    let second : Note Rat :=
      { soleNote "b" (1 / 10) (by norm_num) (by decide) with key := 1 }
    let pitch : HeardPitch Rat := ⟨440 * 2 ^ (1 : Int), 1, none, 0⟩
    ∃ song : Song Rat, song.Made ∧ song.notes = [first, second] ∧
      let s := (fresh octaveSetup).run octaveSetup [(0, .start song)]
      ∃ hit, (s.judge octaveSetup pitch).1 = .ok (some hit) ∧ hit.note = second.id := by
  intro first second pitch
  have howned : Song.Owned [first, second] := by
    refine ⟨fun n _ => le_refl n.time, ?_, ?_, ?_⟩
    · exact List.pairwise_pair.mpr (by norm_num [first, second, soleNote])
    · simp [first, second, soleNote, Value.isNull, Song.isIdentifying]
    · exact List.pairwise_pair.mpr (by decide : Song.sameId first.id second.id = false)
  obtain ⟨song, hmade, hnotes⟩ := Song.Made.of_owned howned (by norm_num)
  refine ⟨song, hmade, hnotes, ?_⟩
  intro s
  have hstarted : ∀ now song', (now, Event.start song') ∈ [((0 : Rat), Event.start (F := Rat) song)] →
      song'.Made ∧ ∀ n ∈ song'.notes, 0 ≤ n.key := by
    intro now song' hmem
    cases List.mem_singleton.mp hmem
    refine ⟨hmade, ?_⟩
    rw [hnotes]
    simp [first, second, soleNote]
  obtain ⟨-, -, hjudge⟩ := bisection_is_scan octaveSetup [(0, .start song)] hstarted rfl
  have haccepts : octaveSetup.matcher.accepts pitch = true := by decide +kernel
  have hinput : s.inputTime octaveSetup = 0 := by
    show -(0 : Rat) - 0 / 1000.0 = 0
    norm_num
  -- The estimate is of the second key, an octave above the first
  have hsecond : Strikes octaveSetup s pitch second := by
    refine ⟨Keeper.isJudged_fresh _ _, ?_, _, ⟨by decide, Octaves.key 1 "6°", rfl,
      cents_octaves 1 1, ?_⟩⟩
    · rw [hinput]
      show |(1 / 10 : Rat) - 0| ≤ 150 / 1000.0
      norm_num [abs_of_pos]
    · rw [Scalar.abs_rat]
      norm_num [octaveSetup]
  have hfirst : ∀ m ∈ [first], ¬ Strikes octaveSetup s pitch m := by
    rw [List.forall_mem_singleton]
    rintro ⟨-, -, cents, -, k, hget, hcents, hnear⟩
    have hkey : octaveSetup.layout.get first.key = .ok (Octaves.key 0 "6") := rfl
    obtain rfl := Except.ok.inj (hkey.symm.trans hget)
    obtain rfl := Except.ok.inj ((cents_octaves 1 0).symm.trans hcents)
    rw [Scalar.abs_rat] at hnear
    norm_num [octaveSetup] at hnear
  obtain ⟨hit, hreturns, hstrike⟩ := (hjudge pitch haccepts (octaveSetup_compares 1 pitch rfl)).1
    [first] second [] hnotes hsecond hfirst
  obtain ⟨cents, -, rfl⟩ := hstrike.hit_eq
  exact ⟨_, hreturns, rfl⟩

/-! ## §6 Tolerances without a bound

No distance exceeds a tolerance that is infinite or no number. The latter is not above any distance
either, so that nothing is within it. -/

/-- A song of one note can be made, if the time of the note compares with itself. -/
theorem exists_made_sole {R : Type} [Scalar R] {id : Text} {time : R}
    {htime : ¬ time < Scalar.ofInt 0} {hone : ¬ (Scalar.ofInt 1 : R) ≤ Scalar.ofInt 0}
    (htimed : time ≤ time) (htempo : ¬ (Scalar.ofInt 100 : R) ≤ Scalar.ofInt 0) :
    ∃ song : Song R, song.Made ∧ song.notes = [soleNote id time htime hone] := by
  refine Song.Made.of_owned ⟨List.forall_mem_singleton.mpr htimed, List.pairwise_singleton _ _, ?_,
    List.pairwise_singleton _ _⟩ htempo
  simp [soleNote, Value.isNull, Song.isIdentifying]

section Unbounded

variable {F R : Type} [Analytic F] [Scalar R] {c : Setup F R}

/-- A tolerance that nothing exceeds lets every key with a pitch pass. -/
theorem centsWithin_of_unbounded (hpitched : ∀ k ∈ c.layout.keys, Scalar.isZero k.frequency = false)
    (hunbounded : ∀ x : F, ¬ c.settings.tolerance < x) {n : Note R} (hhas : c.layout.has n.key)
    (pitch : HeardPitch F) : ∃ cents, centsWithin c pitch n = .ok (some cents) := by
  have hbeyond : c.layout.isBeyond n.key = false := decide_eq_false (not_le.mpr hhas.2)
  have hfar : -(c.layout.size : Int) ≤ n.key := by
    have hnonneg := hhas.1
    omega
  obtain ⟨k, hk, hget⟩ := Layout.exists_get hbeyond hfar
  rw [centsWithin_of_not hbeyond, hget]
  show ∃ cents, (Pitch.cents pitch.frequency k.frequency >>= _) = .ok (some cents)
  rw [Pitch.cents_of_pitched (hpitched k hk)]
  exact ⟨_, congrArg Except.ok (if_neg (hunbounded _))⟩

/-- Such a tolerance lets an estimate hit the only note of a song that has begun, if the note is in
the window then. -/
theorem firstHit_of_start [Scalar.Orderly R]
    (hpitched : ∀ k ∈ c.layout.keys, Scalar.isZero k.frequency = false)
    (hunbounded : ∀ x : F, ¬ c.settings.tolerance < x) {song : Song R} {n : Note R}
    (hnotes : song.notes = [n]) (hhas : c.layout.has n.key)
    (hlow : ¬ n.time < -c.leadIn - c.settings.latencySeconds - c.settings.hitSeconds)
    (hhigh : ¬ -c.leadIn - c.settings.latencySeconds + c.settings.hitSeconds < n.time)
    (s : Session F R) (began : R) (pitch : HeardPitch F) :
    let t := s.start c began song
    t.hitZone c = [n] ∧ ∃ cents, firstHit c (t.inputTime c) pitch (t.hitZone c) =
      .ok (some (hitOf c (-c.leadIn - c.settings.latencySeconds) n cents)) := by
  intro t
  have hsong : t.notes = [n] := hnotes
  have hinput : t.inputTime c = -c.leadIn - c.settings.latencySeconds := rfl
  have hnew : t.keeper.isJudged n.id = false := Keeper.isJudged_fresh _ _
  have hzone : t.hitZone c = [n] := by
    unfold hitZone
    rw [unjudgedBetween_eq (by rw [hsong]; exact List.pairwise_singleton _ _), hsong, hinput]
    simp [hlow, hhigh, hnew]
  obtain ⟨cents, hcents⟩ := centsWithin_of_unbounded hpitched hunbounded hhas pitch
  rw [hzone, hinput]
  exact ⟨rfl, cents, firstHit_of_some hcents⟩

end Unbounded

open Machine in
/-- A tolerance that is no number is not ruled out, and no distance compares with it. -/
theorem undefined_tolerance :
    ¬ (0 / 0 : Float) ≤ Scalar.ofInt 0 ∧ ∀ x : Float, ¬ 0 / 0 < x ∧ ¬ x ≤ 0 / 0 := by
  have hview : view (0 / 0) = .notANumber := rfl
  have hnone : ¬ IsNumber (0 / 0) := fun h => h hview
  refine ⟨fun h => hnone (le_iff.mp h).1, fun x => ⟨fun h => hnone (lt_iff.mp h).1, fun h => ?_⟩⟩
  exact hnone (le_iff.mp h).2.1

open Machine in
/-- Neither is an infinite one, and no distance exceeds it. -/
theorem infinite_tolerance : ¬ (1 / 0 : Float) ≤ Scalar.ofInt 0 ∧ ∀ x : Float, ¬ 1 / 0 < x := by
  refine ⟨by decide +kernel, fun x h => ?_⟩
  obtain ⟨-, hx, hlt⟩ := lt_iff.mp h
  have hinfinite : val (1 / 0) = beyond := value_positive
  rw [hinfinite] at hlt
  exact absurd (abs_le.mp (abs_val_le hx)).2 (not_le.mpr hlt)

/-- Settings with another tolerance. -/
def tolerant {R : Type} [Scalar R] (settings : Settings Float R) (tolerance : Float)
    (hpos : ¬ tolerance ≤ Scalar.ofInt 0) : Settings Float R :=
  { settings with
    tolerance := tolerance
    tolerance_pos := hpos }

/-- Rules under which every hit is worth infinitely many points. -/
def endlessAtOnce : Scoring Float := ⟨.usual, [(1, 1 / 0)], List.pairwise_singleton _ _⟩

/-- Estimates that judge otherwise than a scan. If the tolerance is no number, nothing is within it,
but an estimate of any pitch hits. And under rules beyond the machine numbers judging fails at the
first hit, and has judged its note without a hit. -/
theorem estimates_not_scanned :
    let pitch : HeardPitch Float := ⟨300.0, 0.99, some 0.5, 0⟩
    (∃ song : Song Rat, song.Made ∧ (∀ n ∈ song.notes, 0 ≤ n.key) ∧
      let c : Setup Float Rat := soleSetup
        (tolerant (usualSettings (by decide) usualWindows_rat.1) (0 / 0) undefined_tolerance.1)
        .usual usualWindows_rat.2
      let s := (fresh c).run c [(0, .start song)]
      s.phase.isActive = true ∧ c.matcher.accepts pitch = true ∧
        (∀ n ∈ s.notes, ¬ Strikes c s pitch n) ∧ ∃ hit, (s.judge c pitch).1 = .ok (some hit)) ∧
    ∃ song : Song Float, song.Made ∧ (∀ n ∈ song.notes, 0 ≤ n.key) ∧
      let c : Setup Float Float := soleSetup
        (tolerant (usualSettings (by decide) (by decide)) (1 / 0) infinite_tolerance.1)
        endlessAtOnce (by decide)
      let s := (fresh c).run c [(0, .start song)]
      s.phase.isActive = true ∧ c.matcher.accepts pitch = true ∧
        (∃ fault, (s.judge c pitch).1 = .error fault) ∧ (s.judge c pitch).2.hits = s.hits ∧
        ∃ n ∈ s.hitZone c, (s.judge c pitch).2.keeper.isJudged n.id = true := by
  intro pitch
  constructor
  · let n : Note Rat := soleNote "a" 0 (by decide) (by decide)
    obtain ⟨song, hmade, hnotes⟩ : ∃ song : Song Rat, song.Made ∧ song.notes = [n] :=
      exists_made_sole le_rfl (by norm_num)
    refine ⟨song, hmade, by simp [hnotes, n, soleNote], ?_⟩
    intro c s
    have haccepts : c.matcher.accepts pitch = true := by decide +kernel
    have hpitched : ∀ k ∈ c.layout.keys, Scalar.isZero k.frequency = false := by decide +kernel
    obtain ⟨-, cents, hfirst⟩ := firstHit_of_start hpitched
      (fun x => (undefined_tolerance.2 x).1) hnotes (by decide) (by decide +kernel)
      (by decide +kernel) (fresh c) 0 pitch
    refine ⟨rfl, haccepts, fun m hm hstrikes => ?_, ?_⟩
    · obtain ⟨-, -, cents, -, k, -, -, hnear⟩ := hstrikes
      exact (undefined_tolerance.2 _).2 hnear
    · have hjudge := judge_of_some (s := s) rfl haccepts hfirst
      obtain ⟨points, percent, hrecord⟩ :=
        record_exact (s := s) rfl (hitOf c (-c.leadIn - c.settings.latencySeconds) n cents) rfl
          (Keeper.isJudged_fresh _ _)
      exact ⟨_, by rw [hjudge, hrecord]; rfl⟩
  · let n : Note Float := soleNote "a" 0 (by decide) (by decide)
    obtain ⟨song, hmade, hnotes⟩ : ∃ song : Song Float, song.Made ∧ song.notes = [n] :=
      exists_made_sole (by decide) (by decide)
    refine ⟨song, hmade, by simp [hnotes, n, soleNote], ?_⟩
    intro c s
    have haccepts : c.matcher.accepts pitch = true := by decide +kernel
    have hpitched : ∀ k ∈ c.layout.keys, Scalar.isZero k.frequency = false := by decide +kernel
    obtain ⟨hzone, cents, hfirst⟩ := firstHit_of_start hpitched infinite_tolerance.2 hnotes
      (by decide) (by decide +kernel) (by decide +kernel) (fresh c) 0 pitch
    have hjudge := judge_of_some (s := s) rfl haccepts hfirst
    generalize hhit : hitOf c (-c.leadIn - c.settings.latencySeconds) n cents = hit at hjudge
    have hnote : hit.note = n.id := congrArg Hit.note hhit.symm
    have htier : hit.tier = .perfect := by
      rw [← hhit]
      show c.windows.classify ((-c.leadIn - c.settings.latencySeconds - n.time) * 1000.0) = _
      decide +kernel
    have hjudged : (s.record hit).2.keeper.isJudged n.id = true := by
      rw [record_keeper, hnote]
      have hopen : s.keeper.frozen = false := rfl
      have hid : Song.isIdentifying n.id = true := rfl
      rw [Keeper.isJudged_register hopen hid]
      rfl
    have hfails : (s.keeper.register hit.note hit.tier).1.toOption = none := by
      rw [hnote, htier]
      show ((Keeper.fresh endlessAtOnce).register n.id .perfect).1.toOption = none
      decide +kernel
    refine ⟨rfl, haccepts, ?_⟩
    rw [hjudge]
    -- The rules fail at the points, when the note is judged already
    rcases hregister : s.keeper.register hit.note hit.tier with ⟨fault | applied, k⟩
    · have hrecord : s.record hit = (.error fault, { s with keeper := k }) := by
        unfold record
        rw [hregister]
      have hmem : n ∈ s.hitZone c := by
        rw [show s.hitZone c = [n] from hzone]
        exact List.mem_singleton_self n
      rw [hrecord] at hjudged ⊢
      exact ⟨⟨fault, rfl⟩, rfl, n, hmem, hjudged⟩
    · rw [hregister] at hfails
      cases hfails

end Session

end Lamella
