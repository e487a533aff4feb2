import Lamella.Proofs.Score.Bounds
import Lamella.Proofs.Session.Returning
import Lamella.Proofs.Song.Defects
import Lamella.Proofs.Song.Lasting

/-!
# Songs that reading admits

Reading a song refuses a tempo or a duration that is at most zero and a time below zero. A scalar
that is no number is none of these, so it is admitted, and no time order is left among notes with
such times. The duration of the song is not looked at at all. Where the tempo, the times and the
durations are numbers, though, the song is well formed, and whether a session that plays it goes on
without a fault depends on the duration of the song alone.

## Main definitions

- `Song.WellFormed`: songs as a game expects them.
- `Song.Measured`: songs whose data is numbers where numbers are expected.

## Main statements

- `Song.length_of_durationOf`: the duration that is computed from notes is a length.
- `Song.wellFormed_iff`: a song that was read is well formed just if its data is numbers.
- `Song.admitted_songs`: what is known of a song that was read, and of sessions that play it.
-/

namespace Lamella

/-! ## §1 Numbers that are not refused -/

namespace Machine

open Float.Model (Format)
open Float.Model.UnpackedFloat

variable {x a b : Float}

/-- What is not at most zero is above it, if it is a number. -/
theorem pos_iff_of_not_le (h : ¬ x ≤ Scalar.ofInt 0) : Scalar.ofInt 0 < x ↔ x ≤ x := by
  constructor
  · intro hpos
    obtain ⟨-, hnumber, -⟩ := lt_iff.mp hpos
    exact le_iff.mpr ⟨hnumber, hnumber, le_rfl⟩
  · intro hself
    have hnumber := (le_iff.mp hself).1
    refine lt_iff.mpr ⟨val_zero.1, hnumber, ?_⟩
    rw [val_zero.2]
    exact val_pos_of_not_le hnumber h

/-- What is not below zero is at least zero, if it is a number. -/
theorem nonneg_iff_of_not_lt (h : ¬ x < Scalar.ofInt 0) : Scalar.ofInt 0 ≤ x ↔ x ≤ x := by
  constructor
  · intro hnonneg
    obtain ⟨-, hnumber, -⟩ := le_iff.mp hnonneg
    exact le_iff.mpr ⟨hnumber, hnumber, le_rfl⟩
  · intro hself
    have hnumber := (le_iff.mp hself).1
    refine le_iff.mpr ⟨val_zero.1, hnumber, ?_⟩
    rw [val_zero.2]
    exact val_nonneg_of_not_lt hnumber h

/-- Numbers that are not below zero have such a sum, be they infinite or not. -/
theorem zero_le_add (ha : Scalar.ofInt 0 ≤ a) (hb : Scalar.ofInt 0 ≤ b) :
    Scalar.ofInt 0 ≤ a + b := by
  obtain ⟨hzero, hna, hla⟩ := le_iff.mp ha
  obtain ⟨-, hnb, hlb⟩ := le_iff.mp hb
  rw [val_zero.2] at hla hlb
  have hlimit := limit_pos
  have hbeyond := beyond_eq
  have hinfinite : add Format.binary64 (view a) (view b) = .infinity .positive →
      Scalar.ofInt 0 ≤ a + b := by
    intro hadd
    have hview : view (a + b) = .infinity .positive := by
      rw [view_add, hadd, unpack_pack_infinity]
    refine le_iff.mpr ⟨hzero, ?_, ?_⟩
    · rw [IsNumber, hview]
      exact nofun
    · rw [val_zero.2, val, hview, value_positive]
      linarith
  -- Neither is the infinity below zero
  rcases val_cases hna with ⟨hva, -⟩ | ⟨-, h⟩ | ⟨hfa, -⟩
  · rcases val_cases hnb with ⟨hvb, -⟩ | ⟨-, h⟩ | ⟨hfb, -⟩
    · exact hinfinite (by rw [hva, hvb]; rfl)
    · linarith
    · exact hinfinite (by rw [hva, (add_infinity_left _ hfb).1])
  · linarith
  · rcases val_cases hnb with ⟨hvb, -⟩ | ⟨-, h⟩ | ⟨hfb, -⟩
    · exact hinfinite (by rw [hvb, (add_infinity_right _ hfa).1])
    · linarith
    · have hpacked := (add_rounds (view_canonical a).1 (view_canonical b).1 hfa hfb).packed
      rw [← view_add] at hpacked
      refine le_iff.mpr ⟨hzero, hpacked.1, ?_⟩
      refine le_of_le_of_eq ?_ hpacked.2.symm
      rw [val_zero.2, ← clamp_zero]
      exact clamp_mono (nearest_nonneg (add_nonneg hla hlb))

end Machine

/-! ## §2 Well-formed songs -/

/-- A length: a number that is not below zero. -/
def Value.IsLength {R : Type} [Scalar R] : Value R → Prop
  | .num x => Scalar.ofInt 0 ≤ x
  | .int n => 0 ≤ n
  | .bool _ => True
  | _ => False

instance {R : Type} [Scalar R] (v : Value R) : Decidable v.IsLength :=
  match v with
  | .num x => inferInstanceAs (Decidable (Scalar.ofInt 0 ≤ x))
  | .int n => inferInstanceAs (Decidable (0 ≤ n))
  | .bool _ => inferInstanceAs (Decidable True)
  | .null | .str _ | .list _ | .object _ => inferInstanceAs (Decidable False)

namespace Song

/-- A song as a game expects it: its tempo is above zero, its notes begin at zero or later, last, are
in the order of their times and are told apart by their ids, and its duration is a length. -/
structure WellFormed (s : Song Float) : Prop where
  tempo : Scalar.ofInt 0 < s.tempo.scalar
  times : ∀ n ∈ s.notes, Scalar.ofInt 0 ≤ n.time ∧ Scalar.ofInt 0 < n.duration
  order : s.InOrder
  apart : Apart (s.notes.map Note.id)
  duration : s.duration.IsLength

/-- A song of which the tempo and the times and durations of the notes are numbers, and which was
given a length for its duration, or nothing. -/
structure Measured (s : Song Float) (given : Value Float) : Prop where
  tempo : s.tempo.scalar ≤ s.tempo.scalar
  times : ∀ n ∈ s.notes, n.time ≤ n.time ∧ n.duration ≤ n.duration
  duration : given.isNull = true ∨ given.IsLength

/-- The duration in the data of a song. -/
def givenDuration {R : Type} [Scalar R] : Value R → Value R
  | .object fields => Value.field fields "duration"
  | _ => .null

/-- A length is a number. -/
theorem isNumeric_of_isLength {R : Type} [Scalar R] {v : Value R} (h : v.IsLength) :
    isNumeric v = true := by
  cases v with
  | bool | int | num => rfl
  | null | str | list | object => exact h.elim

/-- **The duration that is computed from notes is a length**, if their times and durations are
numbers. -/
theorem length_of_durationOf {notes : List (Note Float)}
    (h : ∀ n ∈ notes, n.time ≤ n.time ∧ n.duration ≤ n.duration) :
    Scalar.ofInt 0 ≤ durationOf notes := by
  have hfinish : ∀ n ∈ notes, Scalar.ofInt 0 ≤ n.finish := by
    intro n hn
    obtain ⟨htime, hduration⟩ := h n hn
    have hlasts := (Machine.pos_iff_of_not_le n.duration_pos).mpr hduration
    obtain ⟨hzero, hnumber, hlt⟩ := Machine.lt_iff.mp hlasts
    exact Machine.zero_le_add ((Machine.nonneg_iff_of_not_lt n.time_not_neg).mpr htime)
      (Machine.le_iff.mpr ⟨hzero, hnumber, hlt.le⟩)
  have hnumber : ∀ n ∈ notes, n.finish ≤ n.finish :=
    fun n hn => (Scalar.Steady.le_refl_of_le (hfinish n hn)).2
  rcases last_durationOf hnumber with ⟨-, hduration⟩ | ⟨last, hlast, -, hduration⟩
  · rw [hduration]
    decide +kernel
  · rw [hduration]
    exact Machine.zero_le_add (hfinish last hlast) (by decide +kernel)

/-! ## §3 Songs that were read -/

open Work

section

variable {R : Type} [Scalar R] {v : Value R} {song : Song R} {j j' : Journal}

/-- The duration of a song is the given one, or is computed from its notes. -/
theorem duration_of_make {d : Draft R} (h : (make d).Gives j song j') :
    song.duration = if d.duration.isNull then .num (durationOf song.notes) else d.duration := by
  unfold make at h
  obtain ⟨id, k, -, h⟩ := gives_bind.mp h
  split at h
  · exact absurd h not_gives_throw
  · simp only [gives_bind, gives_of, gives_now, gives_pure] at h
    obtain ⟨-, -, -, -, -, -, notes, -, -, -, -, -, rfl, -⟩ := h
    rfl

/-- What a song has of the data that it was read from: the notes of its data, made its own, and the
duration that was given, or else a computed one. -/
theorem of_ofValue (h : (ofValue v).Gives j song j') :
    song.duration =
        (if (givenDuration v).isNull then .num (durationOf song.notes) else givenDuration v) ∧
      ∃ (notes : List (Note R)) (k k' : Journal), notes.map Note.id = idsOf v ∧
        j.drawn ≤ k.drawn ∧ k'.drawn ≤ j'.drawn ∧ (own notes).Gives k song.notes k' := by
  obtain ⟨d, k, hdraft, hmake⟩ := gives_bind.mp h
  obtain ⟨hread, rfl⟩ := gives_of.mp hdraft
  obtain ⟨fields, entries, rfl, -, hentries, -, -, -, -, hduration, step, hnotes⟩ :=
    of_draftOfValue hread
  obtain ⟨-, -, -, -, -, k, k', hk, hk', hown⟩ := made_of_draft hmake
  refine ⟨?_, d.notes, k, k', ?_, hk, hk', hown⟩
  · have hmade := duration_of_make hmake
    rwa [hduration] at hmade
  · rw [ids_of_entries hnotes]
    simp only [idsOf, hentries]

/-- The notes of a song are told apart by their ids, whatever their times are. -/
theorem apart_of_own {notes owned : List (Note R)} (h : (own notes).Gives j owned j')
    (hfresh : Fresh (notes.map Note.id) j j') : Apart (owned.map Note.id) := by
  obtain ⟨repeated, k, hk, hadopt⟩ := adopt_of_own h
  have hperm := Order.sortBy_perm (fun a b : Note R => decide (a.time ≤ b.time)) notes
  exact (apart_of_adopt hadopt holds_bare (fun _ h => nomatch h)
    (fun n hn => List.mem_map_of_mem (hperm.mem_iff.mp hn))
    (hfresh.mono (Nat.le_refl _) (Nat.le_of_eq hk))).1

/-- The times of the notes that a song owns are those of the notes it took in. -/
theorem times_of_own {notes owned : List (Note R)} (h : (own notes).Gives j owned j') :
    (owned.map Note.time).Perm (notes.map Note.time) := by
  obtain ⟨repeated, k, -, hadopt⟩ := adopt_of_own h
  rw [times_of_adopt hadopt]
  exact (Order.sortBy_perm _ notes).map _

theorem apart_of_ofValue (h : (ofValue v).Gives j song j') (hfresh : Fresh (idsOf v) j j') :
    Apart (song.notes.map Note.id) := by
  obtain ⟨-, notes, k, k', hids, hk, hk', hown⟩ := of_ofValue h
  rw [← hids] at hfresh
  exact apart_of_own hown (hfresh.mono hk hk')

/-- Notes whose times are numbers are in the order of them. -/
theorem inOrder_of_ofValue [Scalar.Comparable R] (h : (ofValue v).Gives j song j')
    (hfresh : Fresh (idsOf v) j j') (htimes : ∀ n ∈ song.notes, n.time ≤ n.time) :
    song.InOrder := by
  obtain ⟨-, notes, k, k', hids, hk, hk', hown⟩ := of_ofValue h
  rw [← hids] at hfresh
  refine (owned_of_own hown (fun n hn => ?_) (hfresh.mono hk hk')).order
  obtain ⟨m, hm, hsame⟩ := List.mem_map.mp
    ((times_of_own hown).mem_iff.mpr (List.mem_map_of_mem hn))
  rw [← hsame]
  exact htimes m hm

end

variable {v : Value Float} {song : Song Float} {j j' : Journal}

/-- **A song that was read is well formed just if its data is numbers.** -/
theorem wellFormed_iff (h : (ofValue v).Gives j song j') (hfresh : Fresh (idsOf v) j j') :
    song.WellFormed ↔ song.Measured (givenDuration v) := by
  obtain ⟨hduration, -⟩ := of_ofValue h
  constructor
  · intro hwell
    refine ⟨(Machine.pos_iff_of_not_le song.tempo_pos).mp hwell.tempo, fun n hn => ?_, ?_⟩
    · obtain ⟨htime, hlasts⟩ := hwell.times n hn
      exact ⟨(Machine.nonneg_iff_of_not_lt n.time_not_neg).mp htime,
        (Machine.pos_iff_of_not_le n.duration_pos).mp hlasts⟩
    · have hlength := hwell.duration
      rw [hduration] at hlength
      split at hlength
      · exact .inl ‹_›
      · exact .inr hlength
  · intro hmeasured
    refine ⟨(Machine.pos_iff_of_not_le song.tempo_pos).mpr hmeasured.tempo, fun n hn => ?_,
      inOrder_of_ofValue h hfresh fun n hn => (hmeasured.times n hn).1,
      apart_of_ofValue h hfresh, ?_⟩
    · obtain ⟨htime, hlasts⟩ := hmeasured.times n hn
      exact ⟨(Machine.nonneg_iff_of_not_lt n.time_not_neg).mpr htime,
        (Machine.pos_iff_of_not_le n.duration_pos).mpr hlasts⟩
    · rw [hduration]
      split
      · exact length_of_durationOf hmeasured.times
      · rename_i hgiven
        exact hmeasured.duration.resolve_left hgiven

/-- **What reading a song admits.** Whenever a text is read as a song, and no id in it is one that
is drawn meanwhile, the notes of the song are told apart by their ids, and the song is well formed
just if its data is numbers. And take any setup under whose rules the points of the song are
scalars, and on whose layout its keys can be looked up: in every session that a run reaches which
starts no other song, every tick returns, if the duration of the song is a number, as it is in a
well-formed song; else some tick does not. -/
theorem admitted_songs {text : Text} (h : (ofText text).Gives j song j')
    (hfresh : ∀ v : Value Float, Value.ofText text = .ok v → Fresh (idsOf v) j j') :
    Apart (song.notes.map Note.id) ∧
    (∃ v, Value.ofText text = .ok v ∧ (song.WellFormed ↔ song.Measured (givenDuration v))) ∧
    (song.WellFormed → isNumeric song.duration = true) ∧
    ∀ {F : Type} [Analytic F] (c : Setup F Float), c.scoring.Gains →
      c.scoring.Reaches song.notes.length → c.Finds song →
      ((∀ events : List (Float × Session.Event F Float),
          (∀ now other, (now, .start other) ∈ events → other = song) →
          ∀ now, ∃ hits, (((Session.fresh c).run c events).tick c now).1 = .ok hits) ↔
        isNumeric song.duration = true) := by
  obtain ⟨v, k, hread, hmade⟩ := gives_bind.mp h
  obtain ⟨hvalue, rfl⟩ := gives_of.mp hread
  have hparsed := Except.mapError_eq_ok.mp hvalue
  have hapart := apart_of_ofValue hmade (hfresh v hparsed)
  refine ⟨hapart, ⟨v, hparsed, wellFormed_iff hmade (hfresh v hparsed)⟩,
    fun hwell => isNumeric_of_isLength hwell.duration, ?_⟩
  intro F _ c hgains hreaches hfinds
  refine Session.ticks_return_iff hgains ⟨fun n hn => ?_, ?_, hreaches⟩ hfinds
  · exact (hapart.usable n.id (List.mem_map_of_mem hn)).2
  · exact List.pairwise_map.mp hapart.distinct

/-- The outcome of reading a text from an empty journal. -/
def outcome (text : Text) : Except Fault (Song Float) := ((ofText text).run.run {}).1

/-- The usual windows in machine numbers. -/
theorem usualWindows_float : (Scalar.ofInt 1 ≤ (Scalar.ofInt 5 : Float) ∧
      (Scalar.ofInt 5 : Float) ≤ Scalar.ofInt 10) ∧
    (¬ (Windows.defaultHit : Float) ≤ Scalar.ofInt 0) ∧
      Scalar.ofInt 0 < (Windows.defaultPerfect : Float) ∧
        (Windows.defaultPerfect : Float) ≤ Windows.defaultGood ∧
        (Windows.defaultGood : Float) ≤ Scalar.ofInt 1 := by
  decide +kernel

/-- A setup with the usual rules, on a single key. -/
def usualSetup : Setup Float Float :=
  Session.soleSetup (Session.usualSettings usualWindows_float.1 usualWindows_float.2.1) .usual
    usualWindows_float.2.2

/-- A song of one note, read from its text, is well formed, and all its ticks return. -/
theorem admitted_song_of_one_note :
    let text : Text := "\x7b\"id\": \"a\", \"title\": \"t\", \"bpm\": 120,
      \"notes\": [\x7b\"id\": \"n\", \"keyIndex\": 0, \"time\": 1.5\x7d]\x7d"
    ∃ song, outcome text = .ok song ∧ song.WellFormed ∧ ∀ now, ∃ hits,
      (((Session.fresh usualSetup).start usualSetup 0 song).tick usualSetup now).1 = .ok hits := by
  intro text
  -- The tempo, the note and the length of the song, as they were read
  have hread : (outcome text).map (fun song => (song.notes.map Note.key,
      decide (song.tempo.scalar ≤ song.tempo.scalar), song.notes.all fun n =>
        decide (n.time ≤ n.time ∧ n.duration ≤ n.duration))) = .ok ([0], true, true) := by
    decide +kernel
  have hdrawn : ((ofText text : Work (Song Float)).run.run {}).2.drawn = 0 := by decide +kernel
  have hgiven : (Value.ofText text : Except Flaw (Value Float)).map
      (fun v => (givenDuration v).isNull) = .ok true := by decide +kernel
  -- From here on only what was read matters, not how it was
  clear_value text
  cases hsong : outcome text with
  | error fault =>
    rw [hsong] at hread
    cases hread
  | ok song =>
    rw [hsong] at hread
    simp only [Except.map, Except.ok.injEq, Prod.mk.injEq, decide_eq_true_eq, List.all_eq_true]
      at hread
    obtain ⟨hkeys, htempo, htimes⟩ := hread
    have hgives : (ofText text).Gives {} song ((ofText text : Work (Song Float)).run.run {}).2 :=
      Prod.ext hsong rfl
    obtain ⟨-, ⟨v, hv, hwell⟩, hnumeric, hticks⟩ := admitted_songs hgives
      fun v _ id _ m hm hm' => by
        rw [hdrawn] at hm'
        exact absurd hm (by omega)
    rw [hv] at hgiven
    have hsound : song.WellFormed :=
      hwell.mpr ⟨htempo, htimes, .inl (Except.ok.inj hgiven)⟩
    have hcount : song.notes.length = 1 := by
      rw [← List.length_map (f := Note.key), hkeys]
      rfl
    refine ⟨song, rfl, hsound, fun now => ?_⟩
    have hvalues : ∀ t, |usualSetup.scoring.worth.of t| ≤ 100 := fun t => by cases t <;> decide
    have hreaches : usualSetup.scoring.Reaches song.notes.length :=
      Scoring.reaches_of_le hvalues (by rw [hcount]; decide)
    have hall := (hticks usualSetup Scoring.gains_usual hreaches ⟨?_, by decide +kernel⟩).mpr
      (hnumeric hsound)
    · refine hall [(0, .start song)] (fun began other hmem => ?_) now
      cases List.mem_singleton.mp hmem
      rfl
    · intro n hn
      have hkey : n.key ∈ ([0] : List Int) := hkeys ▸ List.mem_map_of_mem hn
      rw [List.mem_singleton.mp hkey]
      decide

/-- Four texts that are read as songs which are not well formed: with a tempo or a time that is no
number, with a duration below zero, and with a text for a duration, at which the first tick fails.
-/
theorem songs_not_well_formed :
    (outcome "\x7b\"id\": \"a\", \"title\": \"t\", \"bpm\": NaN, \"notes\": []\x7d").map
      (fun song => decide (Scalar.ofInt 0 < song.tempo.scalar)) = .ok false ∧
    (outcome "\x7b\"id\": \"a\", \"title\": \"t\", \"bpm\": 120,
      \"notes\": [\x7b\"keyIndex\": 0, \"time\": NaN\x7d]\x7d").map
      (fun song => song.notes.map fun n => decide (Scalar.ofInt 0 ≤ n.time)) = .ok [false] ∧
    (outcome "\x7b\"id\": \"a\", \"title\": \"t\", \"bpm\": 120, \"notes\": [],
      \"duration\": -5\x7d").map (fun song => decide song.duration.IsLength) = .ok false ∧
    (outcome "\x7b\"id\": \"a\", \"title\": \"t\", \"bpm\": 120, \"notes\": [],
      \"duration\": \"abc\"\x7d").map (fun song =>
        (((Session.fresh usualSetup).start usualSetup 0 song).tick usualSetup 0).1.map
          List.length) = .ok (.error .wrongShape) := by
  refine ⟨?_, ?_, ?_, ?_⟩ <;> decide +kernel

end Song

end Lamella
