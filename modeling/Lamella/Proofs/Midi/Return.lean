import Lamella.Proofs.Scalar.Octaves
import Lamella.Proofs.Song.Making
import Lamella.Proofs.Transcript.Capture
import Mathlib

/-!
# Songs that return from MIDI

A song that was read from tablature has its notes on keys and steps. Exported as MIDI, a note is the
pitch of its key; heard again, it is put onto the key of that pitch and onto its own step. So the
notes that return are those of the song, but one only where several were on one key at one time.

## Main definitions

- `Note.strike`: the key and the time of a note.
- `Midi.toneFor`, `Midi.heardFor`: what a note is exported as, and what it is heard as.

## Main statements

- `Midi.ofSong_onKey`, `Midi.heard_onKey`: a song on keys is exported without loss and heard again.
- `Midi.exported_song_returns`: what is heard is mapped onto the keys and times of the song.
-/

namespace Lamella

open Work

variable {F : Type} {l : Layout F} {g : Grid Rat}

/-- Where and when a note is struck: its key and its time. -/
def Note.strike (n : Note Rat) : Int × Rat := (n.key, n.time)

/-! ## §1 Notes exported and heard -/

namespace Midi

variable {pitch : Int → Int} {n : Note Rat} {notes : List (Note Rat)}

/-- What a note is exported as. -/
def toneFor (pitch : Int → Int) (velocity : Int) (n : Note Rat) : Tone Rat :=
  ⟨velocity, pitch n.key, n.time, n.finish⟩

theorem time_lt_finish (n : Note Rat) : n.time < n.finish :=
  lt_add_of_pos_right n.time (not_le.mp n.duration_pos)

variable [Analytic F]

/-- What a note is heard as. -/
def heardFor (F : Type) [Analytic F] (pitch : Int → Int) (velocity : Int) (n : Note Rat) :
    HeardNote F Rat :=
  ⟨Scalar.ofInt (pitch n.key), n.time, n.finish, velocity, not_le.mpr (time_lt_finish n)⟩

theorem toneOf_onKey (hkeeps : l.KeepsPitches pitch) (hn : n.OnKey l g)
    (velocity : Int) : toneOf l velocity n = .ok (some (toneFor pitch velocity n)) := by
  obtain ⟨k, hk, hindex⟩ := hn.key
  obtain ⟨-, hlt, hget⟩ := l.get_index hk
  have hpitch := keyPitch_eq hkeeps hk
  rw [hindex] at hlt hget hpitch
  have hends : ¬ n.finish < n.time := not_lt.mpr (time_lt_finish n).le
  -- The key is within the layout, so the note is not left out
  unfold toneOf
  rw [if_neg (not_le.mpr hlt), hget]
  show (keyPitch k >>= fun p => Tone.make velocity p n.time n.finish >>= fun t => pure (some t)) = _
  rw [hpitch]
  show (Tone.make velocity (pitch n.key) n.time n.finish >>= fun t => pure (some t)) = _
  rw [Tone.make, if_neg hends]
  rfl

/-- **A song of notes on keys is exported without loss.** -/
theorem ofSong_onKey (hkeeps : l.KeepsPitches pitch) {song : Song Rat}
    (hsong : ∀ n ∈ song.notes, n.OnKey l g) (name : Text) (program velocity : Int) (j : Journal) :
    ∃ piece, (ofSong l name program velocity song).Gives j piece j ∧
      piece.parts = [⟨program, name, false, song.notes.map (toneFor pitch velocity)⟩] := by
  let tones := song.notes.map (toneFor pitch velocity)
  have htones : song.notes.mapM (toneOf l velocity) = .ok (tones.map some) := by
    rw [List.map_map]
    exact Except.mapM_eq_map fun n hn => toneOf_onKey hkeeps (hsong n hn) velocity
  have hdropped : (tones.map some).countP Option.isNone = 0 := List.countP_eq_zero.mpr (by simp)
  have hkept : (tones.map some).filterMap id = tones := by simp
  refine ⟨⟨song.tempo.scalar, [(song.metre, Scalar.ofInt 0)], [⟨program, name, false, tones⟩]⟩, ?_,
    rfl⟩
  refine gives_bind.mpr ⟨_, j, gives_of.mpr ⟨htones, rfl⟩, ?_⟩
  dsimp only
  rw [hdropped, hkept]
  exact gives_pure.mpr ⟨rfl, rfl⟩

variable [Scalar.Faithful F]

theorem heardTone_onKey (hkeeps : l.KeepsPitches pitch) (hn : n.OnKey l g)
    (velocity : Int) :
    heardTone (toneFor pitch velocity n) = .ok (some (heardFor F pitch velocity n)) := by
  obtain ⟨k, hk, hindex⟩ := hn.key
  have hscalar := (hkeeps.scalarOfInt hk).1
  rw [hindex] at hscalar
  -- A note lasts, however shortly, so it is not passed over
  have hlasts : ¬ n.finish ≤ n.time := not_le.mpr (time_lt_finish n)
  unfold heardTone
  rw [toneFor, if_neg hlasts, hscalar]
  show (HeardNote.make _ n.time n.finish velocity >>= fun h => pure (some h)) = _
  rw [HeardNote.make, dif_neg hlasts]
  rfl

/-- **Exported notes are heard again**, whether drums are wanted or not. -/
theorem heard_onKey (hkeeps : l.KeepsPitches pitch)
    (hnotes : ∀ n ∈ notes, n.OnKey l g) (name : Text) (program velocity : Int) (drums : Bool) :
    heard [⟨program, name, false, notes.map (toneFor pitch velocity)⟩] drums =
      .ok (HeardNote.inOrder (notes.map (heardFor F pitch velocity))) := by
  have hheard : (notes.map (toneFor pitch velocity)).mapM heardTone =
      .ok ((notes.map (heardFor F pitch velocity)).map some) := by
    rw [List.mapM_map, List.map_map]
    exact Except.mapM_eq_map fun n hn => heardTone_onKey hkeeps (hnotes n hn) velocity
  unfold heard
  simp [hheard]

/-! ## §2 Heard notes on their keys and steps -/

/-- The keys of a layout and the steps of a grid, with nothing transposed and the usual capture. -/
def keyMap (l : Layout F) (g : Grid Rat) : KeyMap F Rat := ⟨l, g, 0, KeyMap.defaultCapture⟩

theorem keyForPitch_heardFor (htuned : l.Tuned pitch) (hkeeps : l.KeepsPitches pitch)
    (hn : n.OnKey l g) (velocity : Int) :
    (keyMap l g).keyForPitch (heardFor F pitch velocity n).pitch = .ok (some n.key) := by
  obtain ⟨k, hk, hindex⟩ := hn.key
  have hkey := KeyMap.keyForPitch_of_tuned (m := keyMap l g) htuned hkeeps rfl rfl hk
  rwa [hindex] at hkey

/-- A note that is heard is put onto its own key and step. -/
theorem exists_slot_heardFor (htuned : l.Tuned pitch) (hkeeps : l.KeepsPitches pitch)
    (hn : n.OnKey l g) (velocity : Int) :
    ∃ slot, (keyMap l g).slot? (heardFor F pitch velocity n) = some slot ∧
      (g.noteOn slot).strike = n.strike := by
  obtain ⟨step, hstep⟩ := hn.time
  have honset : (heardFor F pitch velocity n).onset = g.stepTime step := hstep
  have hround : (roundHalfEven (g.stepTime step / (keyMap l g).grid.step)).toNat = step := by
    rw [keyMap, g.roundHalfEven_stepTime, Int.toNat_natCast]
  refine ⟨(n.key, step), ?_, ?_⟩
  · rw [KeyMap.slot?, keyForPitch_heardFor htuned hkeeps hn, honset]
    simp only [hround]
  · rw [Note.strike, Note.strike, hstep]
    rfl

/-- Slots that differ are struck at different keys or times. -/
theorem strike_noteOn_inj {s t : Int × Nat} (h : (g.noteOn s).strike = (g.noteOn t).strike) :
    s = t := by
  obtain ⟨hkey, htime⟩ := Prod.ext_iff.mp h
  exact Prod.ext hkey (Grid.time_noteOn_eq.mp htime)

/-- Notes on slots in order are struck in the order of time and key, and no two of them alike. -/
theorem strikes_of_precedes {slots : List (Int × Nat)} (h : slots.Pairwise KeyMap.Precedes) :
    ((slots.map g.noteOn).map Note.strike).Nodup ∧ (slots.map g.noteOn).Pairwise fun a b =>
      a.time < b.time ∨ a.time = b.time ∧ a.key < b.key := by
  rw [List.map_map, List.Nodup, List.pairwise_map, List.pairwise_map]
  refine ⟨h.imp fun {s t} hst hsame => ?_, h.imp fun {s t} hst => ?_⟩
  · obtain rfl := strike_noteOn_inj hsame
    rcases hst with hlt | ⟨-, hlt⟩ <;> omega
  · exact hst.imp Grid.time_noteOn_lt.mpr fun ⟨hstep, hlt⟩ => ⟨Grid.time_noteOn_eq.mpr hstep, hlt⟩

/-- **Heard notes return to their keys and steps**, one for each key and time, in order. -/
theorem map_onKey (htuned : l.Tuned pitch) (hkeeps : l.KeepsPitches pitch) (hcells : g.cells = 1)
    (hnotes : ∀ n ∈ notes, n.OnKey l g) (velocity : Int) :
    ∃ mapped, (keyMap l g).map (HeardNote.inOrder (notes.map (heardFor F pitch velocity))) =
        .ok mapped ∧
      (mapped.map Note.strike).Nodup ∧
      (∀ s, s ∈ mapped.map Note.strike ↔ s ∈ notes.map Note.strike) ∧
      (∀ n ∈ mapped, n.duration = g.step) ∧
      mapped.Pairwise fun a b => a.time < b.time ∨ a.time = b.time ∧ a.key < b.key := by
  -- What is heard stands in another order, which is of no account for the mapping
  let listened := HeardNote.inOrder (notes.map (heardFor F pitch velocity))
  have hmem : ∀ h, h ∈ listened ↔ ∃ n ∈ notes, heardFor F pitch velocity n = h := by
    intro h
    show h ∈ HeardNote.inOrder _ ↔ _
    rw [HeardNote.inOrder, (Order.sortBy_perm _ _).mem_iff, List.mem_map]
  -- Each heard note has a key, and none begins too early
  have hkeys : ∀ h ∈ listened, ∃ index, (keyMap l g).keyForPitch h.pitch = .ok index := by
    intro h hh
    obtain ⟨n, hn, rfl⟩ := (hmem h).mp hh
    exact ⟨_, keyForPitch_heardFor htuned hkeeps (hnotes n hn) velocity⟩
  have honset : ∀ h ∈ listened, 0 ≤ h.onset := by
    intro h hh
    obtain ⟨n, -, rfl⟩ := (hmem h).mp hh
    exact not_lt.mp n.time_not_neg
  obtain ⟨mapped, hmap⟩ := KeyMap.exists_map (m := keyMap l g) hcells hkeys honset
  obtain ⟨slots, rfl, hprecedes, hslots⟩ := KeyMap.slots_of_map (m := keyMap l g) hcells hmap
  obtain ⟨hnodup, horder⟩ := strikes_of_precedes (g := g) hprecedes
  refine ⟨_, hmap, hnodup, fun s => ?_, fun n hn => ?_, horder⟩
  · -- The slots that are struck are those of the notes that were heard
    rw [List.map_map, List.mem_map, List.mem_map]
    constructor
    · rintro ⟨slot, hslot, rfl⟩
      obtain ⟨h, hh, hput⟩ := (hslots slot).mp hslot
      obtain ⟨n, hn, rfl⟩ := (hmem h).mp hh
      obtain ⟨own, hown, hstrike⟩ := exists_slot_heardFor htuned hkeeps (hnotes n hn) velocity
      obtain rfl := Option.some.inj (hput.symm.trans hown)
      exact ⟨n, hn, hstrike.symm⟩
    · rintro ⟨n, hn, rfl⟩
      obtain ⟨own, hown, hstrike⟩ := exists_slot_heardFor htuned hkeeps (hnotes n hn) velocity
      exact ⟨own, (hslots own).mpr ⟨_, (hmem _).mpr ⟨n, hn, rfl⟩, hown⟩, hstrike⟩
  · obtain ⟨slot, -, rfl⟩ := List.mem_map.mp hn
    rfl

/-- **A song returns from MIDI as it was, but for notes that are struck twice.** The keys of
generated and calibrated layouts have the frequencies of whole pitches. On any layout of such keys,
a tablature becomes a song of the notes that are read from it, which is exported without a warning.
What is heard of it and mapped with the same layout and grid is one note for each key and time of
the song, as long as a step, in the order of time and key. -/
theorem exported_song_returns :
    (∀ (t : Tuning) count (l : Layout F), t.generate count = .ok l → ∃ pitch, l.Tuned pitch) ∧
    (∀ size (l : Layout F), Layout.ofTable size = .ok l → ∃ pitch, l.Tuned pitch) ∧
    ∀ (l : Layout F) (pitch : Int → Int), l.Tuned pitch → l.KeepsPitches pitch →
      ∀ (sheet : Song.Sheet Rat) (metre : Metre) (level : Difficulty), 0 < sheet.tempo.scalar →
        sheet.metre.resolve = .ok metre → Difficulty.ofValue sheet.difficulty = .ok level →
        ∀ j, ∃ song j' g reading, (Song.compose l sheet).Gives j song j' ∧
          Grid.make sheet.tempo.scalar sheet.metre = .ok g ∧
          Tab.read l g sheet.tab = .ok reading ∧
          (song.notes.map Note.signature).Perm (reading.notes.map Note.signature) ∧
          ∀ name program velocity drums k, ∃ piece listened notes,
            (ofSong l name program velocity song).Gives k piece k ∧
            heard piece.parts drums = .ok listened ∧
            (KeyMap.mk l g 0 KeyMap.defaultCapture).map listened = .ok notes ∧
            (notes.map Note.strike).Nodup ∧
            (∀ s, s ∈ notes.map Note.strike ↔ s ∈ song.notes.map Note.strike) ∧
            (∀ n ∈ notes, n.duration = g.step) ∧
            notes.Pairwise fun a b => a.time < b.time ∨ a.time = b.time ∧ a.key < b.key := by
  refine ⟨fun _ _ _ => Tuning.tuned_of_generate, fun _ _ => Layout.tuned_of_table, ?_⟩
  intro l pitch htuned hkeeps sheet metre level htempo hmetre hlevel j
  obtain ⟨song, j', g, reading, hcompose, hgrid, hcells, hread, hown, hsong⟩ :=
    Song.exists_compose l htempo hmetre hlevel j
  refine ⟨song, j', g, reading, hcompose, hgrid, hread, hown, ?_⟩
  intro name program velocity drums k
  obtain ⟨piece, hpiece, hparts⟩ := ofSong_onKey hkeeps hsong name program velocity k
  have hheard := heard_onKey hkeeps hsong name program velocity drums
  rw [← hparts] at hheard
  obtain ⟨notes, hmap, hreturn⟩ := map_onKey htuned hkeeps hcells hsong velocity
  exact ⟨piece, _, notes, hpiece, hheard, hmap, hreturn⟩

end Midi

/-! ## §3 A song in which a key is struck twice at once -/

namespace Octaves

/-- On any tuned layout, pitches are kept exactly. -/
theorem keepsPitches {l : Layout Rat} {pitch : Int → Int} (h : l.Tuned pitch) :
    l.KeepsPitches pitch := by
  intro k hk
  refine ⟨Pitch.ofFrequency k.frequency, rfl, ?_⟩
  rw [ofFrequency_frequencyOfNumber (h.frequency k hk), sub_self, abs_zero]
  norm_num

/-- The major scale from middle C. -/
def tuning : Tuning := ⟨.major, 0, some 4, false⟩

/-- A tablature of a key that is struck twice at once, and of two more. -/
def sheet : Song.Sheet Rat where
  tab := "(1 1) 5 1°"
  title := "A"
  tempo := .measured 120

/-- What the sheet is read as on a generated layout. -/
theorem read_sheet : ∃ (l : Layout Rat) (g : Grid Rat) (reading : Tab.Reading Rat),
    tuning.generate 17 = .ok l ∧ Grid.make sheet.tempo.scalar sheet.metre = .ok g ∧
    Tab.read l g sheet.tab = .ok reading ∧
    reading.notes.map Note.signature =
      [(8, 0, 1 / 2), (8, 0, 1 / 2), (10, 1 / 2, 1 / 2), (4, 1, 1 / 2)] := by
  have hrun : (do
      let l : Layout Rat ← tuning.generate 17
      let g ← Grid.make sheet.tempo.scalar sheet.metre
      let reading ← Tab.read l g sheet.tab
      return reading.notes.map Note.signature) =
      .ok [(8, 0, 1 / 2), (8, 0, 1 / 2), (10, 1 / 2, 1 / 2), (4, 1, 1 / 2)] := by cbv
  obtain ⟨l, hlayout, hrun⟩ := Except.bind_eq_ok.mp hrun
  obtain ⟨g, hgrid, hrun⟩ := Except.bind_eq_ok.mp hrun
  obtain ⟨reading, hread, hrun⟩ := Except.bind_eq_ok.mp hrun
  exact ⟨l, g, reading, hlayout, hgrid, hread, Except.ok.inj hrun⟩

theorem exists_ofTable : ∃ l : Layout Rat, Layout.ofTable 21 = .ok l := by
  have hrun : (do
      let l : Layout Rat ← Layout.ofTable 21
      return l.size) = .ok 21 := by cbv
  obtain ⟨l, htable, -⟩ := Except.bind_eq_ok.mp hrun
  exact ⟨l, htable⟩

/-- Of the four notes of the sheet three return. -/
theorem exported_song_returns_of_sheet :
    (∃ l : Layout Rat, Layout.ofTable 21 = .ok l ∧ ∃ pitch, l.Tuned pitch) ∧
    ∃ (l : Layout Rat) (pitch : Int → Int), tuning.generate 17 = .ok l ∧ l.Tuned pitch ∧
      l.KeepsPitches pitch ∧ 0 < sheet.tempo.scalar ∧ sheet.metre.resolve = .ok .common ∧
      Difficulty.ofValue sheet.difficulty = .ok .medium ∧
      ∃ song j' g piece listened notes, (Song.compose l sheet).Gives default song j' ∧
        Grid.make sheet.tempo.scalar sheet.metre = .ok g ∧
        (song.notes.map Note.strike).Perm [(8, 0), (8, 0), (10, 1 / 2), (4, 1)] ∧
        (Midi.ofSong l "A" Midi.songProgram Midi.songVelocity song).Gives default piece default ∧
        Midi.heard piece.parts false = .ok listened ∧
        (KeyMap.mk l g 0 KeyMap.defaultCapture).map listened = .ok notes ∧
        (notes.map Note.strike).Perm [(8, 0), (10, 1 / 2), (4, 1)] := by
  obtain ⟨l, g, reading, hlayout, hgrid, hread, hnotes⟩ := read_sheet
  obtain ⟨table, htable⟩ := exists_ofTable
  obtain ⟨hgenerated, hcalibrated, hreturns⟩ := Midi.exported_song_returns (F := Rat)
  obtain ⟨pitch, htuned⟩ := hgenerated tuning 17 l hlayout
  have htempo : 0 < sheet.tempo.scalar := by decide +kernel
  have hlevel : Difficulty.ofValue sheet.difficulty = .ok .medium := Difficulty.ofValue_text .medium
  obtain ⟨song, j', g', reading', hsong, hgrid', hread', hown, hall⟩ :=
    hreturns l pitch htuned (keepsPitches htuned) sheet .common .medium htempo rfl hlevel default
  obtain rfl := Except.ok.inj (hgrid.symm.trans hgrid')
  obtain rfl := Except.ok.inj (hread.symm.trans hread')
  obtain ⟨piece, listened, notes, hpiece, hheard, hmap, hnodup, hmem, -, -⟩ :=
    hall "A" Midi.songProgram Midi.songVelocity false default
  -- Where and when a note is struck is part of what it sounds like
  have hstrikes : (song.notes.map Note.strike).Perm [(8, 0), (8, 0), (10, 1 / 2), (4, 1)] := by
    have hstrike := hown.map fun s : Int × Rat × Rat => (s.1, s.2.1)
    rw [hnotes, List.map_map] at hstrike
    exact hstrike
  refine ⟨⟨table, htable, hcalibrated 21 table htable⟩, l, pitch, hlayout, htuned,
    keepsPitches htuned, htempo, rfl, hlevel, song, j', g, piece, listened, notes, hsong, hgrid,
    hstrikes, hpiece, hheard, hmap, ?_⟩
  refine (List.perm_ext_iff_of_nodup hnodup (by decide +kernel)).mpr fun s => ?_
  rw [hmem, hstrikes.mem_iff]
  simp

end Octaves

end Lamella
