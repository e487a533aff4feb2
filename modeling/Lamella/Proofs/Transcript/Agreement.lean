import Lamella.Proofs.Scalar.Octaves
import Lamella.Proofs.Song.Making
import Lamella.Proofs.Tab.Readback
import Lamella.Proofs.Transcript.Mapping
import Lamella.Transcript.Passes
import Mathlib

/-!
# The tablature of a transcription

The song of a transcription stores its notes twice: as notes, and as the tablature that was written
of them. Since heard notes are mapped onto steps of the very grid that tablature is written on, the
two agree: reading the tablature back gives the notes again, but for those on keys that no label
leads to.

## Main statements

- `Tab.read_write_onSlots`: notes on slots that are written are read back as they are.
- `Transcription.tab_of_song_agrees`: the stored tablature is read as the stored notes.
-/

namespace Lamella

open Work

variable {F : Type}

/-! ## §1 Notes on slots, written and read -/

namespace Tab

/-- The signatures of the notes that a writing shows are those on keys that a label leads to. -/
theorem signature_shown (layout : Layout F) (notes : List (Note Rat)) :
    (shown layout notes).map Note.signature =
      (notes.map Note.signature).filter fun s => (layout.labelFor s.1).isSome := by
  rw [shown, List.filter_map]
  rfl

/-- Where each key has a label, all notes on keys are shown. -/
theorem shown_eq_self {layout : Layout F} {notes : List (Note Rat)}
    (hlabels : ∀ k ∈ layout.keys, (layout.labelFor k.index).isSome)
    (hkeys : ∀ n ∈ notes, ∃ k ∈ layout.keys, k.index = n.key) : shown layout notes = notes := by
  refine List.filter_eq_self.mpr fun n hn => ?_
  obtain ⟨k, hk, hindex⟩ := hkeys n hn
  rw [← hindex]
  exact hlabels k hk

/-- **Notes on slots that are written are read back as they are**, those that a label leads to. -/
theorem read_write_onSlots (layout : Layout F) (g : Grid Rat) (slots : List (Int × Nat)) :
    ∃ writing reading, write layout g (slots.map g.noteOn) = .ok writing ∧
      read layout g writing.text = .ok reading ∧ reading.skipped = [] ∧
      (reading.notes.map Note.signature).Perm
        ((shown layout (slots.map g.noteOn)).map Note.signature) := by
  obtain ⟨writing, reading, hwrite, hread, hskipped, -, hperm⟩ :=
    read_write layout g (slots.map g.noteOn)
  refine ⟨writing, reading, hwrite, hread, hskipped, ?_⟩
  have hsignatures := hperm.map Note.signature
  rw [signature_onStep] at hsignatures
  -- A note on a slot is already on the step nearest to it, and one step long
  have hsame : ∀ n ∈ shown layout (slots.map g.noteOn),
      (n.key, g.stepTime (roundHalfEven (n.time / g.step)), g.step) = n.signature := by
    intro n hn
    obtain ⟨slot, -, rfl⟩ := List.mem_map.mp (mem_shown.mp hn).1
    have hstep : roundHalfEven ((g.noteOn slot).time / g.step) = slot.2 :=
      g.roundHalfEven_stepTime slot.2
    rw [hstep]
    rfl
  rwa [List.map_congr_left hsame] at hsignatures

end Tab

/-! ## §2 The song of a transcription -/

namespace Transcription

variable [Analytic F]

theorem keyMap_rat {t : Transcription F Rat} (h : 0 < t.tempo) (thresholds : Thresholds F) :
    ∃ m, t.keyMap thresholds = .ok m ∧ m.layout = t.layout ∧ m.grid.cells = 1 ∧
      Grid.make t.tempo (.metre t.metre) = .ok m.grid := by
  have hmetre : (Metre.Source.metre t.metre : Metre.Source Rat).resolve = .ok t.metre := rfl
  obtain ⟨g, hmake, -, -, hcells⟩ := Grid.make_rat h hmetre
  refine ⟨⟨t.layout, g, thresholds.transpose, KeyMap.defaultCapture⟩, ?_, rfl, hcells, hmake⟩
  unfold keyMap
  rw [hmake]
  rfl

/-- Notes on slots become a song with their tablature. -/
theorem exists_song {t : Transcription F Rat} (h : 0 < t.tempo) {g : Grid Rat}
    (hgrid : Grid.make t.tempo (.metre t.metre) = .ok g) {notes : List (Note Rat)}
    (hnull : ∀ n ∈ notes, n.id.isNull = true) {writing : Tab.Writing}
    (hwrite : Tab.write t.layout g notes = .ok writing) (title : Text) (artist : Value Rat)
    (j : Journal) :
    ∃ s j', (t.song notes title artist).Gives j s j' ∧ s.tempo = .measured t.tempo ∧
      s.metre = t.metre ∧ s.tab = .str writing.text ∧
      s.notes.map Note.signature = (Song.inTime notes).map Note.signature := by
  obtain ⟨k, hwarn⟩ := exists_gives_warnAll writing.warnings j
  let d : Song.Draft Rat := {
    title, artist, notes
    tempo := .measured t.tempo
    metre := .metre t.metre
    tab := .str writing.text
    tines := .int t.layout.size }
  obtain ⟨s, j', hmake, htempo, hmetre, htab, hnotes⟩ :=
    Song.make_of_null (d := d) hnull (not_le.mpr h) rfl (Difficulty.ofValue_text .medium) k
  refine ⟨s, j', ?_, htempo, hmetre, htab, hnotes⟩
  refine gives_bind.mpr ⟨g, j, gives_of.mpr ⟨hgrid, rfl⟩, ?_⟩
  refine gives_bind.mpr ⟨writing.text, k, ?_, hmake⟩
  exact gives_bind.mpr ⟨writing, j, gives_of.mpr ⟨hwrite, rfl⟩,
    gives_bind.mpr ⟨(), k, hwarn, gives_pure.mpr ⟨rfl, rfl⟩⟩⟩

/-- **The tablature of a transcription agrees with its notes.** Whatever was heard and mapped, with
whatever thresholds, becomes a song of just these notes. Its tablature can be read on the same
layout and grid, nothing in it is skipped, and it has the notes of the song on keys that a label
leads to, each as often: all of them where each key has a label. -/
theorem tab_of_song_agrees (t : Transcription F Rat) (htempo : 0 < t.tempo)
    (thresholds : Thresholds F) :
    ∃ m, t.keyMap thresholds = .ok m ∧ ∀ heard notes, m.map heard = .ok notes →
      ∀ title artist j, ∃ s j' g text reading,
        (t.song notes title artist).Gives j s j' ∧
        (s.notes.map Note.signature).Perm (notes.map Note.signature) ∧
        s.tempo = .measured t.tempo ∧ s.metre = t.metre ∧ s.tab = .str text ∧
        Grid.make t.tempo (.metre t.metre) = .ok g ∧
        Tab.read t.layout g text = .ok reading ∧ reading.skipped = [] ∧
        (reading.notes.map Note.signature).Perm
          ((s.notes.filter fun n => (t.layout.labelFor n.key).isSome).map Note.signature) ∧
        ((∀ k ∈ t.layout.keys, (t.layout.labelFor k.index).isSome) →
          (reading.notes.map Note.signature).Perm (s.notes.map Note.signature)) := by
  obtain ⟨m, hmap, hlayout, hcells, hgrid⟩ := keyMap_rat htempo thresholds
  refine ⟨m, hmap, fun heard notes hnotes title artist j => ?_⟩
  -- The notes are on slots, so what is written of them is read back
  obtain ⟨slots, rfl, -, hslots⟩ := KeyMap.slots_of_map hcells hnotes
  obtain ⟨writing, reading, hwrite, hread, hskipped, hperm⟩ :=
    Tab.read_write_onSlots t.layout m.grid slots
  have hnull : ∀ n ∈ slots.map m.grid.noteOn, n.id.isNull = true := by
    intro n hn
    obtain ⟨slot, -, rfl⟩ := List.mem_map.mp hn
    rfl
  obtain ⟨s, j', hgives, htempo', hmetre, htab, hsame⟩ :=
    exists_song htempo hgrid hnull hwrite title artist j
  -- The song has put them in order, which counts for no note
  have hown : (s.notes.map Note.signature).Perm
      ((slots.map m.grid.noteOn).map Note.signature) := by
    rw [hsame]
    exact (Song.inTime_perm _).map Note.signature
  have hback : (reading.notes.map Note.signature).Perm
      ((Tab.shown t.layout s.notes).map Note.signature) := by
    refine hperm.trans ?_
    rw [Tab.signature_shown, Tab.signature_shown]
    exact hown.symm.filter _
  refine ⟨s, j', m.grid, writing.text, reading, hgives, hown, htempo', hmetre, htab, hgrid, hread,
    hskipped, hback, fun hlabels => ?_⟩
  -- With a label on each key no note is left out, since notes are on keys of the layout
  have hkeys : ∀ n ∈ slots.map m.grid.noteOn, ∃ k ∈ t.layout.keys, k.index = n.key := by
    intro n hn
    obtain ⟨slot, hslot, rfl⟩ := List.mem_map.mp hn
    obtain ⟨h, -, hput⟩ := (hslots slot).mp hslot
    rw [← hlayout]
    exact KeyMap.exists_key_of_slot hput
  rw [Tab.shown_eq_self hlabels hkeys] at hperm
  exact hperm.trans hown.symm

end Transcription

/-! ## §3 A transcription on keys that lie octaves apart -/

namespace Octaves

/-- A transcription onto three keys, of which the second has no label. -/
def transcription : Transcription Rat Rat where
  layout := layout
  thresholds := ⟨1 / 2, 1 / 4, 2, 0, 0, by decide +kernel, by decide +kernel, by decide⟩
  tempo := 120
  metre := .common

/-- Five heard notes: two are near to one key and one step, and one is near to no key. -/
def heard : List (HeardNote Rat Rat) := [
  ⟨81, 1, 3 / 2, 80, by decide +kernel⟩,
  ⟨69 + 1 / 5, 2 / 5, 1, 80, by decide +kernel⟩,
  ⟨69, 3 / 5, 1, 80, by decide +kernel⟩,
  ⟨60, 3 / 5, 1, 80, by decide +kernel⟩,
  ⟨93, 3 / 5, 1, 80, by decide +kernel⟩]

/-- What the five notes are mapped to. -/
theorem map_heard : ∃ m notes, transcription.keyMap transcription.thresholds = .ok m ∧
    m.map heard = .ok notes ∧
    notes.map Note.signature = [(0, 1 / 2, 1 / 2), (2, 1 / 2, 1 / 2), (1, 1, 1 / 2)] := by
  have hrun : (do
      let m ← transcription.keyMap transcription.thresholds
      let notes ← m.map heard
      return notes.map Note.signature) =
      .ok [(0, 1 / 2, 1 / 2), (2, 1 / 2, 1 / 2), (1, 1, 1 / 2)] := by cbv
  obtain ⟨m, hkeys, hrun⟩ := Except.bind_eq_ok.mp hrun
  obtain ⟨notes, hmap, hrun⟩ := Except.bind_eq_ok.mp hrun
  exact ⟨m, notes, hkeys, hmap, Except.ok.inj hrun⟩

/-- The five notes become three, of which the tablature has the two on keys with a label. -/
theorem tab_of_song_agrees_of_five_notes :
    0 < transcription.tempo ∧ ∃ m notes,
      transcription.keyMap transcription.thresholds = .ok m ∧ m.map heard = .ok notes ∧
      notes.map Note.signature = [(0, 1 / 2, 1 / 2), (2, 1 / 2, 1 / 2), (1, 1, 1 / 2)] ∧
      ∃ s j' g text reading, (transcription.song notes "A" .null).Gives default s j' ∧
        s.tab = .str text ∧ Grid.make transcription.tempo (.metre .common) = .ok g ∧
        Tab.read layout g text = .ok reading ∧ reading.skipped = [] ∧
        (reading.notes.map Note.signature).Perm [(0, 1 / 2, 1 / 2), (2, 1 / 2, 1 / 2)] := by
  have htempo : 0 < transcription.tempo := by decide +kernel
  obtain ⟨m, hmap, hagrees⟩ :=
    transcription.tab_of_song_agrees htempo transcription.thresholds
  obtain ⟨m', notes, hmap', hnotes, hsignatures⟩ := map_heard
  obtain rfl := Except.ok.inj (hmap'.symm.trans hmap)
  obtain ⟨s, j', g, text, reading, hsong, hown, -, -, htab, hgrid, hread, hskipped, hback, -⟩ :=
    hagrees heard notes hnotes "A" .null default
  refine ⟨htempo, m', notes, hmap, hnotes, hsignatures, s, j', g, text, reading, hsong, htab, hgrid,
    hread, hskipped, hback.trans ?_⟩
  have hfilter := hown.filter fun x => (layout.labelFor x.1).isSome
  rw [hsignatures] at hfilter
  have hlabelled : (s.notes.filter fun n => (layout.labelFor n.key).isSome).map Note.signature =
      (s.notes.map Note.signature).filter fun x => (layout.labelFor x.1).isSome :=
    Tab.signature_shown layout s.notes
  let all : List (Int × Rat × Rat) := [(0, 1 / 2, 1 / 2), (2, 1 / 2, 1 / 2), (1, 1, 1 / 2)]
  have hkept : all.filter (fun x => (layout.labelFor x.1).isSome) =
      [(0, 1 / 2, 1 / 2), (2, 1 / 2, 1 / 2)] := by cbv
  rw [hkept, ← hlabelled] at hfilter
  exact hfilter

end Octaves

end Lamella
