import Lamella.Proofs.Layout.Tuned
import Lamella.Proofs.Song.Owning
import Lamella.Proofs.Transcript.Mapping
import Lamella.Tab.Reading
import Lamella.Transcript.Passes

/-!
# New notes

Notes that were read from a tablature or heard in a recording are on keys of a layout, and have no
ids yet. It does not matter for this which scalars they are measured in, nor whether their times are
finite numbers.

## Main definitions

- `Note.IsNew`: a note on a key of a layout without an id.

## Main statements

- `Tab.isNew_of_read`: what is read from a tablature is new.
- `KeyMap.isNew_of_map`: so is what heard notes are put onto.
- `Transcription.isNew_of_notesOf`, `Transcription.isNew_of_listen`: so are the notes of a
  transcription.
-/

namespace Lamella

open Work

variable {F R : Type} [Scalar R]

/-! ## §1 Notes of a tablature -/

/-- A note on a key of a layout that has no id yet. -/
structure Note.IsNew (l : Layout F) (n : Note R) : Prop where
  key : ∃ k ∈ l.keys, k.index = n.key
  id : n.id.isNull = true

/-- Notes that were made are what they were made of. -/
theorem Note.parts_of_make {key : Int} {time duration : R} {id : Value R} {n : Note R}
    (h : Note.make key time duration id = .ok n) : n.key = key ∧ n.id = id := by
  unfold Note.make at h
  split at h
  · cases h
  · split at h
    · cases h
    · cases h
      exact ⟨rfl, rfl⟩

/-- **What is read from a tablature is new.** -/
theorem Tab.isNew_of_read {l : Layout F} {g : Grid R} {text : Text} {reading : Reading R}
    (h : read l g text = .ok reading) : ∀ n ∈ reading.notes, n.IsNew l := by
  unfold read at h
  -- The induction is on the tokens, from any step on
  generalize tokens text = ts at h
  generalize 0 = step at h
  induction ts generalizing step reading with
  | nil =>
    cases h
    exact nofun
  | cons t ts ih =>
    rw [readFrom] at h
    obtain ⟨sounds, hsounds, h⟩ := Except.bind_eq_ok.mp h
    obtain ⟨after, hafter, h⟩ := Except.bind_eq_ok.mp h
    cases h
    refine List.forall_mem_append.mpr ⟨fun n hn => ?_, ih _ hafter⟩
    obtain ⟨found, hfound, hleft⟩ := List.mem_filterMap.mp hn
    obtain ⟨⟨label, later⟩, -, hsound⟩ := (Except.mapM_eq_ok.mp hsounds).exists_left hfound
    dsimp only at hsound
    unfold sound at hsound
    split at hsound
    · cases hsound
      cases hleft
    · rename_i key hkey
      obtain ⟨m, hmake, hm⟩ := Except.bind_eq_ok.mp hsound
      cases hm
      cases hleft
      obtain ⟨hindex, hid⟩ := Note.parts_of_make hmake
      exact ⟨hindex ▸ l.exists_key_of_resolveIn hkey, by rw [hid]; rfl⟩

/-! ## §2 Heard notes -/

namespace KeyMap

/-- Notes that are moved onto a grid stay on their keys. -/
theorem isNew_of_quantize {l : Layout F} {g : Grid R} {notes moved : List (Note R)}
    (h : g.quantize notes = .ok moved) (hnotes : ∀ n ∈ notes, n.IsNew l) : ∀ n ∈ moved, n.IsNew l := by
  intro n hn
  obtain ⟨q, hq, hmoved⟩ := (Except.mapM_eq_ok.mp h).exists_left hn
  unfold Grid.quantizeNote at hmoved
  simp only [Except.bind_eq_ok] at hmoved
  obtain ⟨time, -, duration, -, cell, -, hmake⟩ := hmoved
  obtain ⟨hkey, hid⟩ := Note.parts_of_make hmake
  exact ⟨hkey ▸ (hnotes q hq).key, hid ▸ (hnotes q hq).id⟩

theorem isNew_of_firstOnSteps {l : Layout F} {g : Grid R} {seen : List (Int × Int)}
    {notes kept : List (Note R)} (h : firstOnSteps g seen notes = .ok kept)
    (hnotes : ∀ n ∈ notes, n.IsNew l) : ∀ n ∈ kept, n.IsNew l := by
  induction notes generalizing seen kept with
  | nil =>
    cases h
    exact nofun
  | cons n rest ih =>
    obtain ⟨hn, hrest⟩ := List.forall_mem_cons.mp hnotes
    rw [firstOnSteps] at h
    obtain ⟨step, -, h⟩ := Except.bind_eq_ok.mp h
    dsimp only at h
    split at h
    · -- A note on a step that was seen is dropped
      exact ih h hrest
    · obtain ⟨first, hmake, h⟩ := Except.bind_eq_ok.mp h
      obtain ⟨others, hothers, h⟩ := Except.bind_eq_ok.mp h
      cases h
      obtain ⟨hkey, hid⟩ := Note.parts_of_make hmake
      exact List.forall_mem_cons.mpr
        ⟨⟨hkey ▸ hn.key, by rw [hid]; rfl⟩, ih hothers hrest⟩

section

variable [Analytic F] {m : KeyMap F R}

theorem isNew_of_place {heard : HeardNote F R} {n : Note R} (h : m.place heard = .ok (some n)) :
    n.IsNew m.layout := by
  obtain ⟨index, hindex, hplaced⟩ := Except.bind_eq_ok.mp h
  cases index with
  | none => cases hplaced
  | some key =>
    obtain ⟨q, hmake, hq⟩ := Except.bind_eq_ok.mp hplaced
    cases hq
    obtain ⟨hkey, hid⟩ := Note.parts_of_make hmake
    exact ⟨hkey ▸ exists_key_of_keyForPitch hindex, by rw [hid]; rfl⟩

/-- **What heard notes are put onto is new.** -/
theorem isNew_of_map {heard : List (HeardNote F R)} {notes : List (Note R)}
    (h : m.map heard = .ok notes) : ∀ n ∈ notes, n.IsNew m.layout := by
  unfold map at h
  simp only [Except.bind_eq_ok] at h
  obtain ⟨placed, hplaced, moved, hmoved, kept, hkept, h⟩ := h
  cases h
  have hnew : ∀ n ∈ placed.filterMap id, n.IsNew m.layout := by
    intro n hn
    obtain ⟨found, hfound, rfl⟩ := List.mem_filterMap.mp hn
    obtain ⟨heard, -, hplace⟩ := (Except.mapM_eq_ok.mp hplaced).exists_left hfound
    exact isNew_of_place hplace
  have hkept' := isNew_of_firstOnSteps hkept (isNew_of_quantize hmoved hnew)
  exact fun n hn => hkept' n ((Order.sortBy_perm _ _).mem_iff.mp hn)

end

end KeyMap

/-! ## §3 Notes of a transcription -/

namespace Transcription

variable [Analytic F] {t : Transcription F R} {notes : List (Note R)}

theorem layout_of_keyMap {thresholds : Thresholds F} {m : KeyMap F R}
    (h : t.keyMap thresholds = .ok m) : m.layout = t.layout := by
  obtain ⟨g, -, hm⟩ := Except.bind_eq_ok.mp h
  cases hm
  rfl

/-- The notes of a transcription are new. -/
theorem isNew_of_notesOf {heard : List (HeardNote F R)} (h : t.notesOf heard = .ok notes) :
    ∀ n ∈ notes, n.IsNew t.layout := by
  obtain ⟨m, hm, h⟩ := Except.bind_eq_ok.mp h
  obtain ⟨mapped, hmapped, h⟩ := Except.bind_eq_ok.mp h
  have hnew := KeyMap.isNew_of_map hmapped
  rw [layout_of_keyMap hm] at hnew
  cases mapped with
  | nil => cases h
  | cons n rest =>
    cases h
    exact hnew

theorem isNew_of_pass {thresholds : Thresholds F} {m : KeyMap F R}
    (hm : t.keyMap thresholds = .ok m) {heard : Except Fault (List (HeardNote F R))}
    (h : heard >>= m.map = .ok notes) : ∀ n ∈ notes, n.IsNew t.layout := by
  obtain ⟨found, -, hmap⟩ := Except.bind_eq_ok.mp h
  rw [← layout_of_keyMap hm]
  exact KeyMap.isNew_of_map hmap

/-- So are those of a pass over a recording, be it the first or the second. -/
theorem isNew_of_listen {ear : Nat → Thresholds F → Except Fault (List (HeardNote F R))}
    {passes : Passes F R} {j j' : Journal} (h : (t.listen ear).Gives j passes j')
    (hnotes : passes.result = .ok notes) : ∀ n ∈ notes, n.IsNew t.layout := by
  unfold listen at h
  cases hm : t.keyMap t.thresholds with
  | error fault =>
    rw [hm] at h
    obtain ⟨rfl, -⟩ := gives_pure.mp h
    cases hnotes
  | ok m =>
    rw [hm] at h
    dsimp only at h
    split at h
    · -- The first pass had no note that could be played
      obtain ⟨_, k, -, h⟩ := gives_bind.mp h
      obtain ⟨rfl, -⟩ := gives_pure.mp h
      unfold listenAgain at hnotes
      cases hrelaxed : t.thresholds.relaxed with
      | error fault =>
        rw [hrelaxed] at hnotes
        cases hnotes
      | ok relaxed =>
        rw [hrelaxed] at hnotes
        dsimp only at hnotes
        cases hm' : t.keyMap relaxed with
        | error fault =>
          rw [hm'] at hnotes
          cases hnotes
        | ok m' =>
          rw [hm'] at hnotes
          dsimp only at hnotes
          split at hnotes
          · cases hnotes
          · exact isNew_of_pass hm' hnotes
    · obtain ⟨rfl, -⟩ := gives_pure.mp h
      exact isNew_of_pass hm hnotes

end Transcription

end Lamella
