import Lamella.Proofs.Layout.Nearest
import Lamella.Proofs.Transcript.Mapping
import Mathlib.Data.List.Perm.Basic

/-!
# Heard notes as a set of slots

What heard notes are mapped to depends on nothing but the slots they are put onto: each slot has one
note, and the notes stand strictly in the order of time and key. Heard notes in another order, or
told twice, are mapped to the same notes. All this holds as long as what is transposed by is itself
a scalar; an integer beyond the scalars stops the first note.

## Main statements

- `KeyMap.eq_of_same_slots`: slots in order are told by their members.
- `KeyMap.slot_eq_some_iff`: the slot of a heard note is its key and its step.
- `KeyMap.map_of_large_transpose`: what becomes of notes that cannot be transposed.
- `KeyMap.map_is_set`: heard notes are mapped as the set of their slots.
-/

namespace Lamella

namespace KeyMap

variable {F : Type}

/-! ## §1 Slots in order -/

theorem Precedes.ne {s t : Int × Nat} (h : Precedes s t) : s ≠ t := by
  rintro rfl
  unfold Precedes at h
  omega

/-- **Slots in order are told by their members.** -/
theorem eq_of_same_slots {slots slots' : List (Int × Nat)} (h : slots.Pairwise Precedes)
    (h' : slots'.Pairwise Precedes) (hmem : ∀ slot, slot ∈ slots ↔ slot ∈ slots') :
    slots = slots' := by
  have hperm : slots.Perm slots' :=
    (List.perm_ext_iff_of_nodup (h.imp Precedes.ne) (h'.imp Precedes.ne)).mpr hmem
  refine hperm.eq_of_pairwise (fun s t _ _ hst hts => ?_) h h'
  unfold Precedes at hst hts
  omega

/-- Notes of slots in order stand strictly in the order of time and key. -/
theorem notes_pairwise (g : Grid Rat) {slots : List (Int × Nat)} (h : slots.Pairwise Precedes) :
    (slots.map g.noteOn).Pairwise fun a b => a.time < b.time ∨ a.time = b.time ∧ a.key < b.key := by
  refine List.pairwise_map.mpr (h.imp fun {s t} hst => ?_)
  rcases hst with hstep | ⟨hstep, hkey⟩
  · exact .inl (Grid.time_noteOn_lt.mpr hstep)
  · exact .inr ⟨Grid.time_noteOn_eq.mpr hstep, hkey⟩

/-! ## §2 The slot of a heard note -/

section

variable [Analytic F] {m : KeyMap F Rat} {n : HeardNote F Rat}

/-- **The slot of a heard note is its key and its step.** -/
theorem slot_eq_some_iff (honset : 0 ≤ n.onset) {key : Int} {step : Nat} :
    m.slot? n = some (key, step) ↔
      m.keyForPitch n.pitch = .ok (some key) ∧ m.grid.stepIndex n.onset = .ok step := by
  have hindex : 0 ≤ roundHalfEven (n.onset / m.grid.step) :=
    roundHalfEven_nonneg (div_nonneg honset m.grid.step_pos.le)
  rw [m.grid.stepIndex_rat, slot?]
  split
  · rename_i found hfound
    rw [hfound, Option.some.injEq, Prod.mk.injEq, Except.ok.injEq, Except.ok.injEq,
      Option.some.injEq]
    omega
  · rename_i hnone
    exact ⟨fun h => (by cases h), fun h => absurd h.1 (hnone key)⟩

/-- A heard note on a key is on some step of it. -/
theorem exists_slot (honset : 0 ≤ n.onset) {key step : Int}
    (hkey : m.keyForPitch n.pitch = .ok (some key))
    (hstep : m.grid.stepIndex n.onset = .ok step) :
    ∃ i : Nat, step = i ∧ m.slot? n = some (key, i) := by
  have hnonneg : 0 ≤ step := by
    rw [m.grid.stepIndex_rat] at hstep
    rw [← Except.ok.inj hstep]
    exact roundHalfEven_nonneg (div_nonneg honset m.grid.step_pos.le)
  obtain ⟨i, rfl⟩ := Int.eq_ofNat_of_zero_le hnonneg
  exact ⟨i, rfl, (slot_eq_some_iff honset).mpr ⟨hkey, hstep⟩⟩

/-! ## §3 Notes that are transposed -/

theorem exists_keyForPitch {shift : F} (hshift : Value.scalarOfInt m.transpose = .ok shift)
    (pitch : F) : ∃ key, m.keyForPitch pitch = .ok key := by
  unfold keyForPitch
  rw [hshift]
  exact ⟨_, rfl⟩

theorem map_nil : m.map [] = .ok [] := by
  unfold map
  show Except.ok (Order.sortBy _ []) = _
  rw [Order.sortBy_eq_mergeSort (by simp), List.mergeSort_nil]

/-- What cannot be transposed stops the first note. -/
theorem map_of_large_transpose {fault : Fault}
    (hshift : (Value.scalarOfInt m.transpose : Except Fault F) = .error fault)
    (rest : List (HeardNote F Rat)) : m.map (n :: rest) = .error fault := by
  have hkey : m.keyForPitch n.pitch = .error fault := by
    unfold keyForPitch
    rw [hshift]
    rfl
  unfold map place
  rw [List.mapM_cons, hkey]
  rfl

end

/-! ## §4 The mapping as a set -/

variable [Analytic F]

/-- **Heard notes are mapped as the set of their slots.** On every layout, tempo and metre, and with
every capture, if the number of semitones transposed by is a scalar: every pitch has an answer, and
heard notes from zero on are mapped to notes one step long, strictly in the order of time and key.
Each is on the key and at the time of the step of a heard note, and for each heard note with a key
there is just one. Heard notes with the same members are mapped to the same notes. A number of
semitones that is no scalar stops the mapping at the first note. -/
theorem map_is_set (layout : Layout F) {tempo : Rat} (htempo : 0 < tempo)
    {source : Metre.Source Rat} {metre : Metre} (hmetre : source.resolve = .ok metre)
    (transpose : Int) (capture : F) :
    ∃ g, Grid.make tempo source = .ok g ∧
      let m : KeyMap F Rat := ⟨layout, g, transpose, capture⟩
      (∀ shift : F, Value.scalarOfInt transpose = .ok shift →
        (∀ pitch, ∃ key, m.keyForPitch pitch = .ok key) ∧
        ∀ heard : List (HeardNote F Rat), (∀ n ∈ heard, 0 ≤ n.onset) →
          ∃ notes, m.map heard = .ok notes ∧
            (notes.Pairwise fun a b => a.time < b.time ∨ a.time = b.time ∧ a.key < b.key) ∧
            (∀ a ∈ notes, a.duration = g.step ∧ ∃ n ∈ heard, ∃ step : Int,
              m.keyForPitch n.pitch = .ok (some a.key) ∧ g.stepIndex n.onset = .ok step ∧
                a.time = step * g.step) ∧
            (∀ n ∈ heard, ∀ key step : Int, m.keyForPitch n.pitch = .ok (some key) →
              g.stepIndex n.onset = .ok step →
                ∃! a, a ∈ notes ∧ a.key = key ∧ a.time = step * g.step) ∧
            ∀ other, (∀ n, n ∈ other ↔ n ∈ heard) → m.map other = .ok notes) ∧
      ∀ fault, (Value.scalarOfInt transpose : Except Fault F) = .error fault →
        m.map [] = .ok [] ∧ ∀ n rest, m.map (n :: rest) = .error fault := by
  obtain ⟨g, hmake, -, -, hcells⟩ := Grid.make_rat htempo hmetre
  refine ⟨g, hmake, ?_⟩
  intro m
  have hcells' : m.grid.cells = 1 := hcells
  refine ⟨fun shift hshift => ?_, fun fault hfault =>
    ⟨map_nil, fun n rest => map_of_large_transpose hfault rest⟩⟩
  have hkeys : ∀ pitch, ∃ key, m.keyForPitch pitch = .ok key := exists_keyForPitch hshift
  refine ⟨hkeys, fun heard honset => ?_⟩
  obtain ⟨notes, hmap⟩ := exists_map hcells' (fun n _ => hkeys n.pitch) honset
  obtain ⟨slots, rfl, horder, hslots⟩ := slots_of_map hcells' hmap
  refine ⟨_, hmap, notes_pairwise g horder, fun a ha => ?_, fun n hn key step hkey hstep => ?_,
    fun other hother => ?_⟩
  · -- A note is that of a slot, which some heard note is put onto
    obtain ⟨⟨key, i⟩, hslot, rfl⟩ := List.mem_map.mp ha
    obtain ⟨n, hn, hput⟩ := (hslots _).mp hslot
    obtain ⟨hkey, hstep⟩ := (slot_eq_some_iff (honset n hn)).mp hput
    exact ⟨rfl, n, hn, i, hkey, hstep, rfl⟩
  · obtain ⟨i, rfl, hput⟩ := exists_slot (honset n hn) hkey hstep
    have hslot : (key, i) ∈ slots := (hslots _).mpr ⟨n, hn, hput⟩
    refine ⟨g.noteOn (key, i), ⟨List.mem_map_of_mem hslot, rfl, rfl⟩, ?_⟩
    rintro a ⟨ha, hakey, hatime⟩
    -- Notes of other slots are on other keys or at other times
    obtain ⟨⟨key', i'⟩, -, rfl⟩ := List.mem_map.mp ha
    have hi : i' = i := (Grid.time_noteOn_eq (t := (key, i))).mp hatime
    have hkey' : key' = key := hakey
    rw [hi, hkey']
  · obtain ⟨notes', hmap'⟩ := exists_map hcells' (fun n _ => hkeys n.pitch)
      fun n hn => honset n ((hother n).mp hn)
    obtain ⟨slots', rfl, horder', hslots'⟩ := slots_of_map hcells' hmap'
    have hsame : slots' = slots := eq_of_same_slots horder' horder fun slot => by
      rw [hslots, hslots']
      simp only [hother]
    rw [hmap', hsame]

/-- A note that is to be transposed by an integer beyond the scalars is not mapped to anything. -/
theorem not_mapped_beyond_scalars : ∃ (m : KeyMap Float Rat) (heard : List (HeardNote Float Rat)),
    Grid.make 120 (.metre .common) = .ok m.grid ∧ m.transpose = 10 ^ 400 ∧
      (∀ n ∈ heard, 0 ≤ n.onset) ∧ ∀ notes, m.map heard ≠ .ok notes := by
  have hmetre : (Metre.Source.metre .common : Metre.Source Rat).resolve = .ok .common := rfl
  obtain ⟨g, hmake, -⟩ := Grid.make_rat (by norm_num : (0 : Rat) < 120) hmetre
  obtain ⟨large, hlarge, hreading⟩ : ∃ n : Int, n = 10 ^ 400 ∧
      Scalar.reading (Scalar.ofInt n : Float) = .infinite false := ⟨_, rfl, by decide +kernel⟩
  have hshift : (Value.scalarOfInt large : Except Fault Float) = .error .tooLarge := by
    simp only [Value.scalarOfInt, Scalar.ofInt?, hreading]
  let m : KeyMap Float Rat := ⟨Layout.tuningA, g, large, KeyMap.defaultCapture⟩
  let n : HeardNote Float Rat := ⟨60, 0, 1, HeardNote.defaultVelocity, by decide +kernel⟩
  have hgrid : Grid.make 120 (.metre .common) = .ok m.grid := hmake
  have htranspose : m.transpose = 10 ^ 400 := hlarge
  have honset : ∀ n' ∈ [n], 0 ≤ n'.onset := fun n' hn' => by rw [List.mem_singleton.mp hn']
  have hstopped := map_of_large_transpose (m := m) (n := n) hshift []
  have hnone : ∀ notes, m.map [n] ≠ .ok notes := by
    intro notes hnotes
    rw [hstopped] at hnotes
    cases hnotes
  exact ⟨m, [n], hgrid, htranspose, honset, hnone⟩

end KeyMap

/-! ## §5 Two slots -/

namespace Octaves

/-- Three heard notes, of which the first two are put onto one slot, behind that of the third. -/
def threeHeard : List (HeardNote Rat Rat) := [
  ⟨69, 3 / 5, 4 / 5, 80, by decide +kernel⟩,
  ⟨69 + 1 / 5, 2 / 5, 9 / 10, 80, by decide +kernel⟩,
  ⟨81, 0, 1 / 2, 80, by decide +kernel⟩]

/-- The other way round, and told twice, the three notes are mapped to the same notes. -/
theorem map_is_set_of_three_notes :
    ∃ g : Grid Rat, Grid.make 120 (.metre .common) = .ok g ∧
      let m : KeyMap Rat Rat := ⟨layout, g, 0, 7 / 10⟩
      (∀ n ∈ threeHeard, 0 ≤ n.onset) ∧ ∃ notes, m.map threeHeard = .ok notes ∧
        m.map threeHeard.reverse = .ok notes ∧ m.map (threeHeard ++ threeHeard) = .ok notes := by
  have hmetre : (Metre.Source.metre .common : Metre.Source Rat).resolve = .ok .common := rfl
  obtain ⟨g, hmake, hmapped, -⟩ :=
    KeyMap.map_is_set layout (by norm_num : (0 : Rat) < 120) hmetre 0 (7 / 10)
  have honset : ∀ n ∈ threeHeard, 0 ≤ n.onset := by decide +kernel
  obtain ⟨notes, hmap, -, -, -, hother⟩ := (hmapped 0 rfl).2 threeHeard honset
  exact ⟨g, hmake, honset, notes, hmap, hother _ fun n => List.mem_reverse,
    hother _ fun n => by simp⟩

end Octaves

end Lamella
