import Lamella.Proofs.Song.Composed
import Lamella.Proofs.Tab.Canonical
import Mathlib.Data.List.Sort

/-!
# Writing notes in any order

Notes are sorted before they are written, but the sort leaves notes at one time and on one key as
they come, and so they come in the order in which they were given. Such notes have one label and are
put on one step, so nothing of that order is left in the text. What is left of notes in a text and
its warning can be said without any order of them.

## Main definitions

- `Grid.placed`: the key of a note and the step that it is put on, which is all that is written of it.
- `Tab.IsRow`: the notes that are written on a step, in their order.
- `Tab.Shows`: what a text and warnings show of notes.
- `Tab.IsWritten`: notes of which the writing is a text that shows them, with such warnings.

## Main statements

- `Tab.map_placed_inOrder`: the same notes come with the same keys on the same steps.
- `Tab.write_eq_of_same`: they have the same writing, or fail to be written in the same way.
- `Tab.shows_of_write`: a writing shows the notes.
- `Tab.writing_ignores_order`: the order of notes makes no difference to what is written of them, in
  exact arithmetic and in that of machines.
-/

namespace Lamella

variable {F R : Type} [Scalar R]

/-! ## §1 What a writing looks at -/

/-- The key of a note, and the step that it is put on. -/
def Grid.placed (g : Grid R) (n : Note R) : Int × Except Fault Int := (n.key, g.stepIndex n.time)

namespace Tab

/-- The writing of keys and of the steps that they are put on, as far as these were found. -/
def writePlaced (layout : Layout F) (perLine : Nat) (places : List (Int × Except Fault Int)) :
    Except Fault Writing := do
  let entries ← places.mapM fun (key, step) =>
    match Layout.labelIn layout.addresses key with
    | none => .ok none
    | some label => return some (← step, label)
  return {
    text := entriesText perLine (entries.filterMap id)
    unlabelled := (places.filter fun (key, _) =>
      (Layout.labelIn layout.addresses key).isNone).map Prod.fst }

/-- A writing looks at nothing but the keys of notes and the steps that they are put on. -/
theorem write_eq_writePlaced (layout : Layout F) (g : Grid R) (notes : List (Note R)) :
    write layout g notes =
      writePlaced layout g.metre.numerator.toNat ((inOrder notes).map g.placed) := by
  rw [write, writePlaced, List.mapM_map, List.filter_map, List.map_map]
  rfl

variable {layout : Layout F} {g : Grid R} {notes notes' : List (Note R)}

/-- The same notes have the same times. -/
theorem timed_of_same (hsame : (notes.map Note.signature).Perm (notes'.map Note.signature))
    (htimed : ∀ n ∈ notes, n.time ≤ n.time) : ∀ n ∈ notes', n.time ≤ n.time := by
  intro n hn
  obtain ⟨m, hm, hsignature⟩ :=
    List.mem_map.mp (hsame.mem_iff.mpr (List.mem_map_of_mem (f := Note.signature) hn))
  have htime : m.time = n.time := congrArg (fun s => s.2.1) hsignature
  rw [← htime]
  exact htimed m hm

/-- **The same notes come with the same keys on the same steps**, in whatever order they are
given. -/
theorem map_placed_inOrder [Scalar.Ranked R] (halike : g.PutsAlike)
    (htimed : ∀ n ∈ notes, n.time ≤ n.time)
    (hsame : (notes.map Note.signature).Perm (notes'.map Note.signature)) :
    (inOrder notes).map g.placed = (inOrder notes').map g.placed := by
  have hperm (ns : List (Note R)) :
      ((inOrder ns).map Note.signature).Perm (ns.map Note.signature) :=
    (inOrder_perm ns).map Note.signature
  have hsorted {ns : List (Note R)} (h : ∀ n ∈ ns, n.time ≤ n.time) :
      ((inOrder ns).map Note.signature).Pairwise fun s t =>
        s.2.1 ≤ t.2.1 ∧ (t.2.1 ≤ s.2.1 → s.1 ≤ t.1) :=
    List.pairwise_map.mpr (inOrder_pairwise h)
  -- The same notes may bear different ids, so it is signatures that are compared
  have hread := Order.map_eq_of_perm (f := fun s : Int × R × R => (s.1, g.stepIndex s.2.1))
    ((hperm notes).trans (hsame.trans (hperm notes').symm)) (hsorted htimed)
    (hsorted (timed_of_same hsame htimed)) (by
      intro s hs t _ hst hts
      obtain ⟨n, -, rfl⟩ := List.mem_map.mp hs
      -- Two notes that could change places are at one time and on one key
      have hkey := le_antisymm (hst.2 hts.1) (hts.2 hst.1)
      exact Prod.ext hkey (halike _ _ n.time_not_neg hst.1 hts.1))
  rw [List.map_map, List.map_map] at hread
  exact hread

/-- **A writing is the same of the same notes**, in whatever order they are given, and so is the
fault where there is none. -/
theorem write_eq_of_same [Scalar.Ranked R] (halike : g.PutsAlike)
    (htimed : ∀ n ∈ notes, n.time ≤ n.time)
    (hsame : (notes.map Note.signature).Perm (notes'.map Note.signature)) :
    write layout g notes = write layout g notes' := by
  rw [write_eq_writePlaced, write_eq_writePlaced, map_placed_inOrder halike htimed hsame]

/-! ## §2 What a writing shows -/

/-- The notes of a step: those with a label that are put on it, the earlier ones first, and at one
time those on lower keys first. -/
structure IsRow (layout : Layout F) (g : Grid R) (notes : List (Note R)) (step : Nat)
    (row : List (Note R)) : Prop where
  perm : row.Perm (notes.filter fun n =>
    (layout.labelFor n.key).isSome && decide (g.stepIndex n.time = .ok (step : Int)))
  pairwise : row.Pairwise fun a b => a.time ≤ b.time ∧ (b.time ≤ a.time → a.key ≤ b.key)

/-- What a text and warnings show of notes. -/
structure Shows (layout : Layout F) (g : Grid R) (notes : List (Note R)) (text : Text)
    (warnings : List Warning) : Prop where
  /-- Each step, up to the last that has notes, is a token of their labels. -/
  exists_rows : ∃ (rows : Nat → List (Note R)) (count : Nat),
    (∀ step, IsRow layout g notes step (rows step)) ∧
    (∀ step, count ≤ step ↔ ∀ later, step ≤ later → rows later = []) ∧
    text = measureText g.metre.numerator.toNat 0 ((List.range count).map fun step =>
      stepText ((rows step).filterMap fun n => layout.labelFor n.key))
  /-- One warning counts the notes without a label, and names each of their keys, in order. -/
  exists_keys : ∃ keys : List Int, keys.Pairwise (· < ·) ∧
    (∀ key, key ∈ keys ↔ layout.labelFor key = none ∧ ∃ n ∈ notes, n.key = key) ∧
    warnings = if keys = [] then []
      else [.unlabelled (notes.countP fun n => (layout.labelFor n.key).isNone) keys]

/-- The notes that are written on a step. -/
def rowOf (layout : Layout F) (g : Grid R) (notes : List (Note R)) (step : Nat) : List (Note R) :=
  (inOrder notes).filter fun n =>
    (layout.labelFor n.key).isSome && decide (g.stepIndex n.time = .ok (step : Int))

theorem isRow_rowOf [Scalar.Ranked R] (htimed : ∀ n ∈ notes, n.time ≤ n.time) (step : Nat) :
    IsRow layout g notes step (rowOf layout g notes step) where
  perm := (inOrder_perm notes).filter _
  pairwise := (inOrder_pairwise htimed).filter _

/-- The keys of a step are those of its notes. -/
theorem keysOn_placesOf (hstart : g.StartsAtZero)
    (hindex : ∀ n ∈ notes, (layout.labelFor n.key).isSome → ∃ i, g.stepIndex n.time = .ok i)
    (step : Nat) :
    keysOn (placesOf layout g notes) step = (rowOf layout g notes step).map Note.key := by
  let written := (inOrder notes).filter fun n => (layout.labelFor n.key).isSome
  have hrow : rowOf layout g notes step =
      written.filter fun n => decide (g.stepIndex n.time = .ok (step : Int)) := by
    rw [List.filter_filter]
    simp only [rowOf, Bool.and_comm]
  -- The step that was found for a written note is the one that it is put on
  have hiff {n : Note R} (hn : n ∈ written) :
      g.indexOf n = step ↔ g.stepIndex n.time = .ok (step : Int) := by
    obtain ⟨hn, hlabel⟩ := List.mem_filter.mp hn
    obtain ⟨i, hi⟩ := hindex n ((inOrder_perm notes).mem_iff.mp hn) hlabel
    rw [hi, Except.ok.injEq, ← Grid.indexOf_eq hstart hi, Int.natCast_inj]
  calc keysOn (placesOf layout g notes) step
      = written.filterMap fun n => if g.indexOf n = step then some n.key else none :=
        List.filterMap_map
    _ = written.filterMap fun n =>
          if decide (g.stepIndex n.time = .ok (step : Int)) then some n.key else none := by
        refine List.filterMap_congr fun n hn => ?_
        simp only [hiff hn, decide_eq_true_eq]
    _ = (rowOf layout g notes step).map Note.key := by
        rw [hrow, ← List.filterMap_eq_map]
        exact List.filterMap_filter.symm

/-- The keys without a label that a writing was given, in some order. -/
theorem unlabelled_perm {w : Writing} (h : write layout g notes = .ok w) :
    w.unlabelled.Perm ((notes.filter fun n => (layout.labelFor n.key).isNone).map Note.key) := by
  obtain ⟨entries, -, h⟩ := Except.bind_eq_ok.mp h
  obtain rfl := Except.ok.inj h
  exact ((inOrder_perm notes).filter _).map Note.key

/-- The warning of a writing counts the keys without a label, and names each of them in order. -/
theorem Writing.exists_keys (w : Writing) : ∃ keys : List Int, keys.Pairwise (· < ·) ∧
    (∀ key, key ∈ keys ↔ key ∈ w.unlabelled) ∧
    w.warnings = if keys = [] then [] else [.unlabelled w.unlabelled.length keys] := by
  obtain ⟨hnodup, hmem⟩ := Order.dedup_spec w.unlabelled
  -- The keys are named once each, and then sorted
  set once := Order.dedup (· == ·) w.unlabelled
  have hsort := List.mergeSort_perm once fun a b => decide (a ≤ b)
  refine ⟨once.mergeSort fun a b => decide (a ≤ b), ?_, fun key => ?_, ?_⟩
  · have hle := List.pairwise_mergeSort' (· ≤ ·) once
    have hne := hsort.nodup_iff.mpr hnodup
    -- Keys that do not fall and are not the same rise
    exact (hle.and hne).imp fun h => lt_of_le_of_ne h.1 h.2
  · rw [hsort.mem_iff, hmem]
  · have hnil : once.mergeSort (fun a b => decide (a ≤ b)) = [] ↔ w.unlabelled = [] := by
      simp only [List.eq_nil_iff_forall_not_mem, hsort.mem_iff, hmem]
    simp only [hnil]
    rfl

/-- **A writing shows the notes.** -/
theorem shows_of_write [Scalar.Ranked R] (hstart : g.StartsAtZero)
    (htimed : ∀ n ∈ notes, n.time ≤ n.time) {w : Writing} (h : write layout g notes = .ok w) :
    Shows layout g notes w.text w.warnings := by
  obtain ⟨htext, hindex⟩ := text_of_write hstart h
  have hlabels : AllLabelled layout (placesOf layout g notes) := allLabelled_placesOf
  -- The text was shown to be that of the keys on steps, and these are the keys of the rows
  have hkeys := keysOn_placesOf hstart hindex
  refine ⟨⟨rowOf layout g notes, stepsIn layout (placesOf layout g notes), isRow_rowOf htimed,
    fun step => ?_, ?_⟩, ?_⟩
  · simp only [stepsIn_le_iff hlabels, hkeys, List.map_eq_nil_iff]
  · rw [htext, placesText, entriesText]
    simp only [labelsAt_labelsOf, hkeys, List.filterMap_map]
    rfl
  · have hleft := unlabelled_perm h
    obtain ⟨keys, hsorted, hmem, hwarnings⟩ := w.exists_keys
    refine ⟨keys, hsorted, fun key => ?_, ?_⟩
    · simp only [hmem, hleft.mem_iff, List.mem_map, List.mem_filter, Option.isNone_iff_eq_none]
      constructor
      · rintro ⟨n, ⟨hn, hnone⟩, rfl⟩
        exact ⟨hnone, n, hn, rfl⟩
      · rintro ⟨hnone, n, hn, rfl⟩
        exact ⟨n, ⟨hn, hnone⟩, rfl⟩
    · rw [hwarnings, hleft.length_eq, List.length_map, List.countP_eq_length_filter]

/-! ## §3 The same notes in any order -/

/-- Notes of which the writing is a text that shows them, with warnings that do. -/
structure IsWritten (layout : Layout F) (g : Grid R) (notes : List (Note R)) (text : Text)
    (warnings : List Warning) : Prop where
  shows_notes : Shows layout g notes text warnings
  gives : ∀ j : Journal,
    (writeWarning layout g notes).Gives j text { j with given := warnings.reverse ++ j.given }

theorem isWritten_of_write [Scalar.Ranked R] (hstart : g.StartsAtZero)
    (htimed : ∀ n ∈ notes, n.time ≤ n.time) {w : Writing} (h : write layout g notes = .ok w) :
    IsWritten layout g notes w.text w.warnings where
  shows_notes := shows_of_write hstart htimed h
  gives j := by
    unfold writeWarning
    simp only [Work.gives_bind, Work.gives_of, Work.gives_warnAll, Work.gives_pure]
    exact ⟨w, j, ⟨h, rfl⟩, (), _, rfl, rfl, rfl⟩

/-- The same notes are written in the same way, if each of them with a label can be put on a step. -/
theorem exists_isWritten_of_same [Scalar.Ranked R] (hstart : g.StartsAtZero)
    (halike : g.PutsAlike) (htimed : ∀ n ∈ notes, n.time ≤ n.time)
    (hindex : ∀ n ∈ notes, (layout.labelFor n.key).isSome → ∃ i, g.stepIndex n.time = .ok i)
    (hsame : (notes.map Note.signature).Perm (notes'.map Note.signature)) :
    ∃ text warnings, IsWritten layout g notes text warnings ∧
      IsWritten layout g notes' text warnings := by
  obtain ⟨w, hw⟩ := exists_write hindex
  have hw' : write layout g notes' = .ok w := by rw [← write_eq_of_same halike htimed hsame, hw]
  exact ⟨w.text, w.warnings, isWritten_of_write hstart htimed hw,
    isWritten_of_write hstart (timed_of_same hsame htimed) hw'⟩

/-- **The order of notes makes no difference to what is written of them.** Of the same notes, each
as often and with whatever ids, the same text is written, with the same warning, and it shows these
notes. In exact arithmetic this is so of all notes. In machine arithmetic the times have to be
numbers; then the outcome is the same also where it is a fault, and there is a text if each note
with a label can be put on a step. -/
theorem writing_ignores_order (layout : Layout F) :
    (∀ (g : Grid Rat) (notes notes' : List (Note Rat)),
      (notes.map Note.signature).Perm (notes'.map Note.signature) →
      ∃ text warnings, IsWritten layout g notes text warnings ∧
        IsWritten layout g notes' text warnings) ∧
    ∀ (g : Grid Float) (notes notes' : List (Note Float)), (∀ n ∈ notes, n.time ≤ n.time) →
      (notes.map Note.signature).Perm (notes'.map Note.signature) →
      writeWarning layout g notes = writeWarning layout g notes' ∧
      ((∀ n ∈ notes, (layout.labelFor n.key).isSome → ∃ i, g.stepIndex n.time = .ok i) →
        ∃ text warnings, IsWritten layout g notes text warnings ∧
          IsWritten layout g notes' text warnings) := by
  constructor
  · intro g notes notes' hsame
    exact exists_isWritten_of_same g.startsAtZero_rat g.putsAlike_rat (fun _ _ => le_rfl)
      (fun n _ _ => ⟨_, g.stepIndex_rat n.time⟩) hsame
  · intro g notes notes' htimed hsame
    have hwrite : write layout g notes = write layout g notes' :=
      write_eq_of_same g.putsAlike_float htimed hsame
    refine ⟨by rw [writeWarning, writeWarning, hwrite], fun hindex => ?_⟩
    exact exists_isWritten_of_same g.startsAtZero_float g.putsAlike_float htimed hindex hsame

/-- Notes at one time, two of them on one key and one on a key without a label, are written alike
from the first to the last and from the last to the first. So are machine notes at the two zeros. -/
theorem writing_ignores_order_of_tied_notes :
    (∃ (g : Grid Rat) (notes : List (Note Rat)),
      notes.reverse.map Note.signature ≠ notes.map Note.signature ∧
      (notes.map Note.signature).Perm (notes.reverse.map Note.signature) ∧
      IsWritten Octaves.layout g notes "(6 6 6°)" [.unlabelled 1 [9]] ∧
      IsWritten Octaves.layout g notes.reverse "(6 6 6°)" [.unlabelled 1 [9]]) ∧
    ∃ (g : Grid Float) (m n : Note Float), (∀ k ∈ [m, n], k.time ≤ k.time) ∧ m.time ≠ n.time ∧
      (∀ k ∈ [m, n], ∃ i, g.stepIndex k.time = .ok i) ∧
      writeWarning Octaves.layout g [m, n] = writeWarning Octaves.layout g [n, m] ∧
      ∃ text warnings, IsWritten Octaves.layout g [m, n] text warnings ∧
        IsWritten Octaves.layout g [n, m] text warnings := by
  constructor
  · let g : Grid Rat := ⟨60, .common, 1, by decide +kernel, by decide⟩
    let low : Note Rat := ⟨0, 0, 1, .null, false, by decide +kernel, by decide +kernel⟩
    let high : Note Rat := ⟨2, 0, 1, .null, false, by decide +kernel, by decide +kernel⟩
    let beyond : Note Rat := ⟨9, 0, 1, .null, false, by decide +kernel, by decide +kernel⟩
    let notes := [low, { low with duration := 2, duration_pos := by decide +kernel }, high, beyond]
    have hperm : (notes.map Note.signature).Perm (notes.reverse.map Note.signature) :=
      (List.reverse_perm notes).symm.map Note.signature
    obtain ⟨text, warnings, hnotes, hreverse⟩ :=
      (writing_ignores_order Octaves.layout).1 g notes notes.reverse hperm
    -- These notes are in order as they are given
    have horder : inOrder notes = notes :=
      Order.sortBy_of_pairwise (by decide +kernel) (by decide +kernel)
    have hwrite : write Octaves.layout g notes = .ok ⟨"(6 6 6°)", [9]⟩ := by
      rw [write_rat, horder]
      exact congrArg Except.ok (by decide +kernel)
    have hgives := (isWritten_of_write g.startsAtZero_rat (fun _ _ => le_rfl) hwrite).gives {}
    obtain ⟨rfl, hjournal⟩ := (hnotes.gives {}).unique hgives
    have hwarnings : warnings = [.unlabelled 1 [9]] := by
      have hgiven := congrArg Journal.given hjournal
      simp only [List.append_nil, List.reverse_inj] at hgiven
      rw [hgiven]
      exact congrArg (fun keys => [Warning.unlabelled 1 keys]) (List.mergeSort_singleton 9)
    subst hwarnings
    exact ⟨g, notes, by decide +kernel, hperm, hnotes, hreverse⟩
  · let g : Grid Float := ⟨60.0, .common, 1, by decide +kernel, by decide⟩
    let m : Note Float := ⟨2, 0.0, 1.0, .null, false, by decide +kernel, by decide +kernel⟩
    let n : Note Float := ⟨0, -0.0, 1.0, .null, false, by decide +kernel, by decide +kernel⟩
    have htimed : ∀ k ∈ [m, n], k.time ≤ k.time := by
      simp only [List.forall_mem_cons, List.not_mem_nil, false_implies, implies_true, and_true]
      exact ⟨by decide +kernel, by decide +kernel⟩
    have hstep : ∀ k ∈ [m, n], ∃ i, g.stepIndex k.time = .ok i := by
      have hzero : Scalar.isZero g.step = false := by decide +kernel
      simp only [List.forall_mem_cons, List.not_mem_nil, false_implies, implies_true, and_true]
      exact ⟨⟨0, Grid.stepIndex_eq_ok.mpr ⟨hzero, 0, by decide +kernel, by decide +kernel⟩⟩,
        ⟨0, Grid.stepIndex_eq_ok.mpr ⟨hzero, 0, by decide +kernel, by decide +kernel⟩⟩⟩
    obtain ⟨hsame, hwritten⟩ := (writing_ignores_order Octaves.layout).2 g [m, n] [n, m] htimed
      (List.Perm.swap _ _ _)
    exact ⟨g, m, n, htimed, by decide +kernel, hstep, hsame, hwritten fun k hk _ => hstep k hk⟩

end Tab

end Lamella
