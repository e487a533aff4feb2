import Lamella.Proofs.Grid.Cells
import Lamella.Proofs.Order.Sorted
import Lamella.Proofs.Tab.Schedule
import Lamella.Transcript.KeyMap

/-!
# Heard notes on the keys and steps they are put onto

In exact time a heard note is put onto a slot: the key nearest to its pitch, and the step nearest to
its onset. The mapping is said without running it: each slot that some heard note is put onto has
one note, as long as a step, and the notes stand in the order of their steps and keys.

## Main definitions

- `Grid.noteOn`: the note of a slot.
- `KeyMap.slot?`: the slot that a heard note is put onto.
- `KeyMap.Precedes`: the order of slots.

## Main statements

- `KeyMap.foldl_nearer_of_apart`: a key that is strictly nearer than all others is found.
- `KeyMap.exists_key_of_keyForPitch`: the key of a pitch is one of the layout.
- `KeyMap.slots_of_map`: mapped notes are one for each slot, in order.
- `KeyMap.exists_map`: notes that do not begin too early are mapped.
-/

namespace Lamella

/-! ## §1 Notes put onto steps -/

namespace Grid

variable {g : Grid Rat}

/-- The note of a slot: a key and a step. -/
def noteOn (g : Grid Rat) (slot : Int × Nat) : Note Rat := g.note slot.1 slot.2

theorem time_noteOn_lt {s t : Int × Nat} :
    (g.noteOn s).time < (g.noteOn t).time ↔ s.2 < t.2 := by
  show ((s.2 : ℤ) : ℚ) * g.step < ((t.2 : ℤ) : ℚ) * g.step ↔ _
  rw [mul_lt_mul_iff_left₀ g.step_pos]
  norm_cast

theorem time_noteOn_eq {s t : Int × Nat} :
    (g.noteOn s).time = (g.noteOn t).time ↔ s.2 = t.2 := by
  show ((s.2 : ℤ) : ℚ) * g.step = ((t.2 : ℤ) : ℚ) * g.step ↔ _
  rw [mul_left_inj' g.step_pos.ne']
  norm_cast

end Grid

namespace KeyMap

variable {F : Type}

/-! ## §2 One note for each slot -/

/-- Notes on slots. -/
def OnSlots (g : Grid Rat) (notes : List (Note Rat)) (slots : List (Int × Nat)) : Prop :=
  List.Forall₂ (fun n slot => n.key = slot.1 ∧ n.time = g.stepTime slot.2) notes slots

/-- **Of notes on slots one is kept for each slot**, except for those seen before. -/
theorem firstOnSteps_rat {g : Grid Rat} {notes : List (Note Rat)} {slots : List (Int × Nat)}
    (h : OnSlots g notes slots) (seen : List (Int × Int)) :
    ∃ kept : List (Int × Nat), firstOnSteps g seen notes = .ok (kept.map g.noteOn) ∧ kept.Nodup ∧
      ∀ slot, slot ∈ kept ↔ slot ∈ slots ∧ (slot.1, (slot.2 : Int)) ∉ seen := by
  induction h generalizing seen with
  | nil => exact ⟨[], rfl, .nil, by simp⟩
  | @cons n slot notes slots hn _ ih =>
    obtain ⟨key, step⟩ := slot
    obtain ⟨hkey, htime⟩ := hn
    have hindex : g.stepIndex n.time = .ok step := by rw [htime, g.stepIndex_stepTime]
    by_cases hseen : (key, (step : Int)) ∈ seen
    · -- A slot that was seen is passed over
      obtain ⟨kept, hkept, hnodup, hmem⟩ := ih seen
      refine ⟨kept, ?_, hnodup, fun slot => ?_⟩
      · rw [firstOnSteps, hindex, ← hkept, hkey]
        exact if_pos (List.contains_iff_mem.mpr hseen)
      · rw [hmem, List.mem_cons]
        constructor
        · rintro ⟨hslot, hnew⟩
          exact ⟨.inr hslot, hnew⟩
        · rintro ⟨rfl | hslot, hnew⟩
          · exact absurd hseen hnew
          · exact ⟨hslot, hnew⟩
    · -- A new slot gets its note, and counts as seen from then on
      obtain ⟨kept, hkept, hnodup, hmem⟩ := ih ((key, (step : Int)) :: seen)
      have hmake : Note.make n.key n.time g.step .null = .ok (g.noteOn (key, step)) := by
        rw [Note.make_eq n.time_not_neg (not_le.mpr g.step_pos)]
        simp only [hkey, htime]
        rfl
      refine ⟨(key, step) :: kept, ?_, List.nodup_cons.mpr ⟨?_, hnodup⟩, fun slot => ?_⟩
      · have hcontains : ¬ seen.contains (key, (step : Int)) = true :=
          fun hc => hseen (List.contains_iff_mem.mp hc)
        rw [firstOnSteps, hindex, hkey]
        show (if seen.contains (key, (step : Int)) = true then _ else _) = _
        rw [if_neg hcontains, ← hkey, hmake, hkey, hkept]
        rfl
      · rw [hmem]
        rintro ⟨-, hnew⟩
        exact hnew List.mem_cons_self
      · have hcast : (slot.1, (slot.2 : Int)) = (key, (step : Int)) ↔ slot = (key, step) := by
          simp [Prod.ext_iff]
        rw [List.mem_cons, hmem, List.mem_cons, List.mem_cons, hcast]
        by_cases hslot : slot = (key, step)
        · simp [hslot, hseen]
        · simp [hslot]

/-! ## §3 The key of a pitch -/

variable [Analytic F] {m : KeyMap F Rat}

/-- What is nearest is one of the keys that were looked at. -/
theorem mem_of_foldl_nearer {target : F} {keys : List (F × Int)} {acc : Option (F × Int)}
    {best : F × Int} (h : keys.foldl (nearer target) acc = some best) :
    acc = some best ∨ ∃ key ∈ keys, key.2 = best.2 := by
  induction keys generalizing acc with
  | nil => exact .inl h
  | cons key keys ih =>
    rcases ih h with hnearer | ⟨key', hmem, hkey⟩
    · -- The key that was looked at first replaced the best so far, or did not
      cases acc with
      | none =>
        obtain rfl := Option.some.inj hnearer
        exact .inr ⟨key, List.mem_cons_self, rfl⟩
      | some b =>
        simp only [nearer, Option.some.injEq] at hnearer
        split at hnearer
        · obtain rfl := hnearer
          exact .inr ⟨key, List.mem_cons_self, rfl⟩
        · exact .inl (congrArg some hnearer)
    · exact .inr ⟨key', List.mem_cons_of_mem key hmem, hkey⟩

/-- How far a key is from a pitch, and its index. -/
def distant (target : F) (key : F × Int) : F × Int := (Scalar.abs (key.1 - target), key.2)

/-- What is nearest stays when no other key is nearer. -/
theorem foldl_nearer_of_met {target : F} {best : F × Int} {keys : List (F × Int)}
    (hkeys : ∀ key ∈ keys, distant target key = best ∨ ¬ (distant target key).1 < best.1) :
    keys.foldl (nearer target) (some best) = some best := by
  induction keys with
  | nil => rfl
  | cons key keys ih =>
    rw [List.forall_mem_cons] at hkeys
    have hstep : nearer target (some best) key = some best := by
      rcases hkeys.1 with rfl | hfar
      · exact congrArg some (ite_self _)
      · exact congrArg some (if_neg hfar)
    rw [List.foldl_cons, hstep]
    exact ih hkeys.2

/-- **A key that is strictly nearer than all others is found**, wherever it stands. -/
theorem foldl_nearer_of_apart {target : F} {best : F × Int} {keys : List (F × Int)}
    {acc : Option (F × Int)} (hacc : ∀ b, acc = some b → best.1 < b.1)
    (hmem : ∃ key ∈ keys, distant target key = best)
    (hapart : ∀ key ∈ keys, distant target key = best ∨
      best.1 < (distant target key).1 ∧ ¬ (distant target key).1 < best.1) :
    keys.foldl (nearer target) acc = some best := by
  -- Until the key is met, what was found is farther off
  induction keys generalizing acc with
  | nil => simp at hmem
  | cons key keys ih =>
    rw [List.forall_mem_cons] at hapart
    obtain ⟨hkey, hkeys⟩ := hapart
    rw [List.foldl_cons]
    by_cases hsame : distant target key = best
    · have hstep : nearer target acc key = some best := by
        subst hsame
        cases acc with
        | none => rfl
        | some b => exact congrArg some (if_pos (hacc b rfl))
      rw [hstep]
      exact foldl_nearer_of_met fun key' hkey' => (hkeys key' hkey').imp_right And.right
    · have hrest : ∃ key ∈ keys, distant target key = best := by
        obtain ⟨key', hmem', hbest⟩ := hmem
        rcases List.mem_cons.mp hmem' with rfl | hmem'
        · exact absurd hbest hsame
        · exact ⟨key', hmem', hbest⟩
      refine ih ?_ hrest hkeys
      intro b hb
      obtain ⟨hfar, -⟩ := hkey.resolve_left hsame
      cases acc with
      | none =>
        obtain rfl := Option.some.inj hb
        exact hfar
      | some b' =>
        simp only [nearer, Option.some.injEq] at hb
        split at hb
        · obtain rfl := hb
          exact hfar
        · obtain rfl := hb
          exact hacc b' rfl

/-- **The key of a pitch is one of the layout.** -/
theorem exists_key_of_keyForPitch {R : Type} [Scalar R] {m : KeyMap F R} {pitch : F} {index : Int}
    (h : m.keyForPitch pitch = .ok (some index)) : ∃ k ∈ m.layout.keys, k.index = index := by
  unfold keyForPitch at h
  obtain ⟨shift, -, hbest⟩ := Except.bind_eq_ok.mp h
  obtain ⟨best, hfilter, hindex⟩ := Option.map_eq_some_iff.mp (Except.ok.inj hbest)
  obtain ⟨hfold, -⟩ := Option.filter_eq_some_iff.mp hfilter
  rcases mem_of_foldl_nearer hfold with hnone | ⟨key, hkey, hsame⟩
  · cases hnone
  · obtain ⟨k, hk, rfl⟩ := List.mem_map.mp hkey
    exact ⟨k, (Order.sortBy_perm _ _).mem_iff.mp hk, hsame.trans hindex⟩

/-! ## §4 The mapping of heard notes -/

/-- The slot that a heard note is put onto, if its pitch has a key. -/
def slot? (m : KeyMap F Rat) (n : HeardNote F Rat) : Option (Int × Nat) :=
  match m.keyForPitch n.pitch with
  | .ok (some key) => some (key, (roundHalfEven (n.onset / m.grid.step)).toNat)
  | _ => none

/-- The key of a slot is one of the layout. -/
theorem exists_key_of_slot {n : HeardNote F Rat} {slot : Int × Nat} (h : m.slot? n = some slot) :
    ∃ k ∈ m.layout.keys, k.index = slot.1 := by
  unfold slot? at h
  split at h
  · rename_i hkey
    obtain rfl := Option.some.inj h
    exact exists_key_of_keyForPitch hkey
  · cases h

/-- The order of slots: by step, and by key on one step. -/
def Precedes (s t : Int × Nat) : Prop := s.2 < t.2 ∨ s.2 = t.2 ∧ s.1 < t.1

/-- A heard note that is placed has a slot just if it gives a note, which begins with it. -/
theorem slot_of_place {n : HeardNote F Rat} {placed : Option (Note Rat)}
    (h : m.place n = .ok placed) :
    (placed = none ∧ m.slot? n = none) ∨ ∃ q key, placed = some q ∧ q.time = n.onset ∧
      q.key = key ∧ m.slot? n = some (key, (roundHalfEven (n.onset / m.grid.step)).toNat) := by
  obtain ⟨index, hindex, hplaced⟩ := Except.bind_eq_ok.mp h
  cases index with
  | none =>
    cases hplaced
    exact .inl ⟨rfl, by simp [slot?, hindex]⟩
  | some key =>
    obtain ⟨q, hmake, hq⟩ := Except.bind_eq_ok.mp hplaced
    cases hq
    unfold Note.make at hmake
    split at hmake
    · cases hmake
    · split at hmake
      · cases hmake
      · cases hmake
        exact .inr ⟨_, key, rfl, rfl, rfl, by simp [slot?, hindex]⟩

/-- Placed notes that are moved onto the steps are on the slots of the heard notes. -/
theorem onSlots_of_place (hcells : m.grid.cells = 1) {heard : List (HeardNote F Rat)}
    {placed : List (Option (Note Rat))}
    (h : List.Forall₂ (fun n p => m.place n = .ok p) heard placed) :
    ∃ quantized, m.grid.quantize (placed.filterMap id) = .ok quantized ∧
      OnSlots m.grid quantized (heard.filterMap m.slot?) := by
  induction h with
  | nil => exact ⟨[], rfl, .nil⟩
  | @cons n p heard placed hplace _ ih =>
    obtain ⟨quantized, hquantized, hslots⟩ := ih
    rcases slot_of_place hplace with ⟨rfl, hnone⟩ | ⟨q, key, rfl, htime, hkey, hslot⟩
    · refine ⟨quantized, hquantized, ?_⟩
      rwa [List.filterMap_cons_none hnone]
    · have hindex : 0 ≤ roundHalfEven (q.time / m.grid.step) :=
        roundHalfEven_nonneg (div_nonneg (not_lt.mp q.time_not_neg) m.grid.step_pos.le)
      refine ⟨m.grid.onCells q :: quantized, ?_, ?_⟩
      · rw [List.filterMap_cons_some (f := id) rfl, Grid.quantize, List.mapM_cons]
        exact Except.bind_eq_ok.mpr
          ⟨_, m.grid.quantizeNote_eq q, Except.bind_eq_ok.mpr ⟨quantized, hquantized, rfl⟩⟩
      · rw [List.filterMap_cons_some hslot]
        refine .cons ⟨hkey, ?_⟩ hslots
        rw [m.grid.time_onCells hcells, ← htime, Int.toNat_of_nonneg hindex]

/-- The order of notes on slots is that of their slots. -/
theorem lexLe_noteOn (g : Grid Rat) (s t : Int × Nat) :
    Order.lexLe ((g.noteOn s).time, (g.noteOn s).key) ((g.noteOn t).time, (g.noteOn t).key) = true ↔
      s = t ∨ Precedes s t := by
  have hkey : (g.noteOn s).key ≤ (g.noteOn t).key ↔ s.1 ≤ t.1 := Iff.rfl
  unfold Order.lexLe Precedes
  rw [Scalar.same_rat, Prod.ext_iff]
  dsimp only
  split_ifs with hsame
  · have := Grid.time_noteOn_eq.mp (of_decide_eq_true hsame)
    rw [decide_eq_true_eq, hkey]
    omega
  · have : ¬ s.2 = t.2 := fun h => hsame (decide_eq_true (Grid.time_noteOn_eq.mpr h))
    rw [decide_eq_true_eq, Grid.time_noteOn_lt]
    omega

/-- **Mapped notes are one for each slot that a heard note is put onto, in the order of slots.** -/
theorem slots_of_map (hcells : m.grid.cells = 1) {heard : List (HeardNote F Rat)}
    {notes : List (Note Rat)} (h : m.map heard = .ok notes) :
    ∃ slots : List (Int × Nat), notes = slots.map m.grid.noteOn ∧ slots.Pairwise Precedes ∧
      ∀ slot, slot ∈ slots ↔ ∃ n ∈ heard, m.slot? n = some slot := by
  obtain ⟨placed, hplaced, h⟩ := Except.bind_eq_ok.mp h
  obtain ⟨quantized, hquantized, h⟩ := Except.bind_eq_ok.mp h
  obtain ⟨first, hfirst, hsorted⟩ := Except.bind_eq_ok.mp h
  -- Each slot has one note, the first that is on it
  obtain ⟨quantized', hquantized', hslots⟩ := onSlots_of_place hcells (Except.mapM_eq_ok.mp hplaced)
  obtain rfl := Except.ok.inj (hquantized'.symm.trans hquantized)
  obtain ⟨kept, hkept, hnodup, hmem⟩ := firstOnSteps_rat hslots []
  obtain rfl := Except.ok.inj (hkept.symm.trans hfirst)
  -- Sorting the notes sorts their slots
  let le : Int × Nat → Int × Nat → Bool := fun s t => Order.lexLe
    ((m.grid.noteOn s).time, (m.grid.noteOn s).key) ((m.grid.noteOn t).time, (m.grid.noteOn t).key)
  have hle : ∀ s t, le s t = true ↔ s = t ∨ Precedes s t := lexLe_noteOn m.grid
  have hrefl : ∀ s ∈ kept, le s s = true := fun s _ => (hle s s).mpr (.inl rfl)
  have hperm : (Order.sortBy le kept).Perm kept := Order.sortBy_perm le kept
  have horder : (Order.sortBy le kept).Pairwise fun s t => le s t = true := by
    refine Order.sortBy_pairwise hrefl ?_ ?_
    · intro s t u hst htu
      rw [hle, Prod.ext_iff, Precedes] at hst htu ⊢
      omega
    · intro s t _ _
      rw [hle, hle, Prod.ext_iff, Prod.ext_iff, Precedes, Precedes]
      omega
  refine ⟨Order.sortBy le kept, ?_, ?_, fun slot => ?_⟩
  · rw [← Except.ok.inj hsorted]
    exact Order.sortBy_map m.grid.noteOn hrefl
  · refine (horder.and (hperm.nodup_iff.mpr hnodup)).imp ?_
    rintro s t ⟨hst, hne⟩
    exact ((hle s t).mp hst).resolve_left hne
  · rw [hperm.mem_iff, hmem, List.mem_filterMap]
    simp

/-- **Notes that do not begin too early are mapped.** -/
theorem exists_map (hcells : m.grid.cells = 1) {heard : List (HeardNote F Rat)}
    (hkeys : ∀ n ∈ heard, ∃ index, m.keyForPitch n.pitch = .ok index)
    (honset : ∀ n ∈ heard, 0 ≤ n.onset) : ∃ notes, m.map heard = .ok notes := by
  have hplace : ∀ n ∈ heard, ∃ p, m.place n = .ok p := by
    intro n hn
    obtain ⟨index, hindex⟩ := hkeys n hn
    unfold place
    rw [hindex]
    cases index with
    | none => exact ⟨none, rfl⟩
    | some key =>
      have hlasts : ¬ n.duration ≤ Scalar.ofInt 0 :=
        not_le.mpr (sub_pos.mpr (not_le.mp n.onset_lt))
      have hmake : ∃ q, Note.make key n.onset n.duration .null = .ok q :=
        ⟨_, Note.make_eq (not_lt.mpr (honset n hn)) hlasts⟩
      obtain ⟨q, hq⟩ := hmake
      exact ⟨some q, Except.bind_eq_ok.mpr ⟨some key, rfl, Except.bind_eq_ok.mpr ⟨q, hq, rfl⟩⟩⟩
  obtain ⟨placed, hplaced⟩ := Except.exists_mapM hplace
  obtain ⟨quantized, hquantized, hslots⟩ := onSlots_of_place hcells (Except.mapM_eq_ok.mp hplaced)
  obtain ⟨kept, hkept, -⟩ := firstOnSteps_rat hslots []
  exact ⟨_, Except.bind_eq_ok.mpr ⟨placed, hplaced, Except.bind_eq_ok.mpr ⟨quantized, hquantized,
    Except.bind_eq_ok.mpr ⟨_, hkept, rfl⟩⟩⟩⟩

end KeyMap

end Lamella
