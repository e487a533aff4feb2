import Lamella.Proofs.Order.Sorted
import Lamella.Proofs.Result
import Lamella.Proofs.Scalar.Octaves
import Lamella.Proofs.Scalar.Steady
import Lamella.Transcript.Segment
import Mathlib

/-!
# The segments of a contour

The onsets of a recording, whatever their order and however often each is told, cut it into segments
that do not overlap: boundaries are put in order, each once, and a segment reaches from one to the
next. A note is a segment that passed the tests, so what is known of segments is known of notes.

## Main definitions

- `Frame.Certain`: the frames that count for the pitch of a segment.
- `Contour.Adjacent`: two boundaries with none between them.
- `Contour.Passes`: the tests of a segment.

## Main statements

- `Contour.ascending_pairwise`: boundaries strictly ascend.
- `Contour.spans_sublist`: notes are segments, in their order.
- `Contour.median_between`: a median lies between two of the numbers.
- `Contour.notes_of_segments`: in exact arithmetic a contour always has notes, which do not overlap.
-/

namespace Lamella

/-- A frame counts for the pitch of a segment if it lies in it, is certain and has a frequency. -/
def Frame.Certain {F R : Type} [Scalar F] [Scalar R] (f : Frame F R) (t : Thresholds F)
    (start stop : R) : Prop :=
  start ≤ f.time ∧ f.time < stop ∧ t.frame ≤ f.confidence ∧ Scalar.ofInt 0 < f.frequency

instance {F R : Type} [Scalar F] [Scalar R] (f : Frame F R) (t : Thresholds F) (start stop : R) :
    Decidable (f.Certain t start stop) :=
  inferInstanceAs (Decidable (_ ∧ _))

namespace Contour

/-! ## §1 Boundaries in order -/

section

variable {R : Type} [Scalar R] {xs : List R}

theorem mem_of_mem_distinct {x : R} (h : x ∈ distinct xs) : x ∈ xs := by
  fun_induction distinct xs with
  | case1 => exact h
  | case2 a => exact h
  | case3 a b rest hsame ih =>
    rcases List.mem_cons.mp (ih h) with rfl | hrest
    · exact List.mem_cons_self
    · exact List.mem_cons_of_mem _ (List.mem_cons_of_mem _ hrest)
  | case4 a b rest hsame ih =>
    rcases List.mem_cons.mp h with rfl | hrest
    · exact List.mem_cons_self
    · exact List.mem_cons_of_mem _ (ih hrest)

theorem same_self {x : R} (h : x ≤ x) : Scalar.same x x = true := by simp [Scalar.same, h]

theorem ascending_eq (hnumbers : ∀ x ∈ xs, x ≤ x) :
    ascending xs = distinct (xs.mergeSort fun a b => decide (a ≤ b)) := by
  have hall : xs.filter (fun t => Scalar.same t t) = xs :=
    List.filter_eq_self.mpr fun x hx => same_self (hnumbers x hx)
  have hnone : xs.filter (fun t => !Scalar.same t t) = [] :=
    List.filter_eq_nil_iff.mpr fun x hx => by simp [same_self (hnumbers x hx)]
  rw [ascending, hall, hnone, List.take_nil, List.append_nil]

theorem mem_of_mem_ascending (hnumbers : ∀ x ∈ xs, x ≤ x) {x : R} (hx : x ∈ ascending xs) :
    x ∈ xs := by
  rw [ascending_eq hnumbers] at hx
  exact List.mem_mergeSort.mp (mem_of_mem_distinct hx)

variable [Scalar.Ranked R]

/-- In a row in order what remains of equals strictly ascends. -/
theorem distinct_pairwise (h : xs.Pairwise (· ≤ ·)) : (distinct xs).Pairwise (· < ·) := by
  fun_induction distinct xs with
  | case1 => exact .nil
  | case2 a => exact List.pairwise_singleton _ a
  | case3 a b rest hsame ih =>
    exact ih (h.sublist ((List.sublist_cons_self b rest).cons_cons a))
  | case4 a b rest hsame ih =>
    obtain ⟨hfirst, hrest⟩ := List.pairwise_cons.mp h
    refine List.pairwise_cons.mpr ⟨fun x hx => ?_, ih hrest⟩
    -- The next is not the same, so it is larger, and all others are at least as large as it is
    have hab := hfirst b List.mem_cons_self
    have hlt : a < b := Scalar.Ranked.lt_iff_le_not_le.mpr
      ⟨hab, fun hba => hsame (by simp [Scalar.same, hab, hba])⟩
    rcases List.mem_cons.mp (mem_of_mem_distinct hx) with rfl | hx
    · exact hlt
    · exact Scalar.Orderly.lt_of_lt_of_le hlt ((List.pairwise_cons.mp hrest).1 x hx)

/-- **Boundaries strictly ascend**, if all times are numbers. -/
theorem ascending_pairwise (hnumbers : ∀ x ∈ xs, x ≤ x) : (ascending xs).Pairwise (· < ·) := by
  let le : R → R → Bool := fun a b => decide (a ≤ b)
  have hle : ∀ a b, le a b = true ↔ a ≤ b := fun a b => decide_eq_true_iff
  have hrefl : ∀ a ∈ xs, le a a = true := fun a ha => (hle a a).mpr (hnumbers a ha)
  have hsorted := Order.sortBy_pairwise hrefl
    (fun a b c hab hbc => (hle a c).mpr (Scalar.Orderly.le_trans ((hle a b).mp hab)
      ((hle b c).mp hbc)))
    (fun a b ha hb => by
      rw [hle, hle]
      exact Scalar.Comparable.le_total ((hle a a).mp ha) ((hle b b).mp hb))
  rw [Order.sortBy_eq_mergeSort hrefl] at hsorted
  rw [ascending_eq hnumbers]
  exact distinct_pairwise (hsorted.imp fun {a b} h => (hle a b).mp h)

end

/-- In exact arithmetic each time is a boundary. -/
theorem mem_distinct_rat {xs : List Rat} {x : Rat} : x ∈ distinct xs ↔ x ∈ xs := by
  refine ⟨mem_of_mem_distinct, fun h => ?_⟩
  fun_induction distinct xs with
  | case1 => exact h
  | case2 a => exact h
  | case3 a b rest hsame ih =>
    have hab : a = b := by simpa [Scalar.same_rat] using hsame
    refine ih ?_
    rcases List.mem_cons.mp h with rfl | h
    · exact List.mem_cons_self
    · rwa [hab]
  | case4 a b rest hsame ih =>
    rcases List.mem_cons.mp h with rfl | h
    · exact List.mem_cons_self
    · exact List.mem_cons_of_mem _ (ih h)

theorem mem_ascending_rat {xs : List Rat} {x : Rat} : x ∈ ascending xs ↔ x ∈ xs := by
  rw [ascending_eq fun _ _ => le_rfl, mem_distinct_rat, List.mem_mergeSort]

/-! ## §2 Segments -/

section

variable {R : Type} {xs : List R} {start stop : R}

/-- Two neighbours in a row: all others are before the first or behind the second. -/
theorem split_of_neighbours (h : (start, stop) ∈ xs.zip xs.tail) :
    ∃ front back, xs = front ++ start :: stop :: back := by
  induction xs with
  | nil => cases h
  | cons a xs ih =>
    cases xs with
    | nil => cases h
    | cons b xs =>
      rcases List.mem_cons.mp h with heq | h
      · cases heq
        exact ⟨[], xs, rfl⟩
      · obtain ⟨front, back, heq⟩ := ih h
        exact ⟨a :: front, back, by rw [heq]; rfl⟩

variable [Scalar R]

/-- Two of several times, one after the other, with none of them between. -/
structure Adjacent (times : List R) (start stop : R) : Prop where
  start_mem : start ∈ times
  stop_mem : stop ∈ times
  lt : start < stop
  none_between : ∀ t ∈ times, ¬ (start < t ∧ t < stop)

/-- A segment begins where the one before it ends, or later. -/
theorem neighbours_pairwise (h : xs.Pairwise (· < ·)) :
    (xs.zip xs.tail).Pairwise fun p q => p.2 = q.1 ∨ p.2 < q.1 := by
  induction xs with
  | nil => exact .nil
  | cons a xs ih =>
    cases xs with
    | nil => exact .nil
    | cons b xs =>
      obtain ⟨-, hrest⟩ := List.pairwise_cons.mp h
      refine List.pairwise_cons.mpr ⟨fun q hq => ?_, ih hrest⟩
      rcases List.mem_cons.mp (List.of_mem_zip hq).1 with heq | hmem
      · exact .inl heq.symm
      · exact .inr ((List.pairwise_cons.mp hrest).1 _ hmem)

variable [Scalar.Ranked R]

/-- Neighbours in a row that ascends are adjacent. -/
theorem adjacent_of_neighbours (h : xs.Pairwise (· < ·)) (hmem : (start, stop) ∈ xs.zip xs.tail) :
    Adjacent xs start stop := by
  obtain ⟨front, back, rfl⟩ := split_of_neighbours hmem
  obtain ⟨-, hbehind, hfront⟩ := List.pairwise_append.mp h
  obtain ⟨hstart, hstop⟩ := List.pairwise_cons.mp hbehind
  have hasymm : ∀ {a b : R}, a < b → ¬ b < a := fun hab =>
    Scalar.Orderly.not_lt_of_le (Scalar.le_of_lt hab)
  refine ⟨by simp, by simp, hstart stop List.mem_cons_self, ?_⟩
  rintro t ht ⟨hlow, hhigh⟩
  rcases List.mem_append.mp ht with ht | ht
  · exact hasymm hlow (hfront t ht start List.mem_cons_self)
  · rcases List.mem_cons.mp ht with rfl | ht
    · exact hasymm hlow hlow
    · rcases List.mem_cons.mp ht with rfl | ht
      · exact hasymm hhigh hhigh
      · exact hasymm hhigh ((List.pairwise_cons.mp hstop).1 t ht)

end

variable {F R : Type} [Analytic F] [Scalar R]

/-! ## §3 The note of a segment -/

/-- The frames that count for the pitch of a segment. -/
def certainFrames (c : Contour F R) (t : Thresholds F) (start stop : R) : List (Frame F R) :=
  c.frames.filter fun f => f.Certain t start stop

variable {c : Contour F R} {t : Thresholds F} {least start stop : R} {level : F}

theorem certain_eq : c.certain t start stop =
    (c.certainFrames t start stop).map Frame.frequency := by
  have htest : ∀ f : Frame F R, (decide (start ≤ f.time) && decide (f.time < stop) &&
      decide (t.frame ≤ f.confidence) && decide (Scalar.ofInt 0 < f.frequency)) =
        decide (f.Certain t start stop) := by
    intro f
    rw [Bool.eq_iff_iff, decide_eq_true_iff]
    simp only [Frame.Certain, Bool.and_eq_true, decide_eq_true_eq, and_assoc]
  simp only [certain, certainFrames, htest]

/-- The tests of a segment: it is long enough, loud enough and has enough certain frames. -/
structure Passes (c : Contour F R) (t : Thresholds F) (least start stop : R) (level : F) : Prop where
  long : ¬ stop - start < least
  loud : ¬ level < t.leastLevel
  certain : t.leastFrames ≤ (c.certainFrames t start stop).length

/-- The note that a segment with its velocity is. -/
def noteOf (c : Contour F R) (t : Thresholds F) (start stop : R) (velocity : Int)
    (hlt : ¬ stop ≤ start) : HeardNote F R :=
  ⟨Pitch.ofFrequency (median ((c.certainFrames t start stop).map Frame.frequency)), start, stop,
    velocity, hlt⟩

/-- A segment that passes the tests is a note. -/
theorem noteBetween_of_passes (hlevel : c.segmentLevel start stop = .ok level) {v : Int}
    (hvelocity : velocity level = .ok v) (hlt : ¬ stop ≤ start)
    (h : c.Passes t least start stop level) :
    c.noteBetween t least start stop = .ok (some (c.noteOf t start stop v hlt)) := by
  unfold noteBetween
  rw [if_neg h.long, hlevel, Except.ok_bind, if_neg h.loud, certain_eq]
  dsimp only
  rw [List.length_map, if_neg (not_lt.mpr h.certain), hvelocity, Except.ok_bind, HeardNote.make,
    dif_neg hlt]
  rfl

/-- A segment that does not is none. -/
theorem noteBetween_of_not_passes (hlevel : c.segmentLevel start stop = .ok level)
    (h : ¬ c.Passes t least start stop level) : c.noteBetween t least start stop = .ok none := by
  unfold noteBetween
  by_cases hlong : stop - start < least
  · rw [if_pos hlong]
    rfl
  rw [if_neg hlong, hlevel, Except.ok_bind]
  by_cases hloud : level < t.leastLevel
  · rw [if_pos hloud]
    rfl
  rw [if_neg hloud, certain_eq]
  dsimp only
  rw [List.length_map, if_pos (not_le.mp fun hcertain => h ⟨hlong, hloud, hcertain⟩)]
  rfl

/-- **A note is that of a segment which passed the tests.** -/
theorem passes_of_noteBetween {n : HeardNote F R}
    (h : c.noteBetween t least start stop = .ok (some n)) :
    ∃ level v hlt, c.segmentLevel start stop = .ok level ∧ velocity level = .ok v ∧
      c.Passes t least start stop level ∧ n = c.noteOf t start stop v hlt := by
  unfold noteBetween at h
  split_ifs at h with hlong
  · cases h
  obtain ⟨level, hlevel, h⟩ := Except.bind_eq_ok.mp h
  split_ifs at h with hloud
  · cases h
  rw [certain_eq] at h
  dsimp only at h
  rw [List.length_map] at h
  split_ifs at h with hcertain
  · cases h
  obtain ⟨v, hvelocity, h⟩ := Except.bind_eq_ok.mp h
  obtain ⟨m, hmake, h⟩ := Except.bind_eq_ok.mp h
  cases h
  unfold HeardNote.make at hmake
  split_ifs at hmake with hlt
  exact ⟨level, v, hlt, hlevel, hvelocity, ⟨hlong, hloud, not_lt.mp hcertain⟩,
    (Except.ok.inj hmake).symm⟩

/-- Notes are found if there are a least duration and boundaries and no segment fails. -/
theorem notes_eq_ok {found : List (HeardNote F R)} : c.notes t = .ok found ↔
    ∃ least bounds notes, c.leastDuration t = .ok least ∧ c.boundaries = .ok bounds ∧
      List.Forall₂ (fun s o => c.noteBetween t least s.1 s.2 = .ok o) (bounds.zip bounds.tail)
        notes ∧ notes.filterMap id = found := by
  unfold notes
  simp only [Except.bind_eq_ok, ← Except.mapM_eq_ok]
  constructor
  · rintro ⟨least, hleast, bounds, hbounds, notes, hnotes, hfound⟩
    exact ⟨least, bounds, notes, hleast, hbounds, hnotes, Except.ok.inj hfound⟩
  · rintro ⟨least, bounds, notes, hleast, hbounds, hnotes, rfl⟩
    exact ⟨least, hleast, bounds, hbounds, notes, hnotes, rfl⟩

/-- **Notes are segments, in their order.** -/
theorem spans_sublist {segments : List (R × R)} {found : List (Option (HeardNote F R))}
    (h : List.Forall₂ (fun s o => c.noteBetween t least s.1 s.2 = .ok o) segments found) :
    ((found.filterMap id).map fun n => (n.onset, n.offset)).Sublist segments := by
  induction h with
  | nil => exact .slnil
  | @cons s o segments found hnote _ ih =>
    cases o with
    | none =>
      rw [List.filterMap_cons_none rfl]
      exact ih.cons s
    | some n =>
      obtain ⟨-, -, hlt, -, -, -, rfl⟩ := passes_of_noteBetween hnote
      rw [List.filterMap_cons_some (f := id) rfl]
      exact ih.cons_cons s

/-! ## §4 Medians and velocities in exact arithmetic -/

theorem trunc_of_reading {S : Type} [Scalar S] {a : S} {q : ℚ}
    (h : Scalar.reading a = .finite q) :
    (Scalar.trunc a).mapError Fault.ofGap = .ok (truncate q) := by
  unfold Scalar.trunc
  rw [h]
  rfl

/-- The integer part of what lies between two integers lies between them. -/
theorem truncate_bounds {q : ℚ} {m n : ℤ} (hm : 0 ≤ m) (hlow : m ≤ q) (hhigh : q ≤ n) :
    m ≤ truncate q ∧ truncate q ≤ n := by
  have hnonneg : ¬ q < 0 := not_lt.mpr ((Int.cast_nonneg hm).trans hlow)
  have hfloor : q.floor = ⌊q⌋ := rfl
  rw [truncate, if_neg hnonneg, hfloor]
  have hlt : q < (n + 1 : ℤ) := by
    push_cast
    linarith
  exact ⟨Int.le_floor.mpr hlow, Int.lt_add_one_iff.mp (Int.floor_lt.mpr hlt)⟩

section

variable [Scalar.Exact F]

/-- **A velocity lies between 20 and 127.** -/
theorem velocity_bounds (level : F) : ∃ v, velocity level = .ok v ∧ 20 ≤ v ∧ v ≤ 127 := by
  obtain ⟨q, hq⟩ := Scalar.Exact.exists_reading (level * Scalar.ofInt 200)
  have h20 := Scalar.Exact.reading_ofInt (R := F) 20
  have h127 := Scalar.Exact.reading_ofInt (R := F) 127
  unfold velocity
  dsimp only
  split_ifs with hlow hhigh
  · exact ⟨_, trunc_of_reading h20, truncate_bounds (by norm_num) le_rfl (by norm_num)⟩
  · exact ⟨_, trunc_of_reading h127, truncate_bounds (by norm_num) (by norm_num) le_rfl⟩
  · rw [Scalar.Exact.lt_iff hq h20] at hlow
    rw [Scalar.Exact.lt_iff h127 hq] at hhigh
    exact ⟨_, trunc_of_reading hq,
      truncate_bounds (by norm_num) (not_lt.mp hlow) (not_lt.mp hhigh)⟩

theorem exact_refl (a : F) : a ≤ a := by
  obtain ⟨p, hp⟩ := Scalar.Exact.exists_reading a
  exact (Scalar.Exact.le_iff hp hp).mpr le_rfl

/-- The mean of two numbers lies between them. -/
theorem mean_between {xs : List F} {a b : F} (ha : a ∈ xs) (hb : b ∈ xs) :
    ∃ low ∈ xs, ∃ high ∈ xs, low ≤ (a + b) / Scalar.ofInt 2 ∧ (a + b) / Scalar.ofInt 2 ≤ high := by
  obtain ⟨p, hp⟩ := Scalar.Exact.exists_reading a
  obtain ⟨q, hq⟩ := Scalar.Exact.exists_reading b
  have hmean := Scalar.Exact.reading_div (Scalar.Exact.reading_add hp hq)
    (Scalar.Exact.reading_ofInt 2) (by norm_num)
  push_cast at hmean
  rcases le_total p q with hpq | hpq
  · refine ⟨a, ha, b, hb, (Scalar.Exact.le_iff hp hmean).mpr ?_,
      (Scalar.Exact.le_iff hmean hq).mpr ?_⟩ <;> linarith
  · refine ⟨b, hb, a, ha, (Scalar.Exact.le_iff hq hmean).mpr ?_,
      (Scalar.Exact.le_iff hmean hp).mpr ?_⟩ <;> linarith

/-- **A median lies between two of the numbers.** -/
theorem median_between {xs : List F} (hne : xs ≠ []) :
    ∃ low ∈ xs, ∃ high ∈ xs, low ≤ median xs ∧ median xs ≤ high := by
  set sorted := xs.mergeSort fun a b => decide (a ≤ b) with hsorted
  have hlength : sorted.length = xs.length := (List.mergeSort_perm xs _).length_eq
  have hpos : 0 < sorted.length := hlength ▸ List.length_pos_of_ne_nil hne
  have hmem : ∀ i, i < sorted.length → sorted.getD i (Scalar.ofInt 0) ∈ xs := by
    intro i hi
    rw [List.getD_eq_getElem?_getD, List.getElem?_eq_getElem hi, Option.getD_some]
    exact List.mem_mergeSort.mp (List.getElem_mem hi)
  have hmiddle := hmem (sorted.length / 2) (by omega)
  unfold median
  rw [← hsorted]
  dsimp only
  split_ifs
  · exact ⟨_, hmiddle, _, hmiddle, exact_refl _, exact_refl _⟩
  · exact mean_between (hmem (sorted.length / 2 - 1) (by omega)) hmiddle

/-- **The pitch of a segment that passes is that of a frequency between those of two frames.** -/
theorem pitch_of_passes (h : c.Passes t least start stop level) :
    ∃ low ∈ c.certainFrames t start stop, ∃ high ∈ c.certainFrames t start stop, ∃ f,
      low.frequency ≤ f ∧ f ≤ high.frequency ∧
        Pitch.ofFrequency (median ((c.certainFrames t start stop).map Frame.frequency)) =
          Pitch.ofFrequency f := by
  -- As at least one frame is asked for, there is one
  have hne : (c.certainFrames t start stop).map Frame.frequency ≠ [] := by
    have henough := h.certain
    have hone := t.leastFrames_pos
    rw [ne_eq, List.map_eq_nil_iff, ← List.length_eq_zero_iff]
    omega
  obtain ⟨low, hlow, high, hhigh, hle, hle'⟩ := median_between hne
  obtain ⟨f, hf, rfl⟩ := List.mem_map.mp hlow
  obtain ⟨g, hg, rfl⟩ := List.mem_map.mp hhigh
  exact ⟨f, hf, g, hg, _, hle, hle', rfl⟩

end

/-! ## §5 The notes of a contour in exact arithmetic -/

theorem quotientOfInts_rat {b : Int} (hb : b ≠ 0) (a : Int) :
    (Value.quotientOfInts a b : Except Fault Rat) = .ok (a / b) := by
  rw [Value.quotientOfInts, if_neg hb]
  rfl

variable [Scalar.Exact F] {c : Contour F Rat} {t : Thresholds F}

/-- In exact arithmetic every segment is looked at without a fault. -/
theorem exists_noteBetween {least start stop : Rat} (hlt : start < stop) :
    ∃ found, c.noteBetween t least start stop = .ok found := by
  have hlevel : c.segmentLevel start stop =
      .ok (c.level (truncate (start * c.rate)) (truncate (stop * c.rate))) := rfl
  obtain ⟨v, hvelocity, -⟩ :=
    velocity_bounds (c.level (truncate (start * c.rate)) (truncate (stop * c.rate)))
  by_cases h : c.Passes t least start stop
      (c.level (truncate (start * c.rate)) (truncate (stop * c.rate)))
  · exact ⟨_, noteBetween_of_passes hlevel hvelocity (not_le.mpr hlt) h⟩
  · exact ⟨_, noteBetween_of_not_passes hlevel h⟩

/-- **The notes of a contour do not overlap.** In exact arithmetic, whatever the frames, the onsets,
their order and the loudness, every contour has notes. Each note ends before the next begins. It
reaches from one of the start, the onsets and the end to the next of them, and lasts as long as the
fewest frames do. Enough frames within it are certain and have a frequency, its pitch is that of a
frequency between two of theirs, and its velocity is from 20 to 127. -/
theorem notes_of_segments (c : Contour F Rat) (hrate : 0 < c.rate) (t : Thresholds F) :
    ∃ notes, c.notes t = .ok notes ∧ (notes.Pairwise fun a b => a.offset ≤ b.onset) ∧
      ∀ n ∈ notes,
        Adjacent (0 :: c.onsets ++ [(c.size : Rat) / c.rate]) n.onset n.offset ∧
        (t.leastFrames * c.hop : Rat) / c.rate ≤ n.offset - n.onset ∧
        t.leastFrames ≤ (c.certainFrames t n.onset n.offset).length ∧
        (∃ low ∈ c.certainFrames t n.onset n.offset,
          ∃ high ∈ c.certainFrames t n.onset n.offset, ∃ f,
            low.frequency ≤ f ∧ f ≤ high.frequency ∧ n.pitch = Pitch.ofFrequency f) ∧
        20 ≤ n.velocity ∧ n.velocity ≤ 127 := by
  set bounds := ascending (0 :: c.onsets ++ [(c.size : Rat) / c.rate]) with hbounds
  set least : Rat := (t.leastFrames * c.hop : Rat) / c.rate with hleast
  have hpairwise : bounds.Pairwise (· < ·) := ascending_pairwise fun _ _ => le_rfl
  have hduration : c.leastDuration t = .ok least := by
    rw [leastDuration, quotientOfInts_rat hrate.ne', hleast]
    push_cast
    rfl
  have hboundaries : c.boundaries = .ok bounds := by
    rw [boundaries, duration, quotientOfInts_rat hrate.ne']
    rfl
  have hall : ∀ s ∈ bounds.zip bounds.tail,
      ∃ found, c.noteBetween t least s.1 s.2 = .ok found := fun s hs =>
    exists_noteBetween (adjacent_of_neighbours hpairwise hs).lt
  obtain ⟨found, hfound⟩ := Except.exists_mapM hall
  have hsegments := Except.mapM_eq_ok.mp hfound
  refine ⟨found.filterMap id,
    notes_eq_ok.mpr ⟨least, bounds, found, hduration, hboundaries, hsegments, rfl⟩, ?_,
    fun n hn => ?_⟩
  · have hordered := (neighbours_pairwise hpairwise).sublist (spans_sublist hsegments)
    refine (List.pairwise_map.mp hordered).imp ?_
    rintro a b (heq | hlt)
    · exact heq.le
    · exact hlt.le
  · obtain ⟨o, ho, hsome⟩ := List.mem_filterMap.mp hn
    obtain rfl : o = some n := hsome
    obtain ⟨⟨start, stop⟩, hs, hnote⟩ := hsegments.exists_left ho
    replace hnote : c.noteBetween t least start stop = .ok (some n) := hnote
    obtain ⟨level, v, hlt, -, hvelocity, hpasses, rfl⟩ := passes_of_noteBetween hnote
    obtain ⟨v', hvelocity', hrange⟩ := velocity_bounds level
    obtain rfl := Except.ok.inj (hvelocity'.symm.trans hvelocity)
    have hadjacent := adjacent_of_neighbours hpairwise hs
    have hmem : ∀ {x}, x ∈ bounds ↔ x ∈ 0 :: c.onsets ++ [(c.size : Rat) / c.rate] :=
      mem_ascending_rat
    refine ⟨⟨hmem.mp hadjacent.start_mem, hmem.mp hadjacent.stop_mem, hadjacent.lt,
      fun x hx => hadjacent.none_between x (hmem.mpr hx)⟩, not_lt.mp hpasses.long, hpasses.certain,
      pitch_of_passes hpasses, hrange⟩

end Contour

/-! ## §6 Two seconds -/

namespace Octaves

/-- A contour of two seconds, with an onset told twice and one frame without a frequency. -/
def contour : Contour Rat Rat where
  frames := [⟨0, 440, 1⟩, ⟨1 / 4, 441, 1⟩, ⟨1 / 2, 445, 1⟩, ⟨3 / 4, 0, 1⟩, ⟨1, 880, 1⟩,
    ⟨5 / 4, 660, 1⟩, ⟨3 / 2, 660, 1⟩, ⟨7 / 4, 670, 1⟩]
  onsets := [5 / 4, 1, 1]
  size := 8
  rate := 4
  hop := 1
  level _ _ := 3 / 10

/-- Thresholds that ask for three frames. -/
def thresholds : Thresholds Rat :=
  ⟨1 / 3, 1 / 5, 3, 0, 0, by decide +kernel, by decide +kernel, by decide⟩

/-- Of three segments the first and the last are notes; the one between has one frame only. -/
theorem notes_of_segments_of_two_seconds : 0 < contour.rate ∧
    ∃ notes, contour.notes thresholds = .ok notes ∧
      notes.map (fun n => (n.onset, n.offset, n.velocity)) = [(0, 1, 60), (5 / 4, 2, 60)] ∧
      ∀ n ∈ notes, Contour.Adjacent [0, 5 / 4, 1, 1, 2] n.onset n.offset ∧ n.velocity ≤ 127 := by
  have hrate : 0 < contour.rate := by decide
  obtain ⟨notes, hnotes, -, hall⟩ := contour.notes_of_segments hrate thresholds
  have hrun : (contour.notes thresholds).map
      (List.map fun n => (n.onset, n.offset, n.velocity)) =
      .ok [(0, 1, 60), (5 / 4, 2, 60)] := by cbv
  rw [hnotes] at hrun
  have htimes : (0 : Rat) :: contour.onsets ++ [(contour.size : Rat) / contour.rate] =
      [0, 5 / 4, 1, 1, 2] := by decide +kernel
  refine ⟨hrate, notes, hnotes, Except.ok.inj hrun, fun n hn => ?_⟩
  obtain ⟨hadjacent, -, -, -, -, hvelocity⟩ := hall n hn
  rw [htimes] at hadjacent
  exact ⟨hadjacent, hvelocity⟩

end Octaves

end Lamella
