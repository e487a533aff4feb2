import Lamella.Proofs.Scalar.Quotients
import Lamella.Proofs.Transcript.Capture
import Lamella.Proofs.Transcript.Loudness

/-!
# Relaxed passes

Relaxing thresholds lowers each of the bars a segment has to pass, whatever the sign of the least
loudness, and moves no boundary. So a relaxed pass finds again what the pass before it found. But it
looks at shorter segments as well, and the loudness of one that lies too far out can not be told.

## Main definitions

- `Thresholds.Looser`: thresholds that admit what others admit.
- `Contour.sampleAt`: the number of the sample at a time.
- `HeardNote.timing`: what a pass tells of a note besides its pitch.

## Main statements

- `Thresholds.relaxed_eq_ok`: thresholds can always be relaxed.
- `Contour.leastDuration_of_looser`: shorter notes have a least duration, if longer ones have.
- `Contour.timings_sublist`: under looser thresholds the notes found before are found again.
- `Recording.notes_of_relaxed`: a relaxed pass loses no note, or stops at a time without a sample.
-/

namespace Lamella

/-! ## §1 Looser thresholds -/

namespace Thresholds

variable {F : Type} [Scalar F]

/-- Thresholds that admit every frame, count and loudness that others admit. -/
structure Looser (t' t : Thresholds F) : Prop where
  frame : t'.frame ≤ t.frame
  leastFrames : t'.leastFrames ≤ t.leastFrames
  leastLevel : ∀ level : F, Scalar.ofInt 0 ≤ level → ¬ level < t.leastLevel →
    ¬ level < t'.leastLevel

variable [Scalar.Steady F]

theorem half_in_range {x : F} (h : Scalar.ofInt 0 ≤ x ∧ x ≤ Scalar.ofInt 1) :
    Scalar.ofInt 0 ≤ x * 0.5 ∧ x * 0.5 ≤ Scalar.ofInt 1 :=
  ⟨Scalar.Steady.mul_nonneg Scalar.Steady.reading_half (by norm_num) h.1,
    Scalar.Orderly.le_trans (Scalar.Steady.mul_le_self Scalar.Steady.reading_half (by norm_num)
      (by norm_num) h.1) h.2⟩

/-- A quarter of the least loudness is less, or below what any part of a recording has. -/
theorem not_lt_quarter {level least : F} (hlevel : Scalar.ofInt 0 ≤ level) (h : ¬ level < least) :
    ¬ level < least * 0.25 := by
  intro hlt
  have hzero := (Scalar.Steady.le_refl_of_le hlevel).1
  -- What compares is a number, so the least loudness is one
  have hnumber := Scalar.Steady.le_refl_of_mul
    (Scalar.Steady.le_refl_of_le (Scalar.le_of_lt hlt)).2
  rcases Scalar.Comparable.le_total hzero hnumber with hpos | hneg
  · have hle := Scalar.Steady.mul_le_self Scalar.Steady.reading_quarter (by norm_num)
      (by norm_num) hpos
    exact h (Scalar.Orderly.lt_of_lt_of_le hlt hle)
  · have hle := Scalar.Steady.mul_nonpos Scalar.Steady.reading_quarter (by norm_num) hneg
    exact Scalar.Orderly.not_lt_of_le (Scalar.Orderly.le_trans hle hlevel) hlt

/-- Thresholds half as high, for single frames a quarter as loud. -/
def loosened (t : Thresholds F) : Thresholds F :=
  ⟨t.onset * 0.5, t.frame * 0.5, 1, t.leastLevel * 0.25, t.transpose, half_in_range t.onset_range,
    half_in_range t.frame_range, le_rfl⟩

/-- **Thresholds can always be relaxed.** -/
theorem relaxed_eq_ok (t : Thresholds F) : t.relaxed = .ok t.loosened := by
  rw [relaxed, make, dif_pos (half_in_range t.onset_range), dif_pos (half_in_range t.frame_range),
    dif_pos le_rfl]
  rfl

/-- **Relaxed thresholds are looser.** -/
theorem loosened_looser (t : Thresholds F) : t.loosened.Looser t where
  frame := Scalar.Steady.mul_le_self Scalar.Steady.reading_half (by norm_num) (by norm_num)
    t.frame_range.1
  leastFrames := t.leastFrames_pos
  leastLevel _ := not_lt_quarter

end Thresholds

/-- When a note sounds, and how strongly. -/
def HeardNote.timing {F R : Type} [Scalar R] (n : HeardNote F R) : R × R × Int :=
  (n.onset, n.offset, n.velocity)

namespace Contour

section

variable {F R : Type} [Scalar R]

/-- The number of the sample at a time, which need not be one of the recording. -/
def sampleAt (c : Contour F R) (time : R) : Except Fault Int := do
  let rate ← Value.scalarOfInt c.rate
  (Scalar.trunc (time * rate)).mapError Fault.ofGap

variable {c : Contour F R} {start stop : R}

/-! ## §2 Times and levels -/

/-- In exact arithmetic every time has a sample. -/
theorem exists_sampleAt [Scalar.Exact R] (c : Contour F R) (time : R) :
    ∃ i, c.sampleAt time = .ok i := by
  have hrate := Scalar.Exact.reading_ofInt (R := R) c.rate
  obtain ⟨q, hq⟩ := Scalar.Exact.exists_reading (time * Scalar.ofInt c.rate : R)
  refine ⟨truncate q, ?_⟩
  rw [sampleAt, Value.scalarOfInt_of_reading hrate, Except.ok_bind, trunc_of_reading hq]

theorem quotientOfInts_eq_ok {a b : Int} (hb : b ≠ 0) {x : R} :
    Value.quotientOfInts a b = .ok x ↔
      x = Scalar.ofQuotient a b ∧ ∃ q, Scalar.reading (Scalar.ofQuotient a b : R) = .finite q := by
  rw [Value.quotientOfInts, if_neg hb]
  dsimp only
  cases hq : Scalar.reading (Scalar.ofQuotient a b : R) with
  | finite q => simp [eq_comm]
  | infinite negative => simp
  | undefined => simp

/-- The times that cut a recording are numbers, if its onsets are. -/
theorem times_le_self [Scalar.Steady R] (hrate : 0 < c.rate) (honsets : ∀ x ∈ c.onsets, x ≤ x)
    {duration : R} (hduration : c.duration = .ok duration) :
    ∀ x ∈ Scalar.ofInt 0 :: c.onsets ++ [duration], x ≤ x := by
  obtain ⟨rfl, q, hq⟩ := (quotientOfInts_eq_ok hrate.ne').mp hduration
  have hzero := Scalar.Steady.reading_ofInt_of_small (R := R) (n := 0) (by norm_num)
  intro x hx
  rcases List.mem_append.mp hx with hx | hx
  · rcases List.mem_cons.mp hx with rfl | hx
    · exact Scalar.Steady.le_refl_of_reading hzero
    · exact honsets x hx
  · rw [List.mem_singleton.mp hx]
    exact Scalar.Steady.le_refl_of_reading hq

/-- The level of a segment is that between two samples. -/
theorem exists_level {level : F} (h : c.segmentLevel start stop = .ok level) :
    ∃ i j, level = c.level i j := by
  unfold segmentLevel at h
  obtain ⟨rate, -, h⟩ := Except.bind_eq_ok.mp h
  obtain ⟨i, -, h⟩ := Except.bind_eq_ok.mp h
  obtain ⟨j, -, h⟩ := Except.bind_eq_ok.mp h
  exact ⟨i, j, (Except.ok.inj h).symm⟩

/-- Where a segment has no level, there is no sample at one of its ends. -/
theorem segmentLevel_eq_error {e : Fault} (h : c.segmentLevel start stop = .error e) :
    c.sampleAt start = .error e ∨ c.sampleAt stop = .error e := by
  unfold segmentLevel at h
  rcases Except.bind_eq_error.mp h with hrate | ⟨rate, hrate, h⟩
  · exact .inl (Except.bind_eq_error.mpr (.inl hrate))
  rcases Except.bind_eq_error.mp h with hfirst | ⟨i, -, h⟩
  · exact .inl (Except.bind_eq_error.mpr (.inr ⟨rate, hrate, hfirst⟩))
  rcases Except.bind_eq_error.mp h with hlast | ⟨j, -, h⟩
  · exact .inr (Except.bind_eq_error.mpr (.inr ⟨rate, hrate, hlast⟩))
  · cases h

end

variable {F R : Type} [Analytic F] [Scalar R]
variable {c : Contour F R} {t t' : Thresholds F} {least least' start stop : R} {level : F}

/-- **Shorter notes have a least duration if longer ones have**, and a shorter one. -/
theorem leastDuration_of_looser [Scalar.Proportional R] (hrate : 0 < c.rate) (hhop : 0 < c.hop)
    (h : t'.Looser t) (hleast : c.leastDuration t = .ok least) :
    ∃ least', c.leastDuration t' = .ok least' ∧ least' ≤ least := by
  obtain ⟨rfl, q, hq⟩ := (quotientOfInts_eq_ok hrate.ne').mp hleast
  have hnonneg : 0 ≤ t'.leastFrames * c.hop :=
    Int.mul_nonneg (zero_le_one.trans t'.leastFrames_pos) hhop.le
  have hfewer : t'.leastFrames * c.hop ≤ t.leastFrames * c.hop :=
    Int.mul_le_mul_of_nonneg_right h.leastFrames hhop.le
  obtain ⟨hfinite, hle⟩ := Scalar.Proportional.reading_of_le hrate hnonneg hfewer hq
  exact ⟨_, (quotientOfInts_eq_ok hrate.ne').mpr ⟨rfl, hfinite⟩, hle⟩

/-- With a least duration and boundaries a pass fails only at a segment. -/
theorem exists_segment_of_error {bounds : List R} (hleast : c.leastDuration t = .ok least)
    (hbounds : c.boundaries = .ok bounds) {e : Fault} (h : c.notes t = .error e) :
    ∃ s ∈ bounds.zip bounds.tail, c.noteBetween t least s.1 s.2 = .error e := by
  unfold notes at h
  rw [hleast, Except.ok_bind, hbounds, Except.ok_bind] at h
  rcases Except.bind_eq_error.mp h with hsegments | ⟨found, -, hpure⟩
  · exact Except.mapM_eq_error hsegments
  · cases hpure

variable [Scalar.Steady F]

/-- **A segment fails only where there is no sample at one of its ends.** -/
theorem noteBetween_eq_error (hlevels : ∀ i j, Scalar.ofInt 0 ≤ c.level i j)
    (hlt : ¬ stop ≤ start) {e : Fault} (h : c.noteBetween t least start stop = .error e) :
    c.sampleAt start = .error e ∨ c.sampleAt stop = .error e := by
  cases hlevel : c.segmentLevel start stop with
  | error e' =>
    unfold noteBetween at h
    split_ifs at h
    · cases h
    rw [hlevel] at h
    cases h
    exact segmentLevel_eq_error hlevel
  | ok level =>
    obtain ⟨i, j, rfl⟩ := exists_level hlevel
    obtain ⟨v, hvelocity⟩ := exists_velocity (hlevels i j)
    by_cases hpasses : c.Passes t least start stop (c.level i j)
    · rw [noteBetween_of_passes hlevel hvelocity hlt hpasses] at h
      cases h
    · rw [noteBetween_of_not_passes hlevel hpasses] at h
      cases h

/-! ## §3 Segments under looser thresholds -/

theorem certainFrames_sublist (c : Contour F R) (h : t'.Looser t) (start stop : R) :
    (c.certainFrames t start stop).Sublist (c.certainFrames t' start stop) := by
  refine List.monotone_filter_right _ fun f hf => ?_
  obtain ⟨hstart, hstop, hcertain, hfrequency⟩ := of_decide_eq_true hf
  exact decide_eq_true ⟨hstart, hstop, Scalar.Orderly.le_trans h.frame hcertain, hfrequency⟩

section

variable [Scalar.Ranked R]

/-- **What passes the tests passes looser ones.** -/
theorem Passes.of_looser (h : t'.Looser t) (hleast : least' ≤ least)
    (hlevel : Scalar.ofInt 0 ≤ level) (hpasses : c.Passes t least start stop level) :
    c.Passes t' least' start stop level where
  long hlt := hpasses.long (Scalar.Orderly.lt_of_lt_of_le hlt hleast)
  loud := h.leastLevel level hlevel hpasses.loud
  certain := by
    have hfew := h.leastFrames
    have henough := hpasses.certain
    have hmore := (c.certainFrames_sublist h start stop).length_le
    omega

/-- A note of a segment is one under looser thresholds, with the same timing. -/
theorem timing_of_looser (hlevels : ∀ i j, Scalar.ofInt 0 ≤ c.level i j) (h : t'.Looser t)
    (hleast : least' ≤ least) {n : HeardNote F R} {o' : Option (HeardNote F R)}
    (hn : c.noteBetween t least start stop = .ok (some n))
    (ho' : c.noteBetween t' least' start stop = .ok o') :
    ∃ n', o' = some n' ∧ n'.timing = n.timing := by
  obtain ⟨level, v, hlt, hlevel, hvelocity, hpasses, rfl⟩ := passes_of_noteBetween hn
  obtain ⟨i, j, rfl⟩ := exists_level hlevel
  have hpasses' := hpasses.of_looser h hleast (hlevels i j)
  rw [noteBetween_of_passes hlevel hvelocity hlt hpasses'] at ho'
  exact ⟨_, (Except.ok.inj ho').symm, rfl⟩

/-- **Under looser thresholds the notes found before are found again**, in their order. -/
theorem timings_sublist (hlevels : ∀ i j, Scalar.ofInt 0 ≤ c.level i j) (h : t'.Looser t)
    (hleast : least' ≤ least) {segments : List (R × R)}
    {found found' : List (Option (HeardNote F R))}
    (hfound : List.Forall₂ (fun s o => c.noteBetween t least s.1 s.2 = .ok o) segments found)
    (hfound' : List.Forall₂ (fun s o => c.noteBetween t' least' s.1 s.2 = .ok o) segments found') :
    ((found.filterMap id).map HeardNote.timing).Sublist
      ((found'.filterMap id).map HeardNote.timing) := by
  induction hfound generalizing found' with
  | nil => exact List.nil_sublist _
  | @cons s o segments found ho _ ih =>
    cases hfound' with
    | @cons _ o' _ found' ho' hrest' =>
      cases o with
      | none =>
        rw [List.filterMap_cons_none rfl]
        cases o' with
        | none =>
          rw [List.filterMap_cons_none rfl]
          exact ih hrest'
        | some n' =>
          rw [List.filterMap_cons_some (f := id) rfl, List.map_cons]
          exact (ih hrest').cons _
      | some n =>
        obtain ⟨n', rfl, htiming⟩ := timing_of_looser hlevels h hleast ho ho'
        rw [List.filterMap_cons_some (f := id) rfl, List.filterMap_cons_some (f := id) rfl,
          List.map_cons, List.map_cons, htiming]
        exact (ih hrest').cons_cons _

end

/-! ## §4 Two passes -/

variable [Scalar.Steady R] [Scalar.Proportional R]

/-- **A pass with looser thresholds loses no note**, or stops at a time without a sample. -/
theorem notes_of_looser (hrate : 0 < c.rate) (hhop : 0 < c.hop)
    (hlevels : ∀ i j, Scalar.ofInt 0 ≤ c.level i j) (honsets : ∀ x ∈ c.onsets, x ≤ x)
    (h : t'.Looser t) {found : List (HeardNote F R)} (hfound : c.notes t = .ok found) :
    (∃ found', c.notes t' = .ok found' ∧
      (found.map HeardNote.timing).Sublist (found'.map HeardNote.timing)) ∨
    ∃ duration, c.duration = .ok duration ∧
      ∃ time ∈ Scalar.ofInt 0 :: c.onsets ++ [duration], ∃ e,
        c.sampleAt time = .error e ∧ c.notes t' = .error e := by
  obtain ⟨least, bounds, notes, hleast, hbounds, hnotes, rfl⟩ := notes_eq_ok.mp hfound
  obtain ⟨least', hleast', hle⟩ := leastDuration_of_looser hrate hhop h hleast
  cases hrun : c.notes t' with
  | ok found' =>
    obtain ⟨_, _, notes', hleast'', hbounds', hnotes', rfl⟩ := notes_eq_ok.mp hrun
    obtain rfl := Except.ok.inj (hleast'.symm.trans hleast'')
    obtain rfl := Except.ok.inj (hbounds.symm.trans hbounds')
    exact .inl ⟨_, rfl, timings_sublist hlevels h hle hnotes hnotes'⟩
  | error e =>
    obtain ⟨duration, hduration, hascending⟩ := Except.bind_eq_ok.mp hbounds
    obtain rfl := Except.ok.inj hascending
    have hnumbers := times_le_self hrate honsets hduration
    obtain ⟨⟨start, stop⟩, hmem, herror⟩ := exists_segment_of_error hleast' hbounds hrun
    have hadjacent := adjacent_of_neighbours (ascending_pairwise hnumbers) hmem
    have hlt := Scalar.not_le_of_lt hadjacent.lt
    refine .inr ⟨duration, hduration, ?_⟩
    rcases noteBetween_eq_error hlevels hlt herror with hsample | hsample
    · exact ⟨start, mem_of_mem_ascending hnumbers hadjacent.start_mem, e, hsample, rfl⟩
    · exact ⟨stop, mem_of_mem_ascending hnumbers hadjacent.stop_mem, e, hsample, rfl⟩

end Contour

namespace Recording

variable {F R S : Type} [Analytic F] [Scalar S] [Sample F S]

/-- The contour of a recording in which these frames and onsets were found. -/
def contour (r : Recording S) (frames : List (Frame F R)) (onsets : List R) (hop : Int) :
    Contour F R :=
  ⟨frames, onsets, r.samples.size, r.rate, hop, r.level⟩

variable [Analytic.Rooted F] [Scalar.Signed F] [Scalar.Steady F]
variable [Scalar R] [Scalar.Steady R] [Scalar.Proportional R]
variable [Scalar.Signed S] [Sample.KeepsSign F S]

/-- **A relaxed pass loses no note.** Thresholds can always be relaxed. Whatever frames and onsets
were found in a recording, if the pass with the thresholds finds notes, the pass with the relaxed
ones finds notes from the same onsets to the same offsets and of the same velocities, in the same
order and perhaps with others between. Only if a time among the onsets and the ends has no sample
does it stop there instead. There are fewer samples than `2 ^ 63`, as in every array. -/
theorem notes_of_relaxed (r : Recording S) (frames : List (Frame F R)) (onsets : List R) {hop : Int}
    (t : Thresholds F) (hrate : 0 < r.rate) (hhop : 0 < hop) (honsets : ∀ x ∈ onsets, x ≤ x)
    (hsamples : ∀ x ∈ r.samples, x ≤ x) (hsize : r.samples.size < 2 ^ 63) :
    ∃ t', t.relaxed = .ok t' ∧ ∀ notes, (r.contour frames onsets hop).notes t = .ok notes →
      (∃ notes', (r.contour frames onsets hop).notes t' = .ok notes' ∧
        (notes.map HeardNote.timing).Sublist (notes'.map HeardNote.timing)) ∨
      ∃ duration, (r.contour frames onsets hop).duration = .ok duration ∧
        ∃ time ∈ Scalar.ofInt 0 :: onsets ++ [duration], ∃ e,
          (r.contour frames onsets hop).sampleAt time = .error e ∧
          (r.contour frames onsets hop).notes t' = .error e :=
  ⟨t.loosened, t.relaxed_eq_ok, fun _ hnotes =>
    Contour.notes_of_looser hrate hhop (level_nonneg hsamples hsize) honsets t.loosened_looser
      hnotes⟩

end Recording

/-! ## §5 A quiet recording -/

namespace Octaves

scoped instance rooted : Analytic.Rooted Rat where
  sqrt_nonneg {x} _ := Rat.sqrt_nonneg x

/-- Two seconds that get quieter. -/
def quietRecording : Recording Rat :=
  ⟨#[1 / 2, -1 / 2, 1 / 2, -1 / 2, 1 / 2, -1 / 20, 1 / 20, -1 / 20], 4⟩

/-- Thresholds that ask for three frames and some loudness. -/
def loudThresholds : Thresholds Rat := { thresholds with leastLevel := 1 / 10 }

/-- The contour of the quiet recording, with the frames and onsets of the other two seconds. -/
def quietContour : Contour Rat Rat := quietRecording.contour contour.frames contour.onsets 1

/-- Only the first second is a note at first, and the relaxed pass finds it again. -/
theorem notes_of_relaxed_of_quiet : 0 < quietRecording.rate ∧ (0 : Int) < 1 ∧
    (∀ x ∈ contour.onsets, x ≤ x) ∧ (∀ x ∈ quietRecording.samples, x ≤ x) ∧
    quietRecording.samples.size < 2 ^ 63 ∧
    ∃ t', loudThresholds.relaxed = .ok t' ∧ ∃ notes', quietContour.notes t' = .ok notes' ∧
      [(0, 1, 100)].Sublist (notes'.map HeardNote.timing) := by
  have hrate : 0 < quietRecording.rate := by decide
  have honsets : ∀ x ∈ contour.onsets, x ≤ x := fun _ _ => le_rfl
  have hsamples : ∀ x ∈ quietRecording.samples, x ≤ x := fun _ _ => le_rfl
  have hsize : quietRecording.samples.size < 2 ^ 63 := by decide
  have hrun : (quietContour.notes loudThresholds).map (List.map HeardNote.timing) =
      .ok [(0, 1, 100)] := by
    set_option maxRecDepth 2000 in cbv
  obtain ⟨t', hrelaxed, hpass⟩ := quietRecording.notes_of_relaxed contour.frames contour.onsets
    loudThresholds hrate zero_lt_one honsets hsamples hsize
  refine ⟨hrate, zero_lt_one, honsets, hsamples, hsize, t', hrelaxed, ?_⟩
  cases hnotes : quietContour.notes loudThresholds with
  | error e =>
    rw [hnotes] at hrun
    cases hrun
  | ok notes =>
    rw [hnotes] at hrun
    rcases hpass notes hnotes with ⟨notes', hnotes', hsublist⟩ | ⟨_, _, time, _, e, hsample, _⟩
    · exact ⟨notes', hnotes', Except.ok.inj hrun ▸ hsublist⟩
    · -- In exact arithmetic there is a sample at every time
      obtain ⟨i, hi⟩ := quietContour.exists_sampleAt time
      cases hi.symm.trans hsample

end Octaves

/-! ## §6 A far onset -/

namespace Contour

/-- A time far beyond the end comes last. -/
theorem ascending_of_far {R : Type} [Scalar R] [Scalar.Steady R] {zero far last : R}
    (hlow : zero < last) (hhigh : last < far) : ascending [zero, far, last] = [zero, last, far] := by
  have hlast := Scalar.le_of_lt hlow
  have hfar := Scalar.le_of_lt hhigh
  have hfirst := (Scalar.Steady.le_refl_of_le hlast).1
  have hends := Scalar.Steady.le_refl_of_le hfar
  rw [ascending_eq (by simp [hfirst, hends])]
  simp [List.mergeSort, List.MergeSort.Internal.splitInTwo, distinct, Scalar.same, hlast, hfar,
    Scalar.Orderly.le_trans hlast hfar, Scalar.not_le_of_lt hlow,
    Scalar.not_le_of_lt hhigh]

/-- A second of two samples, and an onset so far beyond it that no machine number counts the
samples up to it. -/
def far : Contour Float Float :=
  (⟨#[0.5, 0.5], 2⟩ : Recording Float32).contour [] [9.1e307] 512

/-- Thresholds that ask for very many frames. -/
def manyFrames : Thresholds Float :=
  ⟨0.5, 0.3, 5 * 10 ^ 205 * 10 ^ 100, 0.01, 0, by decide +kernel, by decide +kernel, by decide⟩

theorem far_boundaries : far.boundaries = .ok [Scalar.ofInt 0, Scalar.ofQuotient 2 2, 9.1e307] := by
  have hduration : far.duration = .ok (Scalar.ofQuotient 2 2) :=
    (quotientOfInts_eq_ok (by decide)).mpr ⟨rfl, by decide +kernel⟩
  rw [boundaries, hduration, Except.ok_bind]
  exact congrArg Except.ok (ascending_of_far (by decide +kernel) (by decide +kernel))

/-- A segment that is too short is no note. -/
theorem noteBetween_of_short {F R : Type} [Analytic F] [Scalar R] {c : Contour F R}
    {t : Thresholds F} {least start stop : R} (h : stop - start < least) :
    c.noteBetween t least start stop = .ok none := if_pos h

/-- **A relaxed pass may stop where the pass before it did not look.** The onset is finite. No
segment is as long as the frames that are asked for at first, but to the relaxed pass the last one is
long enough, and it asks for the samples of it. -/
theorem relaxed_pass_stops : (∀ x ∈ far.onsets, ∃ q, Scalar.reading x = .finite q) ∧
    far.notes manyFrames = .ok [] ∧
    (manyFrames.relaxed >>= far.notes) = .error .infiniteInteger := by
  refine ⟨by decide +kernel, ?_, ?_⟩
  · have hleast : far.leastDuration manyFrames = .ok _ :=
      (quotientOfInts_eq_ok (by decide)).mpr ⟨rfl, by decide +kernel⟩
    refine notes_eq_ok.mpr ⟨_, _, [none, none], hleast, far_boundaries, ?_, rfl⟩
    exact .cons (noteBetween_of_short (by decide +kernel))
      (.cons (noteBetween_of_short (by decide +kernel)) .nil)
  · have hleast : far.leastDuration manyFrames.loosened = .ok (Scalar.ofQuotient 512 2) :=
      (quotientOfInts_eq_ok (by decide)).mpr ⟨rfl, by decide +kernel⟩
    have hfirst : far.noteBetween manyFrames.loosened (Scalar.ofQuotient 512 2) (Scalar.ofInt 0)
        (Scalar.ofQuotient 2 2) = .ok none := noteBetween_of_short (by decide +kernel)
    have hlast : far.noteBetween manyFrames.loosened (Scalar.ofQuotient 512 2)
        (Scalar.ofQuotient 2 2) 9.1e307 = .error .infiniteInteger := by
      have hrun : (far.noteBetween manyFrames.loosened (Scalar.ofQuotient 512 2)
          (Scalar.ofQuotient 2 2) 9.1e307).map (fun _ => ()) = .error .infiniteInteger := by
        decide +kernel
      exact Except.map_eq_error.mp hrun
    rw [Thresholds.relaxed_eq_ok, Except.ok_bind, notes, hleast, Except.ok_bind, far_boundaries,
      Except.ok_bind]
    show (List.mapM _ [(_, _), (_, _)] >>= _) = _
    simp only [List.mapM_cons, hfirst, hlast]
    rfl

end Contour

end Lamella
