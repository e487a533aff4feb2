import Lamella.Layout.Generate
import Lamella.Proofs.Layout.Labels
import Lamella.Proofs.Result
import Lamella.Proofs.Scalar.Exact
import Mathlib.Data.List.GetD
import Mathlib.Data.List.Nodup

/-!
# Keys and their pitches

A key is looked up by its index. The keys of a layout are tuned to whole pitch numbers, no two of
them to the same: in a generated layout since pitch rises from the middle outwards, and on the
calibrated instruments since no note is listed twice.

## Main definitions

- `Layout.Tuned`: the keys have the frequencies of whole pitch numbers.
- `Layout.KeepsPitches`: the frequencies lead back next to the numbers.
- `Layout.stepAt`: the step of the climb that lies at an index.

## Main statements

- `Layout.get_index`: a key is looked up by its index.
- `Layout.exists_key_of_resolveIn`: what a label leads to is a key.
- `Layout.tuned_of_places`: how layouts are shown to be tuned.
- `Layout.tuned_of_table`, `Tuning.tuned_of_generate`: calibrated and generated layouts are tuned.
-/

namespace Lamella

namespace Layout

variable {F : Type} (l : Layout F)

/-! ## §1 Keys and their indices -/

/-- A key is looked up by its index. -/
theorem get_index {k : Key F} (hk : k ∈ l.keys) :
    0 ≤ k.index ∧ k.index < l.size ∧ l.get k.index = .ok k := by
  obtain ⟨i, hi, rfl⟩ := List.getElem_of_mem hk
  have hindex : l.keys[i].index = i := by
    have hmap := congrArg (·[i]?) l.indices_eq
    simpa [hi] using hmap
  have hnonneg : (0 : ℤ) ≤ i := Int.natCast_nonneg i
  refine ⟨hindex ▸ hnonneg, ?_, ?_⟩
  · rw [hindex, size]
    exact_mod_cast hi
  · rw [hindex, get, at?, if_pos hnonneg, Int.toNat_natCast, List.getElem?_eq_getElem hi]

theorem eq_of_index_eq {k k' : Key F} (hk : k ∈ l.keys) (hk' : k' ∈ l.keys)
    (h : k.index = k'.index) : k = k' := by
  have hget := (l.get_index hk).2.2
  rw [h, (l.get_index hk').2.2] at hget
  exact (Except.ok.inj hget).symm

/-- Each address of a table was there before or was entered by a key, by its own label. -/
theorem mem_foldl_enter {keys : List (Key F)} {table : List Address} {a : Address}
    (ha : a ∈ keys.foldl enter table) :
    a ∈ table ∨ ∃ k ∈ keys, k.index = a.index ∧ k.label? = some a.label := by
  induction keys generalizing table with
  | nil => exact .inl ha
  | cons k keys ih =>
    rcases ih ha with hentered | ⟨k', hk', hkey⟩
    · rcases mem_enter hentered with ha | ⟨hindex, hlabel⟩
      · exact .inl ha
      · exact .inr ⟨k, List.mem_cons_self, hindex.symm, hlabel⟩
    · exact .inr ⟨k', List.mem_cons_of_mem k hk', hkey⟩

/-- What a label leads to is a key of the layout. -/
theorem exists_key_of_resolveIn {label : Text} {index : Int}
    (h : resolveIn l.addresses label = some index) : ∃ k ∈ l.keys, k.index = index := by
  obtain ⟨label', -, hindex⟩ := Option.bind_eq_some_iff.mp h
  obtain ⟨a, hfound, rfl⟩ := Option.map_eq_some_iff.mp hindex
  obtain ⟨k, hk, hindex, -⟩ :=
    (mem_foldl_enter (List.mem_of_find?_eq_some hfound)).resolve_left List.not_mem_nil
  exact ⟨k, hk, hindex⟩

/-- Making a layout only puts the keys in order. -/
theorem keys_perm_of_make {keys : List (Key F)} {name : Text} {calibrated : Bool} {l : Layout F}
    (h : make keys name calibrated = .ok l) : l.keys.Perm keys := by
  unfold make at h
  dsimp only at h
  split_ifs at h
  cases h
  exact List.mergeSort_perm keys _

variable [Analytic F]

/-- A layout whose keys have the frequencies of whole pitch numbers, no two of the same. -/
structure Tuned (pitch : Int → Int) : Prop where
  frequency : ∀ k ∈ l.keys, Pitch.frequencyOfNumber (pitch k.index) = .ok k.frequency
  distinct : ∀ k ∈ l.keys, ∀ k' ∈ l.keys, pitch k.index = pitch k'.index → k.index = k'.index

/-- The pitch that is computed from the frequency of a key is off by a tenth of a semitone at
most. -/
def KeepsPitches (pitch : Int → Int) : Prop :=
  ∀ k ∈ l.keys, ∃ x, Scalar.reading (Pitch.ofFrequency k.frequency) = .finite x ∧
    |x - pitch k.index| ≤ 1 / 10

variable {l}

/-- A layout is tuned if its keys come from places whose pitch numbers differ, and the place of a
key can be told by its index. -/
theorem tuned_of_places {index : Nat → Int} {place : Int → Nat} (hplace : ∀ i, place (index i) = i)
    {number : Nat → Int} {places : Set Nat} (hdistinct : places.InjOn number)
    (hkeys : ∀ k ∈ l.keys, ∃ i ∈ places, k.index = index i ∧
      Pitch.frequencyOfNumber (number i) = .ok k.frequency) :
    l.Tuned fun i => number (place i) := by
  constructor
  · intro k hk
    obtain ⟨i, -, hindex, hfrequency⟩ := hkeys k hk
    rw [hindex, hplace]
    exact hfrequency
  · intro k hk k' hk' hsame
    obtain ⟨i, hi, hindex, -⟩ := hkeys k hk
    obtain ⟨i', hi', hindex', -⟩ := hkeys k' hk'
    rw [hindex, hindex', hplace, hplace] at hsame
    rw [hindex, hindex', hdistinct hi hi' hsame]

/-! ## §2 Calibrated instruments -/

/-- The pitch number of a listed key. -/
def Row.pitch (r : Row) : Int :=
  match Pitch.ofName r.note (some r.octave) with
  | .ok (pitchClass, octave) => Pitch.number pitchClass (octave.getD r.octave)
  | .error _ => 0

/-- No instrument lists a note twice. -/
theorem nodup_pitch_of_rows {size : Int} {rows : List Row} (h : rows? size = some rows) :
    (rows.map Row.pitch).Nodup := by
  unfold rows? at h
  split_ifs at h
  · cases h
    decide +kernel
  · cases h
    decide +kernel

theorem toKey_eq_ok {place : Nat} {r : Row} {k : Key F} (h : r.toKey place = .ok k) :
    k.index = place ∧ Pitch.frequencyOfNumber r.pitch = .ok k.frequency := by
  obtain ⟨frequency, hfrequency, hkey⟩ := Except.bind_eq_ok.mp h
  cases hkey
  obtain ⟨⟨pitchClass, octave⟩, hname, hnumber⟩ := Except.bind_eq_ok.mp hfrequency
  refine ⟨rfl, ?_⟩
  rw [Row.pitch, hname]
  exact hnumber

/-- **Calibrated instruments are tuned.** -/
theorem tuned_of_table {size : Int} {l : Layout F} (h : ofTable size = .ok l) :
    ∃ pitch, l.Tuned pitch := by
  unfold ofTable at h
  cases hrows : rows? size with
  | none => simp [hrows] at h
  | some rows =>
    rw [hrows] at h
    obtain ⟨keys, hkeys, hmake⟩ := Except.bind_eq_ok.mp h
    let number : Nat → Int := fun i => (rows.map Row.pitch).getD i 0
    have hnumber : ∀ {i} (hi : i < rows.length), number i = (rows[i]).pitch := by
      intro i hi
      simp [number, hi]
    have hdistinct : Set.InjOn number {i | i < rows.length} := by
      intro i hi j hj hsame
      have hi' : i < (rows.map Row.pitch).length := by simpa using hi
      have hj' : j < (rows.map Row.pitch).length := by simpa using hj
      have hsame' : (rows.map Row.pitch)[i] = (rows.map Row.pitch)[j] := by
        rw [List.getElem_map, List.getElem_map, ← hnumber hi, ← hnumber hj, hsame]
      exact (nodup_pitch_of_rows hrows).getElem_inj_iff.mp hsame'
    refine ⟨_, tuned_of_places Int.toNat_natCast hdistinct fun k hk => ?_⟩
    obtain ⟨⟨r, i⟩, hmem, hkey⟩ :=
      (Except.mapM_eq_ok.mp hkeys).exists_left ((keys_perm_of_make hmake).mem_iff.mp hk)
    obtain ⟨hindex, hfrequency⟩ := toKey_eq_ok hkey
    obtain ⟨hi, rfl⟩ := List.getElem?_eq_some_iff.mp (List.mk_mem_zipIdx_iff_getElem?.mp hmem)
    exact ⟨i, hi, hindex, by rw [hnumber hi, hfrequency]⟩

/-! ## §3 The climb from the middle outwards -/

/-- The step of the climb that lies at an index of a row of keys. -/
def stepAt (count : Nat) (index : Int) : Nat :=
  let center : Int := (count / 2 : Nat)
  if index < center then (2 * (center - index) - 1).toNat else (2 * (index - center)).toNat

theorem stepAt_position (count step : Nat) : stepAt count (position count step) = step := by
  unfold stepAt position
  dsimp only
  split_ifs <;> omega

theorem position_stepAt (count : Nat) (index : Int) :
    position count (stepAt count index) = index := by
  unfold stepAt position
  dsimp only
  split_ifs <;> omega

end Layout

namespace Tuning

/-- The steps of a scale lie within an octave. -/
theorem semitones_bounds (scale : Scale) : ∀ i < scale.steps.length,
    0 ≤ (scale.steps.getD i (0, 0)).1 ∧ (scale.steps.getD i (0, 0)).1 < 12 := by
  cases scale <;> decide

/-- Within an octave the steps of a scale rise. -/
theorem semitones_rise (scale : Scale) : ∀ i < scale.steps.length, ∀ j < scale.steps.length,
    i < j → (scale.steps.getD i (0, 0)).1 < (scale.steps.getD j (0, 0)).1 := by
  cases scale <;> decide

theorem steps_length_pos (scale : Scale) : 0 < scale.steps.length := by cases scale <;> decide

/-- **Pitch rises with each step of the climb.** -/
theorem pitchOf_lt (scale : Scale) (root : Int) {s t : Nat} (h : s < t) :
    pitchOf scale root s < pitchOf scale root t := by
  have hs := Nat.mod_lt s (steps_length_pos scale)
  have ht := Nat.mod_lt t (steps_length_pos scale)
  obtain ⟨hslow, hshigh⟩ := semitones_bounds scale _ hs
  obtain ⟨htlow, hthigh⟩ := semitones_bounds scale _ ht
  dsimp only [pitchOf]
  rcases (Nat.div_le_div_right h.le : s / scale.steps.length ≤ t / scale.steps.length).lt_or_eq
    with hoctave | hoctave
  · omega
  · -- In one octave the later step is later within it
    have hsplit := Nat.div_add_mod s scale.steps.length
    have hsplit' := Nat.div_add_mod t scale.steps.length
    rw [hoctave] at hsplit
    have hrise := semitones_rise scale _ hs _ ht (by omega)
    omega

variable {F : Type} [Analytic F]

/-- **Generated layouts are tuned**, also where they are taken from a list. -/
theorem tuned_of_generate {t : Tuning} {count : Int} {l : Layout F}
    (h : t.generate count = .ok l) : ∃ pitch, l.Tuned pitch := by
  unfold generate at h
  split_ifs at h with hcount hlisted
  · exact Layout.tuned_of_table h
  · obtain ⟨keys, hkeys, hmake⟩ := Except.bind_eq_ok.mp h
    -- Without a root no key could have been made
    let root := t.rootNumber.toOption.getD 0
    have hrise : StrictMono (pitchOf t.scale root) := fun _ _ => pitchOf_lt t.scale root
    have hdistinct : Set.univ.InjOn (pitchOf t.scale root) := hrise.injective.injOn
    refine ⟨_, Layout.tuned_of_places (Layout.stepAt_position count.toNat) hdistinct
      fun k hk => ?_⟩
    obtain ⟨step, -, hkey⟩ :=
      (Except.mapM_eq_ok.mp hkeys).exists_left ((Layout.keys_perm_of_make hmake).mem_iff.mp hk)
    obtain ⟨number, hnumber, hkey⟩ := Except.bind_eq_ok.mp hkey
    obtain ⟨frequency, hfrequency, hkey⟩ := Except.bind_eq_ok.mp hkey
    cases hkey
    have hroot : root = number := by simp only [root, hnumber, Except.toOption, Option.getD_some]
    rw [hroot]
    exact ⟨step, Set.mem_univ step, rfl, hfrequency⟩

end Tuning

end Lamella
