import Lamella.Proofs.Scalar.Octaves
import Lamella.Proofs.Scalar.Steady
import Lamella.Proofs.Session.Returning
import Lamella.Proofs.Song.Admitted
import Lamella.Proofs.Synth.Cache
import Lamella.Proofs.Transcript.Capture
import Mathlib.Order.Bounds.Basic
import Mathlib.Tactic.Ring

/-!
# What is heard of a song

A song is mixed note by note: each voice is added from the place of its time on to a row of samples,
which is made longer where the voice goes on after its end, and at last the row is made quieter by its
peak. In exact samples nothing of that depends on how far the row had grown when a voice was added: the
mix is the sum of the voices, each at its own place.

What is struck is told apart from what is heard of it. `Engine.Performs` follows the notes and the
tones that are kept, and `Engine.Mixes` is about the voices only.

## Main definitions

- `Engine.heardAt`, `Engine.mixedAt`: what is heard at a place of samples, and of voices together.
- `Engine.Mixes`: what a mix of voices is.
- `Engine.Playable`: songs that an engine can play.
- `Engine.Performs`: what an engine strikes for notes, one after another.

## Main statements

- `Engine.addFrom_spec`: adding a voice adds each of its samples once, at its place.
- `Engine.isGreatest_peak`, `Engine.limited_spec`: the peak, and a mix that is made quieter by it.
- `Engine.song_mixes_strikes`: what is heard of a song that can be played.
- `Engine.playable_of_exact`: in exact numbers songs can be played at every rate above zero.
- `Engine.unplayable_songs_refused`: songs that cannot be played.
-/

namespace Lamella.Engine

/-! ## §1 Samples at places -/

/-- What is heard at a place of a row of samples, before its end and after it. -/
def heardAt (samples : Array ℚ) (i : ℕ) : ℚ := samples[i]?.getD 0

theorem heardAt_of_size_le {samples : Array ℚ} {i : ℕ} (h : samples.size ≤ i) :
    heardAt samples i = 0 := by
  rw [heardAt, Array.getElem?_eq_none h, Option.getD_none]

theorem heardAt_of_lt {samples : Array ℚ} {i : ℕ} (h : i < samples.size) :
    heardAt samples i = samples[i] := by
  rw [heardAt, Array.getElem?_eq_getElem h, Option.getD_some]

@[simp] theorem heardAt_silence (count i : ℕ) : heardAt (silence count) i = 0 := by
  by_cases h : i < count <;> simp [heardAt, silence, h]

/-- A mix that is made longer goes on in silence. -/
theorem heardAt_grown (out : Array ℚ) (count i : ℕ) : heardAt (grown out count) i = heardAt out i := by
  by_cases h : i < out.size
  · rw [heardAt, grown, Array.getElem?_append_left h, heardAt]
  · have hle : out.size ≤ i := not_lt.mp h
    rw [heardAt, grown, Array.getElem?_append_right hle, heardAt_of_size_le hle]
    exact heardAt_silence _ _

theorem size_grown (out : Array ℚ) (count : ℕ) : (grown out count).size = max out.size count := by
  simp [grown, silence]
  omega

/-- Adding numbers from a place on, as many as there is room for. -/
theorem fold_modify (f : ℕ → ℚ) (start n : ℕ) (out : Array ℚ) (hroom : start + n ≤ out.size) :
    (n.fold (fun i _ out => out.modify (start + i) (· + f i)) out).size = out.size ∧
      ∀ i, heardAt (n.fold (fun i _ out => out.modify (start + i) (· + f i)) out) i =
        heardAt out i + if start ≤ i ∧ i < start + n then f (i - start) else 0 := by
  induction n with
  | zero =>
    refine ⟨rfl, fun i => ?_⟩
    rw [if_neg (by omega), add_zero]
    rfl
  | succ n ih =>
    obtain ⟨hsize, hheard⟩ := ih (by omega)
    rw [Nat.fold_succ]
    set mixed := n.fold (fun i _ out => out.modify (start + i) (· + f i)) out
    refine ⟨by rw [Array.size_modify, hsize], fun i => ?_⟩
    have hmodified : heardAt (mixed.modify (start + n) (· + f n)) i =
        heardAt mixed i + if start + n = i then f n else 0 := by
      rw [heardAt, Array.getElem?_modify]
      split
      · rename_i hi
        have hlt : i < mixed.size := by omega
        simp [heardAt, hlt]
      · rw [add_zero, heardAt]
    rw [hmodified, hheard]
    by_cases hi : start + n = i
    · -- The last number is added to a place that was left as it is
      rw [if_neg (by omega), if_pos hi, if_pos (by omega), add_zero, ← hi, Nat.add_sub_cancel_left]
    · rw [if_neg hi, add_zero]
      congr 1
      exact if_congr (by omega) rfl rfl

/-- **Adding a voice**: every sample of it is added once, from the place on, and nothing else. -/
theorem addFrom_spec (out : Array ℚ) (start : ℕ) (voice : Array ℚ) :
    (addFrom out start voice).size = max out.size (start + voice.size) ∧
      ∀ i, heardAt (addFrom out start voice) i =
        heardAt out i + if start ≤ i then heardAt voice (i - start) else 0 := by
  have hsamples : (fun i (h : i < voice.size) (out : Array ℚ) =>
      out.modify (start + i) (· + voice[i])) =
      fun i _ out => out.modify (start + i) (· + heardAt voice i) := by
    funext i h out
    rw [heardAt_of_lt h]
  have hroom : start + voice.size ≤ (grown out (start + voice.size)).size := by
    rw [size_grown]
    exact le_max_right _ _
  obtain ⟨hsize, hheard⟩ := fold_modify (heardAt voice) start voice.size _ hroom
  have hadd : addFrom out start voice = voice.size.fold
      (fun i _ out => out.modify (start + i) (· + heardAt voice i))
      (grown out (start + voice.size)) := by
    rw [← hsamples]
    rfl
  rw [hadd]
  refine ⟨hsize.trans (size_grown _ _), fun i => ?_⟩
  rw [hheard, heardAt_grown]
  congr 1
  by_cases hstart : start ≤ i
  · rw [if_pos hstart]
    split
    · rfl
    · exact (heardAt_of_size_le (by omega)).symm
  · rw [if_neg hstart, if_neg fun h => hstart h.1]

/-! ## §2 The loudest sample -/

/-- The largest of a number and some others, found by going through these. -/
theorem isGreatest_foldl_max {α β : Type} [LinearOrder α] (f : β → α) (xs : List β) (a : α) :
    IsGreatest (insert a {y | ∃ x ∈ xs, f x = y}) (xs.foldl (fun m x => max m (f x)) a) := by
  induction xs generalizing a with
  | nil => simp [IsGreatest]
  | cons x rest ih =>
    obtain ⟨hmem, hupper⟩ := ih (max a (f x))
    rw [List.foldl_cons]
    set m := rest.foldl (fun m x => max m (f x)) (max a (f x))
    have hfirst : max a (f x) ≤ m := hupper (Set.mem_insert _ _)
    constructor
    · rcases hmem with hmax | ⟨y, hy, hsame⟩
      · rw [hmax]
        rcases max_choice a (f x) with h | h
        · exact .inl h
        · exact .inr ⟨x, List.mem_cons_self, h.symm⟩
      · exact .inr ⟨y, List.mem_cons_of_mem x hy, hsame⟩
    · rintro y (rfl | ⟨z, hz, rfl⟩)
      · exact (le_max_left _ _).trans hfirst
      · rcases List.mem_cons.mp hz with rfl | hz
        · exact (le_max_right _ _).trans hfirst
        · exact hupper (.inr ⟨z, hz, rfl⟩)

theorem outweighing_rat (a b : ℚ) : Recording.outweighing a b = max a b := by
  unfold Recording.outweighing
  split
  · rename_i h
    exact (max_eq_right h.le).symm
  · rename_i h
    rw [if_pos le_rfl, max_eq_left (not_lt.mp h)]

/-- **The peak** is the greatest magnitude that is heard, or nothing. -/
theorem isGreatest_peak (samples : Array ℚ) :
    IsGreatest (insert 0 {y | ∃ i < samples.size, |heardAt samples i| = y})
      (Recording.peak samples) := by
  have hplaces : {y | ∃ i < samples.size, |heardAt samples i| = y} =
      {y | ∃ x ∈ samples.toList, |x| = y} := by
    ext y
    constructor
    · rintro ⟨i, hi, rfl⟩
      rw [heardAt_of_lt hi]
      exact ⟨samples[i], by simp, rfl⟩
    · rintro ⟨x, hx, rfl⟩
      obtain ⟨i, hi, rfl⟩ := List.getElem_of_mem hx
      exact ⟨i, by simpa using hi, by rw [heardAt_of_lt (by simpa using hi)]; rfl⟩
  rw [hplaces]
  rcases samples with ⟨_ | ⟨x, rest⟩⟩
  · simp [Recording.peak, IsGreatest]
  · have hpeak : Recording.peak (x :: rest).toArray =
        rest.foldl (fun m y => max m |y|) |x| := by
      have hfold : Recording.peak (x :: rest).toArray = (x :: rest).toArray.foldl
          (fun m y => Recording.outweighing m (Scalar.abs y)) (Scalar.abs x) 1 := rfl
      rw [hfold, Array.foldl_eq_foldl_extract]
      simp [outweighing_rat, Scalar.abs_rat]
    obtain ⟨hmem, hupper⟩ := isGreatest_foldl_max (fun y : ℚ => |y|) rest |x|
    rw [hpeak]
    constructor
    · rcases hmem with h | ⟨y, hy, hsame⟩
      · exact .inr ⟨x, List.mem_cons_self, h.symm⟩
      · exact .inr ⟨y, List.mem_cons_of_mem x hy, hsame⟩
    · rintro y (rfl | ⟨z, hz, rfl⟩)
      · exact (abs_nonneg x).trans (hupper (Set.mem_insert _ _))
      · rcases List.mem_cons.mp hz with rfl | hz
        · exact hupper (Set.mem_insert _ _)
        · exact hupper (.inr ⟨z, hz, rfl⟩)

/-- **A mix is made quieter** by its peak, if that is more than one. -/
theorem limited_spec (out : Array ℚ) :
    (limited out).size = out.size ∧
      ∀ i, heardAt (limited out) i = heardAt out i / max 1 (Recording.peak out) := by
  unfold limited
  dsimp only
  split
  · rename_i hloud
    have hpeak : max 1 (Recording.peak out) = Recording.peak out := max_eq_right hloud.le
    refine ⟨Array.size_map, fun i => ?_⟩
    rw [hpeak, heardAt, Array.getElem?_map, heardAt]
    cases out[i]? with
    | none => simp
    | some x => rfl
  · rename_i hquiet
    have hpeak : max 1 (Recording.peak out) = 1 := max_eq_left (not_lt.mp hquiet)
    refine ⟨rfl, fun i => ?_⟩
    rw [hpeak, div_one]

/-! ## §3 Mixes -/

/-- What is heard at a place of voices that begin at places of their own: the sum of them, of which
each is silent before its beginning and after its end. -/
def mixedAt (strikes : List (ℕ × Array ℚ)) (i : ℕ) : ℚ :=
  (strikes.map fun s => if s.1 ≤ i then heardAt s.2 (i - s.1) else 0).sum

/-- Voices added one after another. -/
theorem foldl_addFrom (strikes : List (ℕ × Array ℚ)) (out : Array ℚ) :
    (strikes.foldl (fun out s => addFrom out s.1 s.2) out).size =
        strikes.foldl (fun m s => max m (s.1 + s.2.size)) out.size ∧
      ∀ i, heardAt (strikes.foldl (fun out s => addFrom out s.1 s.2) out) i =
        heardAt out i + mixedAt strikes i := by
  induction strikes generalizing out with
  | nil => exact ⟨rfl, fun i => by simp [mixedAt]⟩
  | cons s rest ih =>
    obtain ⟨hsize, hheard⟩ := ih (addFrom out s.1 s.2)
    obtain ⟨hsizeOne, hheardOne⟩ := addFrom_spec out s.1 s.2
    rw [List.foldl_cons, List.foldl_cons, ← hsizeOne]
    refine ⟨hsize, fun i => ?_⟩
    rw [hheard, hheardOne, add_assoc]
    rfl

/-- What a mix of voices is, of a length that was asked for. It is as long as that, or up to the latest
end of a voice if that is longer. At each place it is the sum of the voices there, divided by the
greatest magnitude of that sum if that is more than one, so that nothing is louder than one. -/
structure Mixes (length : ℕ) (strikes : List (ℕ × Array ℚ)) (out : Array ℚ) : Prop where
  size : IsGreatest (insert length {m | ∃ s ∈ strikes, s.1 + s.2.size = m}) out.size
  samples : ∃ peak, IsGreatest (insert 0 {y | ∃ i < out.size, |mixedAt strikes i| = y}) peak ∧
    ∀ i (hi : i < out.size), out[i] = mixedAt strikes i / max 1 peak
  quiet : ∀ x ∈ out, |x| ≤ 1

/-- Voices that are added to silence and made quieter are a mix of them. -/
theorem mixes_limited (length : ℕ) (strikes : List (ℕ × Array ℚ)) :
    Mixes length strikes
      (limited (strikes.foldl (fun out s => addFrom out s.1 s.2) (silence length))) := by
  obtain ⟨hsize, hheard⟩ := foldl_addFrom strikes (silence length)
  set mix := strikes.foldl (fun out s => addFrom out s.1 s.2) (silence length)
  obtain ⟨hlimited, hquiet⟩ := limited_spec mix
  -- The mix begins in silence, so it is the sum of what was added
  have hsum : ∀ i, heardAt mix i = mixedAt strikes i := fun i => by
    rw [hheard, heardAt_silence, zero_add]
  have hpeak : IsGreatest (insert 0 {y | ∃ i < mix.size, |mixedAt strikes i| = y})
      (Recording.peak mix) := by
    simp only [← hsum]
    exact isGreatest_peak mix
  have hout : ∀ i (hi : i < (limited mix).size),
      (limited mix)[i] = mixedAt strikes i / max 1 (Recording.peak mix) := by
    intro i hi
    rw [← hsum, ← hquiet, heardAt_of_lt hi]
  refine ⟨?_, ⟨Recording.peak mix, hlimited ▸ hpeak, hout⟩, fun x hx => ?_⟩
  · rw [hlimited, hsize]
    simpa [silence] using isGreatest_foldl_max (fun s : ℕ × Array ℚ => s.1 + s.2.size) strikes length
  · obtain ⟨i, hi, rfl⟩ := Array.mem_iff_getElem.mp hx
    have hpos : (0 : ℚ) < max 1 (Recording.peak mix) := lt_max_of_lt_left one_pos
    have hle : |mixedAt strikes i| ≤ Recording.peak mix := hpeak.2 (.inr ⟨i, hlimited ▸ hi, rfl⟩)
    rw [hout i hi, abs_div, abs_of_pos hpos, div_le_one hpos]
    exact hle.trans (le_max_right _ _)

/-! ## §4 Counts of samples -/

variable {R : Type} [Analytic R] {e : Engine R}

/-- A time with a count of samples: so many as are a finite number. -/
def IsCountable (e : Engine R) (time : R) : Prop :=
  ∃ q, Scalar.reading (time * Scalar.ofInt e.rate) = .finite q

/-- A rate that is a number above zero. -/
structure HasRate (e : Engine R) : Prop where
  pos : 0 < e.rate
  scalar : ∃ q, Scalar.reading (Scalar.ofInt e.rate : R) = .finite q ∧ 0 < q

theorem HasRate.count_eq (hrate : e.HasRate) {time : R} {r : ℚ}
    (h : Scalar.reading (time * Scalar.ofInt e.rate) = .finite r) :
    Envelope.count time e.rate = .ok (roundHalfEven r) := by
  obtain ⟨q, hq, -⟩ := hrate.scalar
  rw [Envelope.count, Value.scalarOfInt_of_reading hq, Except.ok_bind, Scalar.round, h]
  rfl

theorem HasRate.exists_count (hrate : e.HasRate) {time : R} (h : e.IsCountable time) :
    ∃ n, Envelope.count time e.rate = .ok n := by
  obtain ⟨r, hr⟩ := h
  exact ⟨roundHalfEven r, hrate.count_eq hr⟩

section

variable [Scalar.Steady R] [Scalar.Faithful R]

/-- A time that is not before zero is not counted below zero. -/
theorem HasRate.nonneg (hrate : e.HasRate) {time : R} (htime : ¬ time < Scalar.ofInt 0) {r : ℚ}
    (h : Scalar.reading (time * Scalar.ofInt e.rate) = .finite r) : 0 ≤ r := by
  obtain ⟨q, hq, hpos⟩ := hrate.scalar
  have hnumber : time ≤ time := Scalar.Steady.le_refl_of_mul (Scalar.Steady.le_refl_of_reading h)
  have hle : Scalar.ofInt 0 ≤ time := Scalar.le_of_not_lt Scalar.Comparable.zero_le_zero hnumber htime
  have hproduct := Scalar.Steady.mul_nonneg hq hpos hle
  by_contra hneg
  have hlt := Scalar.Faithful.lt_of_reading h Scalar.Faithful.reading_zero (not_le.mp hneg)
  exact Scalar.Orderly.not_lt_of_le hproduct hlt

theorem HasRate.exists_start (hrate : e.HasRate) {time : R} (htime : ¬ time < Scalar.ofInt 0)
    (h : e.IsCountable time) : ∃ start : ℕ, Envelope.count time e.rate = .ok (start : ℤ) := by
  obtain ⟨r, hr⟩ := h
  obtain ⟨start, hstart⟩ := Int.eq_ofNat_of_zero_le (roundHalfEven_nonneg (hrate.nonneg htime hr))
  exact ⟨start, hstart ▸ hrate.count_eq hr⟩

theorem HasRate.exists_ceil (hrate : e.HasRate) {time : R} (htime : ¬ time < Scalar.ofInt 0)
    (h : e.IsCountable time) :
    ∃ n : ℤ, 0 ≤ n ∧ (Scalar.ceil (time * Scalar.ofInt e.rate)).mapError Fault.ofGap = .ok n := by
  obtain ⟨r, hr⟩ := h
  refine ⟨r.ceil, ?_, by rw [Scalar.ceil, hr]; rfl⟩
  have hceil : (0 : ℚ) ≤ r.ceil := (hrate.nonneg htime hr).trans Rat.le_ceil
  exact_mod_cast hceil

/-- Nothing is no samples. -/
theorem HasRate.isCountable_zero (hrate : e.HasRate) : e.IsCountable (Scalar.ofInt 0 : R) := by
  obtain ⟨q, hq, hpos⟩ := hrate.scalar
  have hzero : (Scalar.ofInt 0 : R) ≤ Scalar.ofInt 0 := Scalar.Comparable.zero_le_zero
  exact Scalar.Steady.reading_of_between Scalar.Faithful.reading_zero Scalar.Faithful.reading_zero
    (Scalar.Steady.mul_nonneg hq hpos hzero) (Scalar.Steady.mul_nonpos hq hpos hzero)

/-- A song of some length asks for a count of samples. -/
theorem HasRate.exists_lengthOf (hrate : e.HasRate) {song : Song R} (hlength : song.duration.IsLength)
    (hcount : ∀ x, song.duration = .num x → e.IsCountable x) :
    ∃ length : ℕ, e.lengthOf song = .ok (length : ℤ) := by
  obtain ⟨q, hq, -⟩ := hrate.scalar
  have hpos := hrate.pos
  have hsamples : ∃ n : ℤ, 0 ≤ n ∧ e.lengthOf song = .ok n := by
    unfold lengthOf
    cases hd : song.duration with
    | num x =>
      rw [hd] at hlength
      -- A zero of either sign is no duration
      let seconds : R := if Scalar.isZero x then Scalar.ofInt 0 else x
      have hseconds : ¬ seconds < Scalar.ofInt 0 ∧ e.IsCountable seconds := by
        simp only [seconds]
        split
        · exact ⟨Scalar.Orderly.not_lt_of_le Scalar.Comparable.zero_le_zero, hrate.isCountable_zero⟩
        · exact ⟨Scalar.Orderly.not_lt_of_le hlength, hcount x hd⟩
      obtain ⟨n, hn, hceil⟩ := hrate.exists_ceil hseconds.1 hseconds.2
      refine ⟨n, hn, ?_⟩
      show (do
        let rate ← Value.scalarOfInt e.rate
        let samples ← (Scalar.ceil (seconds * rate)).mapError Fault.ofGap
        if samples < 0 then throw Fault.negativeLength else return samples) = _
      rw [Value.scalarOfInt_of_reading hq, Except.ok_bind, hceil, Except.ok_bind,
        if_neg (not_lt.mpr hn)]
      rfl
    | int n =>
      rw [hd] at hlength
      have hn : 0 ≤ n * e.rate := Int.mul_nonneg hlength hpos.le
      exact ⟨n * e.rate, hn, if_neg (not_lt.mpr hn)⟩
    | bool b =>
      have hn : 0 ≤ if b then e.rate else 0 := by split <;> omega
      exact ⟨_, hn, if_neg (not_lt.mpr hn)⟩
    | null | str _ | list _ | object _ =>
      rw [hd] at hlength
      exact hlength.elim
  obtain ⟨n, hn, hsamples⟩ := hsamples
  exact ⟨n.toNat, by rw [Int.toNat_of_nonneg hn, hsamples]⟩

end

/-! ## §5 What is struck -/

/-- A song that an engine can play: its duration is a length, no key of it is below zero, and times
that are needed have counts of samples. -/
structure Playable (e : Engine R) (song : Song R) : Prop where
  rate : e.HasRate
  length : song.duration.IsLength
  keys : ∀ n ∈ song.notes, 0 ≤ n.key
  duration : ∀ x, song.duration = .num x → e.IsCountable x
  releases : e.IsCountable amplitude.release ∧ e.IsCountable modulation.release
  notes : ∀ n ∈ song.notes, n.key < e.layout.size → e.IsCountable n.time ∧ e.IsCountable n.duration

/-- In exact numbers every song can be played that has a length and no key below zero, if there is a
rate above zero. -/
theorem playable_of_exact [Scalar.Exact R] {song : Song R} (hrate : 0 < e.rate)
    (hlength : song.duration.IsLength) (hkeys : ∀ n ∈ song.notes, 0 ≤ n.key) : e.Playable song where
  rate := ⟨hrate, e.rate, Scalar.Exact.reading_ofInt e.rate, by exact_mod_cast hrate⟩
  length := hlength
  keys := hkeys
  duration _ _ := Scalar.Exact.exists_reading _
  releases := ⟨Scalar.Exact.exists_reading _, Scalar.Exact.exists_reading _⟩
  notes _ _ _ := ⟨Scalar.Exact.exists_reading _, Scalar.Exact.exists_reading _⟩

variable [Sample R ℚ]

/-- What an engine strikes for notes, one after another: at the place of its time each note gets the
voice that is returned for it then. Notes beyond the end of the layout are left out. -/
inductive Performs (e : Engine R) :
    List (Note R) → Cache ℚ → List (ℕ × Array ℚ) → Cache ℚ → Prop
  | nil {cache : Cache ℚ} : Performs e [] cache [] cache
  | leaveOut {n : Note R} {rest : List (Note R)} {cache cache' : Cache ℚ}
      {strikes : List (ℕ × Array ℚ)} (hbeyond : (e.layout.size : ℤ) ≤ n.key)
      (hrest : Performs e rest cache strikes cache') : Performs e (n :: rest) cache strikes cache'
  | strike {n : Note R} {rest : List (Note R)} {cache between cache' : Cache ℚ} {start : ℕ}
      {voice : Array ℚ} {strikes : List (ℕ × Array ℚ)} (hwithin : n.key < e.layout.size)
      (hvoice : e.key n.key n.duration cache = .ok (voice, between))
      (hstart : Envelope.count n.time e.rate = .ok (start : ℤ))
      (hrest : Performs e rest between strikes cache') :
      Performs e (n :: rest) cache ((start, voice) :: strikes) cache'

/-- What is struck is added to the mix. -/
theorem Performs.addNotes_eq {notes : List (Note R)} {cache cache' : Cache ℚ}
    {strikes : List (ℕ × Array ℚ)} (h : e.Performs notes cache strikes cache') (out : Array ℚ) :
    e.addNotes notes out cache =
      (.ok (strikes.foldl (fun out s => addFrom out s.1 s.2) out), cache') := by
  induction h generalizing out with
  | nil => rfl
  | leaveOut hbeyond _ ih => rw [addNotes, if_pos hbeyond, ih]
  | @strike n rest cache between cache' start voice strikes hwithin hvoice hstart _ ih =>
    have hplaced : placed out (start : ℤ) voice = addFrom out start voice := by
      rw [placed, if_neg (not_lt.mpr (Int.natCast_nonneg start)), Int.toNat_natCast]
    rw [addNotes, if_neg (not_le.mpr hwithin), hvoice]
    dsimp only
    rw [hstart]
    dsimp only
    rw [hplaced, ih, List.foldl_cons]

/-- A key that the layout has is heard if its duration has a count of samples. -/
theorem exists_key {k : Int} {d : R} (hrate : e.HasRate) (hk : e.layout.has k)
    (hreleases : e.IsCountable amplitude.release ∧ e.IsCountable modulation.release)
    (hd : e.IsCountable d) (tones : List ((Int × Int) × Array ℚ)) :
    ∃ voice tones', e.key k d (some tones) = .ok (voice, some tones') := by
  obtain ⟨hold, hhold⟩ := hrate.exists_count hd
  obtain ⟨amp, hamp⟩ := hrate.exists_count hreleases.1
  obtain ⟨mod, hmod⟩ := hrate.exists_count hreleases.2
  obtain ⟨struck, -, hget⟩ := Layout.exists_get (decide_eq_false (not_le.mpr hk.2))
    ((neg_nonpos.mpr (Int.natCast_nonneg e.layout.size)).trans hk.1)
  obtain ⟨samples, hsamples, -⟩ := size_afresh (e := e) (S := ℚ) hget hhold hamp hmod
  rw [key_of_has hk, hsamples]
  cases stored tones (slot? k d) with
  | some voice => exact ⟨voice, tones, rfl⟩
  | none =>
    cases slot? k d with
    | none => exact ⟨samples, tones, rfl⟩
    | some slot => exact ⟨samples, _, rfl⟩

variable [Scalar.Steady R] [Scalar.Faithful R]

/-- All notes of a song that can be played are struck, or left out. -/
theorem exists_performs (hrate : e.HasRate)
    (hreleases : e.IsCountable amplitude.release ∧ e.IsCountable modulation.release)
    {notes : List (Note R)} (hnotes : ∀ n ∈ notes, 0 ≤ n.key ∧
      (n.key < e.layout.size → e.IsCountable n.time ∧ e.IsCountable n.duration))
    (tones : List ((Int × Int) × Array ℚ)) :
    ∃ strikes tones', e.Performs notes (some tones) strikes (some tones') := by
  induction notes generalizing tones with
  | nil => exact ⟨[], tones, .nil⟩
  | cons n rest ih =>
    obtain ⟨⟨hkey, hn⟩, hrest⟩ := List.forall_mem_cons.mp hnotes
    by_cases hwithin : n.key < e.layout.size
    · obtain ⟨htime, hduration⟩ := hn hwithin
      obtain ⟨start, hstart⟩ := hrate.exists_start n.time_not_neg htime
      obtain ⟨voice, between, hvoice⟩ := exists_key hrate ⟨hkey, hwithin⟩ hreleases hduration tones
      obtain ⟨strikes, tones', hperforms⟩ := ih hrest between
      exact ⟨_, tones', .strike hwithin hvoice hstart hperforms⟩
    · obtain ⟨strikes, tones', hperforms⟩ := ih hrest tones
      exact ⟨strikes, tones', .leaveOut (not_lt.mp hwithin) hperforms⟩

/-! ## §6 What is heard of a song -/

/-- **What is heard of a song** in exact samples, if the song can be played: a mix of the voices that
its notes get, each from the place of its note on. No voice is cut, moved or added twice. -/
theorem song_mixes_strikes {song : Song R} (h : e.Playable song)
    (tones : List ((Int × Int) × Array ℚ)) :
    ∃ strikes tones' out, ∃ length : ℕ, e.Performs song.notes (some tones) strikes (some tones') ∧
      e.lengthOf song = .ok (length : ℤ) ∧
      e.song song (some tones) = (.ok out, some tones') ∧ Mixes length strikes out := by
  obtain ⟨length, hlength⟩ := h.rate.exists_lengthOf h.length h.duration
  obtain ⟨strikes, tones', hperforms⟩ :=
    exists_performs h.rate h.releases (fun n hn => ⟨h.keys n hn, h.notes n hn⟩) tones
  refine ⟨strikes, tones', _, length, hperforms, hlength, ?_, mixes_limited length strikes⟩
  rw [Engine.song, hlength]
  simp only [Option.isNone_some, Bool.false_eq_true, if_false, Int.toNat_natCast,
    hperforms.addNotes_eq]

open Octaves in
/-- Two voices that overlap, and go on after the end of their song. -/
theorem song_mixes_two_strikes :
    let note (key : Int) (time : Rat) (h : ¬ time < Scalar.ofInt 0) : Note Rat :=
      { key, time, duration := 1, time_not_neg := h, duration_pos := by decide }
    let song : Song Rat :=
      Session.songOf [note 0 0 (by decide), note 2 (1 / 2) (by decide +kernel)] (.int 1) (by decide)
    let e : Engine Rat := ⟨Octaves.layout, 10, 0.3⟩
    e.Playable song ∧ ∃ strikes tones' out, ∃ length : ℕ,
      e.Performs song.notes (some []) strikes (some tones') ∧
      e.lengthOf song = .ok (length : ℤ) ∧
      e.song song (some []) = (.ok out, some tones') ∧ Mixes length strikes out := by
  intro note song e
  have hplayable : e.Playable song :=
    playable_of_exact (by decide) (by decide) (by simp [song, Session.songOf, note])
  exact ⟨hplayable, song_mixes_strikes hplayable []⟩

open Octaves in
/-- An engine that goes backwards in time plays nothing, and no engine plays a note that never begins. -/
theorem unplayable_songs_refused :
    let waiting : Note Float :=
      { key := 0, time := 1.0 / 0.0, duration := 1, time_not_neg := by decide +kernel,
        duration_pos := by decide +kernel }
    let engine : Engine Float := ⟨Session.soleKey, 22050, 0.3⟩
    ((⟨Octaves.layout, -8000, 0.3⟩ : Engine Rat).song
        (Session.songOf [] (.int 1) (by decide)) (some [] : Cache ℚ)).1 = .error .negativeLength ∧
      ∀ samples : Array Float32,
        (engine.song (Session.songOf [waiting] (.int 1) (by decide +kernel)) (some [])).1 ≠
          .ok samples := by
  intro waiting engine
  refine ⟨rfl, fun samples => ?_⟩
  have hlength : engine.lengthOf (Session.songOf [waiting] (.int 1) (by decide +kernel)) =
      .ok 22050 := rfl
  have hstart : Envelope.count waiting.time engine.rate = .error .infiniteInteger := by
    decide +kernel
  have hwithin : ¬ (engine.layout.size : Int) ≤ waiting.key := by decide
  rw [Engine.song, hlength]
  simp only [Option.isNone_some, Bool.false_eq_true, if_false, Session.songOf, addNotes,
    if_neg hwithin]
  -- Whether or not its tone is heard, the note has no place
  cases engine.key waiting.key waiting.duration (some [] : Cache Float32) with
  | error fault =>
    intro hok
    cases hok
  | ok made =>
    dsimp only
    rw [hstart]
    intro hok
    cases hok

end Lamella.Engine
