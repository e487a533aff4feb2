import Lamella.Midi.Basic
import Lamella.Proofs.Layout.Tuned
import Lamella.Proofs.Scalar.Nearest
import Lamella.Proofs.Scalar.Readings
import Lamella.Proofs.Transcript.Mapping

/-!
# The keys of whole pitches

Where the keys of a layout are tuned, the pitch that is computed from the frequency of a key may be
off by rounding, but by far less than two keys are apart. So the whole number next to it is the
pitch of the key, and the key nearest to that number is the key.

## Main statements

- `Midi.keyPitch_eq`: a key is exported as its pitch.
- `KeyMap.keyForPitch_of_tuned`: the pitch of a key is put onto that key.
-/

namespace Lamella

/-! ## §1 The pitch of a key -/

theorem Value.scalarOfInt_of_reading {R : Type} [Scalar R] {n : ℤ} {q : ℚ}
    (h : Scalar.reading (Scalar.ofInt n : R) = .finite q) :
    Value.scalarOfInt n = .ok (Scalar.ofInt n : R) := by
  simp only [Value.scalarOfInt, Scalar.ofInt?, h]

variable {F : Type} [Analytic F] {l : Layout F} {pitch : Int → Int}

/-- **A key is exported as its pitch.** -/
theorem Midi.keyPitch_eq (hkeeps : l.KeepsPitches pitch) {k : Key F} (hk : k ∈ l.keys) :
    Midi.keyPitch k = .ok (pitch k.index) := by
  obtain ⟨x, hreading, hnear⟩ := hkeeps k hk
  unfold Midi.keyPitch Scalar.round
  rw [hreading]
  show Except.ok (roundHalfEven x) = _
  rw [roundHalfEven_of_near (hnear.trans_lt (by norm_num))]

/-! ## §2 The key of a pitch -/

variable [Scalar.Faithful F]

/-- The pitch of a key is a scalar. -/
theorem Layout.KeepsPitches.scalarOfInt (hkeeps : l.KeepsPitches pitch) {k : Key F}
    (hk : k ∈ l.keys) :
    Value.scalarOfInt (pitch k.index) = .ok (Scalar.ofInt (pitch k.index) : F) ∧
      Scalar.reading (Scalar.ofInt (pitch k.index) : F) = .finite (pitch k.index) := by
  obtain ⟨x, hreading, hnear⟩ := hkeeps k hk
  have hint := Scalar.Faithful.reading_ofInt hreading (hnear.trans (by norm_num))
  exact ⟨Value.scalarOfInt_of_reading hint, hint⟩

/-- Of two keys the one a pitch belongs to is within capture, and the other is not. -/
theorem Layout.Tuned.distance (htuned : l.Tuned pitch) (hkeeps : l.KeepsPitches pitch)
    {k k' : Key F} (hk : k ∈ l.keys) (hk' : k' ∈ l.keys) {target : F}
    (htarget : Scalar.reading target = .finite (pitch k.index)) :
    (Scalar.abs (Pitch.ofFrequency k.frequency - target) ≤ 0.5 ∧
      Scalar.abs (Pitch.ofFrequency k.frequency - target) ≤ KeyMap.defaultCapture) ∧
    (k.index ≠ k'.index →
      KeyMap.defaultCapture ≤ Scalar.abs (Pitch.ofFrequency k'.frequency - target)) := by
  obtain ⟨x, hreading, hnear⟩ := hkeeps k hk
  obtain ⟨x', hreading', hnear'⟩ := hkeeps k' hk'
  obtain ⟨q, hq, hclose⟩ := Scalar.Faithful.reading_seven_tenths (R := F)
  obtain ⟨hlow, hhigh⟩ := abs_le.mp hclose
  refine ⟨⟨?_, ?_⟩, fun hne => ?_⟩
  · exact Scalar.Faithful.abs_sub_le hreading htarget Scalar.Faithful.reading_half (by linarith)
  · exact Scalar.Faithful.abs_sub_le hreading htarget hq (by linarith)
  · -- Two whole pitches are a semitone apart
    have hpitches : pitch k.index ≠ pitch k'.index := fun h => hne (htuned.distinct k hk k' hk' h)
    have hone : (1 : ℤ) ≤ |pitch k'.index - pitch k.index| :=
      Int.one_le_abs (sub_ne_zero.mpr hpitches.symm)
    have hone' : (1 : ℚ) ≤ |(pitch k'.index : ℚ) - pitch k.index| := by exact_mod_cast hone
    have hfar : |(pitch k'.index : ℚ) - pitch k.index| ≤
        |(pitch k'.index : ℚ) - x'| + |x' - pitch k.index| := abs_sub_le _ _ _
    rw [abs_sub_comm (pitch k'.index : ℚ) x'] at hfar
    exact Scalar.Faithful.le_abs_sub hreading' htarget hq (by linarith)

/-- **The pitch of a key is put onto that key**, where nothing is transposed and the capture is the
usual one. -/
theorem KeyMap.keyForPitch_of_tuned {m : KeyMap F Rat} (htuned : m.layout.Tuned pitch)
    (hkeeps : m.layout.KeepsPitches pitch) (htranspose : m.transpose = 0)
    (hcapture : m.capture = KeyMap.defaultCapture) {k : Key F} (hk : k ∈ m.layout.keys) :
    m.keyForPitch (Scalar.ofInt (pitch k.index)) = .ok (some k.index) := by
  have hint := (hkeeps.scalarOfInt hk).2
  have htarget : Scalar.reading (Scalar.ofInt (pitch k.index) + Scalar.ofInt 0 : F) =
      .finite (pitch k.index) := Scalar.Faithful.reading_add_zero hint
  set target : F := Scalar.ofInt (pitch k.index) + Scalar.ofInt 0
  obtain ⟨q, hq, hclose⟩ := Scalar.Faithful.reading_seven_tenths (R := F)
  have hhalf : (0.5 : F) < KeyMap.defaultCapture := by
    obtain ⟨hlow, -⟩ := abs_le.mp hclose
    exact Scalar.Faithful.lt_of_reading Scalar.Faithful.reading_half hq (by linarith)
  obtain ⟨⟨hown, hcaptured⟩, -⟩ := htuned.distance hkeeps hk hk htarget
  -- Every other key is beyond the capture, and so farther off
  have hbest : m.keyPitches.foldl (nearer target) none =
      some (Scalar.abs (Pitch.ofFrequency k.frequency - target), k.index) := by
    refine foldl_nearer_of_apart (by simp) ?_ ?_
    · have hmem : k ∈ m.layout.byPitch := (Order.sortBy_perm _ _).mem_iff.mpr hk
      exact ⟨_, List.mem_map_of_mem hmem, rfl⟩
    · intro key hkey
      obtain ⟨k', hk', rfl⟩ := List.mem_map.mp hkey
      have hmem' : k' ∈ m.layout.keys := (Order.sortBy_perm _ _).mem_iff.mp hk'
      by_cases hindex : k.index = k'.index
      · obtain rfl := m.layout.eq_of_index_eq hk hmem' hindex
        exact .inl rfl
      · have hother := (htuned.distance hkeeps hk hmem' htarget).2 hindex
        have hlt := Scalar.Orderly.lt_of_lt_of_le (Scalar.Orderly.lt_of_le_of_lt hown hhalf) hother
        exact .inr ⟨hlt, Scalar.Orderly.not_lt_of_le (Scalar.Orderly.le_trans hcaptured hother)⟩
  have hnot : ¬ m.capture < Scalar.abs (Pitch.ofFrequency k.frequency - target) := by
    rw [hcapture]
    exact Scalar.Orderly.not_lt_of_le hcaptured
  have hzero := Value.scalarOfInt_of_reading (Scalar.Faithful.reading_zero (R := F))
  unfold keyForPitch
  rw [htranspose, hzero]
  show Except.ok (((m.keyPitches.foldl (nearer target) none).filter fun b =>
    !decide (m.capture < b.1)).map (·.2)) = _
  rw [hbest, Option.filter_some, if_pos (by simpa using hnot)]
  rfl

end Lamella
