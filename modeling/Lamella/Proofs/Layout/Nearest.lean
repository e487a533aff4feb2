import Lamella.Matching
import Lamella.Proofs.Layout.Tuned
import Lamella.Proofs.Order.Sorted
import Lamella.Proofs.Scalar.Octaves
import Lamella.Proofs.Scalar.Steady
import Lamella.Transcript.KeyMap
import Mathlib.Data.List.Induction

/-!
# The nearest key

A frequency, or a pitch, is compared with one key after another, and a key takes the place of the
best so far if it is strictly nearer. So the search ends at the first of the nearest keys, in the
order in which it goes through them; only then is that key held against the tolerance. A tolerance
that is no number is not exceeded by any distance, so that it holds nothing back.

## Main definitions

- `Order.lesser`: one step of a search for what is least.
- `Order.FirstLeast`: the first of the least elements of a row.
- `Key.distance`: how far a key is from a pitch.

## Main statements

- `Order.exists_foldl_lesser`: the search ends at the first of the least.
- `closestKey_eq`, `KeyMap.keyForPitch_eq`: both matchings are that search, and then a test.
- `Layout.nearest_keys`: which key is found for a frequency and for a pitch, and when none is.
-/

namespace Lamella

/-! ## §1 The first of the least -/

namespace Order

variable {α R : Type} [Scalar R]

/-- The better of the best so far and the next: the next takes its place if it is strictly less. -/
def lesser (size : α → R) (best : Option α) (next : α) : Option α :=
  match best with
  | none => some next
  | some b => some (if size next < size b then next else b)

/-- An element that is less than all before it, and not more than any after it. -/
def FirstLeast (size : α → R) (xs : List α) (best : α) : Prop :=
  ∃ front back, xs = front ++ best :: back ∧ (∀ a ∈ front, size best < size a) ∧
    ∀ a ∈ back, size best ≤ size a

namespace FirstLeast

variable {size : α → R} {xs : List α} {best : α}

theorem mem (h : FirstLeast size xs best) : best ∈ xs := by
  obtain ⟨front, back, rfl, -, -⟩ := h
  exact List.mem_append_right front List.mem_cons_self

variable [Scalar.Steady R]

theorem le (h : FirstLeast size xs best) (hbest : size best ≤ size best) {a : α} (ha : a ∈ xs) :
    size best ≤ size a := by
  obtain ⟨front, back, rfl, hfront, hback⟩ := h
  rcases List.mem_append.mp ha with ha | ha
  · exact Scalar.le_of_lt (hfront a ha)
  · rcases List.mem_cons.mp ha with rfl | ha
    · exact hbest
    · exact hback a ha

/-- What is not more than the first of the least does not come before it. -/
theorem eq_or_mem_back (h : FirstLeast size xs best) {a : α} (ha : a ∈ xs)
    (hle : size a ≤ size best) : a = best ∨ [best, a].Sublist xs := by
  obtain ⟨front, back, rfl, hfront, -⟩ := h
  rcases List.mem_append.mp ha with ha | ha
  · exact absurd (hfront a ha) (Scalar.Orderly.not_lt_of_le hle)
  · rcases List.mem_cons.mp ha with rfl | ha
    · exact .inl rfl
    · refine .inr ?_
      exact ((List.singleton_sublist.mpr ha).cons_cons best).trans (List.sublist_append_right front _)

/-- An element after a row takes the place of the first of its least, or stays behind it. -/
theorem concat (h : FirstLeast size xs best) (hbest : size best ≤ size best) {a : α}
    (ha : size a ≤ size a) :
    FirstLeast size (xs ++ [a]) (if size a < size best then a else best) := by
  split_ifs with hlt
  · refine ⟨xs, [], rfl, fun b hb => ?_, fun b hb => absurd hb List.not_mem_nil⟩
    exact Scalar.Orderly.lt_of_lt_of_le hlt (h.le hbest hb)
  · obtain ⟨front, back, rfl, hfront, hback⟩ := h
    refine ⟨front, back ++ [a], by simp, hfront, fun b hb => ?_⟩
    rcases List.mem_append.mp hb with hb | hb
    · exact hback b hb
    · rw [List.mem_singleton.mp hb]
      exact Scalar.le_of_not_lt hbest ha hlt

end FirstLeast

variable [Scalar.Steady R] {size : α → R}

/-- **The search ends at the first of the least**, if all sizes are numbers. -/
theorem exists_foldl_lesser {xs : List α} (hne : xs ≠ []) (hsizes : ∀ a ∈ xs, size a ≤ size a) :
    ∃ best, xs.foldl (lesser size) none = some best ∧ FirstLeast size xs best := by
  -- The last step is the comparison with the last element
  induction xs using List.reverseRecOn with
  | nil => exact absurd rfl hne
  | append_singleton xs a ih =>
    rw [List.foldl_append]
    have ha := hsizes a (List.mem_append_right xs List.mem_cons_self)
    rcases eq_or_ne xs [] with rfl | hxs
    · exact ⟨a, rfl, [], [], rfl, fun b hb => absurd hb List.not_mem_nil,
        fun b hb => absurd hb List.not_mem_nil⟩
    · obtain ⟨best, hbest, hfirst⟩ := ih hxs fun b hb => hsizes b (List.mem_append_left [a] hb)
      refine ⟨if size a < size best then a else best, by rw [hbest]; rfl, ?_⟩
      exact hfirst.concat (hsizes best (List.mem_append_left [a] hfirst.mem)) ha

end Order

variable {F : Type} [Analytic F]

/-! ## §2 The key of a frequency -/

/-- One key after another is compared by the distance in cents. -/
theorem foldlM_nearer {f : F} {cents : Key F → F} {keys : List (Key F)}
    (hcents : ∀ k ∈ keys, Pitch.cents f k.frequency = .ok (cents k)) (best : Option (Key F)) :
    keys.foldlM (nearer f) (best.map fun k => ⟨k, cents k⟩) =
      .ok ((keys.foldl (Order.lesser fun k => Scalar.abs (cents k)) best).map
        fun k => ⟨k, cents k⟩) := by
  induction keys generalizing best with
  | nil => rfl
  | cons k keys ih =>
    rw [List.forall_mem_cons] at hcents
    have hstep : nearer f (best.map fun k => ⟨k, cents k⟩) k =
        .ok ((Order.lesser (fun k => Scalar.abs (cents k)) best k).map fun k => ⟨k, cents k⟩) := by
      unfold nearer
      rw [hcents.1]
      cases best with
      | none => rfl
      | some b =>
        simp only [Order.lesser, Option.map_some]
        split_ifs <;> simp [*, bind, Except.bind, pure, Except.pure]
    rw [List.foldlM_cons, hstep, Except.ok_bind, ih hcents.2]
    rfl

/-- **The key of a frequency is the nearest**, as long as the tolerance is not exceeded. -/
theorem closestKey_eq {f : F} (hf : ¬ f ≤ Scalar.ofInt 0) {l : Layout F} {cents : Key F → F}
    (hcents : ∀ k ∈ l.keys, Pitch.cents f k.frequency = .ok (cents k)) {best : Key F}
    (hbest : l.keys.foldl (Order.lesser fun k => Scalar.abs (cents k)) none = some best)
    (tolerance : F) :
    closestKey f l tolerance =
      .ok (if tolerance + toleranceSlack < Scalar.abs (cents best) then none
        else some ⟨best, cents best⟩) := by
  have hfold := foldlM_nearer hcents none
  rw [hbest] at hfold
  unfold closestKey
  rw [if_neg hf]
  change (l.keys.foldlM (nearer f) (Option.map (fun k => ⟨k, cents k⟩) none) >>= _) = _
  rw [hfold, Except.ok_bind, Option.map_some, Option.filter_some]
  split_ifs <;> simp_all [pure, Except.pure]

/-! ## §3 The key of a pitch -/

/-- How far a key is from a pitch, in semitones. -/
def Key.distance (target : F) (k : Key F) : F :=
  Scalar.abs (Pitch.ofFrequency k.frequency - target)

namespace KeyMap

variable {R : Type} [Scalar R]

/-- One key after another is compared by the distance in semitones. -/
theorem foldl_nearer (target : F) (keys : List (Key F)) (best : Option (Key F)) :
    (keys.map fun k => (Pitch.ofFrequency k.frequency, k.index)).foldl (nearer target)
        (best.map fun k => (k.distance target, k.index)) =
      (keys.foldl (Order.lesser (Key.distance target)) best).map
        fun k => (k.distance target, k.index) := by
  induction keys generalizing best with
  | nil => rfl
  | cons k keys ih =>
    have hstep : nearer target (best.map fun k => (k.distance target, k.index))
          (Pitch.ofFrequency k.frequency, k.index) =
        (Order.lesser (Key.distance target) best k).map fun k => (k.distance target, k.index) := by
      cases best with
      | none => rfl
      | some b =>
        simp only [nearer, Order.lesser, Key.distance, Option.map_some]
        split_ifs with hless <;> simp [hless]
    rw [List.map_cons, List.foldl_cons, hstep, ih]
    rfl

/-- **The key of a pitch is the nearest**, as long as the capture width is not exceeded. -/
theorem keyForPitch_eq {m : KeyMap F R} {pitch shift : F}
    (hshift : Value.scalarOfInt m.transpose = .ok shift) {best : Key F}
    (hbest : m.layout.byPitch.foldl (Order.lesser (Key.distance (pitch + shift))) none =
      some best) :
    m.keyForPitch pitch =
      .ok (if m.capture < best.distance (pitch + shift) then none else some best.index) := by
  have hfold := foldl_nearer (pitch + shift) m.layout.byPitch none
  rw [hbest] at hfold
  unfold keyForPitch
  rw [hshift, Except.ok_bind]
  change Except.ok (((m.keyPitches.foldl (nearer (pitch + shift)) none).filter _).map _) = _
  have hsearch : m.keyPitches.foldl (nearer (pitch + shift)) none =
      some (best.distance (pitch + shift), best.index) := hfold
  rw [hsearch, Option.filter_some]
  split_ifs <;> simp_all

end KeyMap

/-! ## §4 The order of keys -/

namespace Layout

/-- Keys stand in the order of their indices. -/
theorem indices_pairwise {F : Type} (l : Layout F) :
    l.keys.Pairwise fun a b => a.index < b.index := by
  have hrange : ((List.range l.keys.length).map Int.ofNat).Pairwise (· < ·) :=
    List.pairwise_map.mpr (List.pairwise_lt_range.imp Int.ofNat_lt.mpr)
  rw [← l.indices_eq] at hrange
  exact List.pairwise_map.mp hrange

theorem byPitch_perm (l : Layout F) : l.byPitch.Perm l.keys := Order.sortBy_perm _ _

theorem byPitch_ne (l : Layout F) : l.byPitch ≠ [] := fun h =>
  l.keys_ne (h ▸ l.byPitch_perm).nil_eq.symm

variable [Scalar.Steady F]

/-- Keys in the order of pitch: a later one is not lower, and if it is no higher it is further
right. -/
theorem byPitch_pairwise {l : Layout F} (hnumbers : ∀ k ∈ l.keys, k.frequency ≤ k.frequency) :
    l.byPitch.Pairwise fun a b =>
      a.frequency ≤ b.frequency ∧ (b.frequency ≤ a.frequency → a.index < b.index) := by
  let le : Key F → Key F → Bool := fun a b => decide (a.frequency ≤ b.frequency)
  have hle : ∀ a b, le a b = true ↔ a.frequency ≤ b.frequency := fun a b => decide_eq_true_iff
  have hrefl : ∀ k ∈ l.keys, le k k = true := fun k hk => (hle k k).mpr (hnumbers k hk)
  have hsorted := Order.sortBy_stable hrefl
    (fun a b c hab hbc => (hle a c).mpr (Scalar.Orderly.le_trans ((hle a b).mp hab)
      ((hle b c).mp hbc)))
    (fun a b ha hb => by
      rw [hle, hle]
      exact Scalar.Comparable.le_total ((hle a a).mp ha) ((hle b b).mp hb))
    l.indices_pairwise
  refine hsorted.imp fun {a b} h => ?_
  exact ⟨(hle a b).mp h.1, fun hba => h.2 ((hle b a).mpr hba)⟩

end Layout

/-! ## §5 Tolerances -/

section

variable [Scalar.Steady F] {tolerance wider x : F}

/-- A number is a number with the slack added. -/
theorem add_slack_le_add (h : tolerance ≤ wider) :
    tolerance + toleranceSlack ≤ wider + toleranceSlack := by
  obtain ⟨q, hslack⟩ := Scalar.Steady.reading_slack (R := F)
  exact Scalar.Steady.add_le_add hslack h

/-- A tolerance that is no number is exceeded by nothing. -/
theorem not_add_slack_lt (h : ¬ tolerance ≤ tolerance) : ¬ tolerance + toleranceSlack < x :=
  fun hlt => h (Scalar.Steady.le_refl_of_add (Scalar.Steady.le_refl_of_le (Scalar.le_of_lt hlt)).1)

/-- One that is a number is exceeded by the numbers that are not within it. -/
theorem add_slack_lt_iff (h : tolerance ≤ tolerance) (hx : x ≤ x) :
    tolerance + toleranceSlack < x ↔ ¬ x ≤ tolerance + toleranceSlack :=
  ⟨fun hlt hle => Scalar.Orderly.not_lt_of_le hle hlt,
    fun hnot => Scalar.lt_of_not_le (add_slack_le_add h) hx hnot⟩

end

/-! ## §6 Which key is found -/

namespace Layout

variable [Scalar.Steady F] {R : Type} [Scalar R]

/-- **The nearest key is found, and only then held against the tolerance.** Of the keys whose
distance in cents from a frequency is least the leftmost is found. With a tolerance that is a number
it is the match if it is no farther off than that and the slack, and there is no match otherwise;
with one that is no number it always is. So a match stays the same when the tolerance is widened. The
key of a pitch is one of least distance in semitones, the first such in the order of pitch: the
lowest, and of equally high ones the leftmost. It is given unless it is farther off than the capture
width. -/
theorem nearest_keys (l : Layout F) :
    (∀ (f : F) (cents : Key F → F), ¬ f ≤ Scalar.ofInt 0 →
      (∀ k ∈ l.keys, Pitch.cents f k.frequency = .ok (cents k)) →
      (∀ k ∈ l.keys, Scalar.abs (cents k) ≤ Scalar.abs (cents k)) →
      ∃ best ∈ l.keys,
        (∀ k ∈ l.keys, Scalar.abs (cents best) ≤ Scalar.abs (cents k) ∧
          (Scalar.abs (cents k) ≤ Scalar.abs (cents best) → best.index ≤ k.index)) ∧
        (∀ tolerance : F, tolerance ≤ tolerance → closestKey f l tolerance =
          .ok (if Scalar.abs (cents best) ≤ tolerance + toleranceSlack then some ⟨best, cents best⟩
            else none)) ∧
        (∀ tolerance : F, ¬ tolerance ≤ tolerance →
          closestKey f l tolerance = .ok (some ⟨best, cents best⟩)) ∧
        ∀ (tolerance wider : F) (m : Match F), tolerance ≤ wider →
          closestKey f l tolerance = .ok (some m) → closestKey f l wider = .ok (some m)) ∧
    ∀ (m : KeyMap F R) (pitch shift : F), m.layout = l →
      Value.scalarOfInt m.transpose = .ok shift →
      (∀ k ∈ l.keys, k.distance (pitch + shift) ≤ k.distance (pitch + shift)) →
      ∃ best ∈ l.keys,
        (∀ k ∈ l.keys, best.distance (pitch + shift) ≤ k.distance (pitch + shift)) ∧
        (∃ front back, l.byPitch = front ++ best :: back ∧
          ∀ k ∈ front, best.distance (pitch + shift) < k.distance (pitch + shift)) ∧
        ((∀ k ∈ l.keys, k.frequency ≤ k.frequency) → ∀ k ∈ l.keys,
          k.distance (pitch + shift) ≤ best.distance (pitch + shift) →
          best.frequency ≤ k.frequency ∧
            (k.frequency ≤ best.frequency → best.index ≤ k.index)) ∧
        m.keyForPitch pitch =
          .ok (if m.capture < best.distance (pitch + shift) then none else some best.index) := by
  constructor
  · intro f cents hf hcents hnumbers
    obtain ⟨best, hbest, hfirst⟩ := Order.exists_foldl_lesser l.keys_ne hnumbers
    have hnumber := hnumbers best hfirst.mem
    have hclosest := closestKey_eq hf hcents hbest
    have hdefined : ∀ tolerance : F, tolerance ≤ tolerance → closestKey f l tolerance =
        .ok (if Scalar.abs (cents best) ≤ tolerance + toleranceSlack then some ⟨best, cents best⟩
          else none) := by
      intro tolerance hsome
      rw [hclosest]
      simp only [add_slack_lt_iff hsome hnumber, ite_not]
    refine ⟨best, hfirst.mem, fun k hk => ⟨hfirst.le hnumber hk, fun hle => ?_⟩, hdefined,
      fun tolerance hnone => ?_, fun tolerance wider m hwider hm => ?_⟩
    · rcases hfirst.eq_or_mem_back hk hle with rfl | hback
      · exact le_rfl
      · exact (List.pairwise_iff_forall_sublist.mp l.indices_pairwise hback).le
    · rw [hclosest, if_neg (not_add_slack_lt hnone)]
    · obtain ⟨hsome, hsome'⟩ := Scalar.Steady.le_refl_of_le hwider
      rw [hdefined _ hsome] at hm
      have hle : Scalar.abs (cents best) ≤ tolerance + toleranceSlack := by
        by_contra hnot
        rw [if_neg hnot] at hm
        cases hm
      rw [if_pos hle] at hm
      rw [hdefined _ hsome', if_pos (Scalar.Orderly.le_trans hle (add_slack_le_add hwider)), hm]
  · rintro m pitch shift rfl hshift hnumbers
    have hmem : ∀ {k}, k ∈ m.layout.byPitch ↔ k ∈ m.layout.keys := m.layout.byPitch_perm.mem_iff
    obtain ⟨best, hbest, hfirst⟩ := Order.exists_foldl_lesser m.layout.byPitch_ne
      fun k hk => hnumbers k (hmem.mp hk)
    have hnumber := hnumbers best (hmem.mp hfirst.mem)
    refine ⟨best, hmem.mp hfirst.mem, fun k hk => hfirst.le hnumber (hmem.mpr hk), ?_, ?_,
      KeyMap.keyForPitch_eq hshift hbest⟩
    · obtain ⟨front, back, heq, hfront, -⟩ := hfirst
      exact ⟨front, back, heq, hfront⟩
    · intro hfrequencies k hk hle
      rcases hfirst.eq_or_mem_back (hmem.mpr hk) hle with rfl | hback
      · exact ⟨hfrequencies _ hk, fun _ => le_rfl⟩
      · obtain ⟨hlow, hleft⟩ :=
          List.pairwise_iff_forall_sublist.mp (byPitch_pairwise hfrequencies) hback
        exact ⟨hlow, fun h => (hleft h).le⟩

end Layout

/-! ## §7 A tolerance that is no number -/

/-- Machine numbers, with a logarithm that is known where a frequency is that of the key. -/
@[reducible] def unisonLog : Analytic Float :=
  { (inferInstance : Analytic Float) with
    log2 := fun x =>
      if Scalar.same x (Scalar.ofInt 1) then Scalar.ofInt 0 else Float.log2 x }

/-- One key, the tuning A. -/
def Layout.tuningA : Layout Float where
  keys := [⟨0, 440.0, 6, 0, "6", "A", "A", 4⟩]
  name := "tuning"
  calibrated := true
  keys_ne := by decide
  indices_eq := by decide

/-- With a tolerance that is no number no distance is within it, and yet there is a match. -/
theorem match_of_undefined_tolerance :
    letI := unisonLog
    ∃ (l : Layout Float) (f tolerance : Float), Scalar.ofInt 0 < f ∧
      (∀ k ∈ l.keys, ∃ cents, Pitch.cents f k.frequency = .ok cents ∧
        Scalar.abs cents ≤ Scalar.abs cents ∧
        ¬ Scalar.abs cents ≤ tolerance + toleranceSlack) ∧
      ∃ m, closestKey f l tolerance = .ok (some m) := by
  let _ := unisonLog
  have hundefined : ¬ (0 / 0 : Float) ≤ 0 / 0 := by decide +kernel
  let unison : Float := 1200.0 * Scalar.ofInt 0
  have hcents : ∀ k ∈ Layout.tuningA.keys, Pitch.cents 440.0 k.frequency = .ok unison := by
    intro k hk
    rw [List.mem_singleton.mp hk]
    have hquotient : Value.quotient (440.0 : Float) 440.0 = .ok (440.0 / 440.0) := by
      have hpitched : Scalar.isZero (440.0 : Float) = false := by decide +kernel
      simp only [Value.quotient, Scalar.quotient?, hpitched, Bool.false_eq_true, if_false]
    have hsame : Scalar.same (440.0 / 440.0 : Float) (Scalar.ofInt 1) = true := by decide +kernel
    have hlog : Analytic.log2 (440.0 / 440.0 : Float) = Scalar.ofInt 0 := if_pos hsame
    unfold Pitch.cents
    rw [hquotient, Except.ok_bind, hlog]
    rfl
  have hnumber : Scalar.abs unison ≤ Scalar.abs unison := by decide +kernel
  refine ⟨Layout.tuningA, 440.0, 0 / 0, by decide +kernel,
    fun k hk => ⟨unison, hcents k hk, hnumber, fun hle => ?_⟩, ?_⟩
  · exact hundefined (Scalar.Steady.le_refl_of_add (Scalar.Steady.le_refl_of_le hle).2)
  · have hclosest := closestKey_eq (by decide +kernel) hcents rfl (0 / 0)
    rw [if_neg (not_add_slack_lt hundefined)] at hclosest
    exact ⟨_, hclosest⟩

/-! ## §8 Between two keys

Half an octave above a key, and as far below the next one, the left of the two is found. -/

namespace Octaves

/-- How far the frequency between the first two keys lies above each key. -/
def centsOfMiddle (k : Key Rat) : Rat := 1200.0 * Analytic.log2 (660 / k.frequency)

/-- Heard pitches are put onto the three keys, as far as they are captured. -/
def keyMap (capture : Rat) : KeyMap Rat Rat where
  layout := layout
  grid := ⟨120, .common, 1, by decide +kernel, by decide⟩
  transpose := 0
  capture := capture

theorem cents_of_middle : ∀ k ∈ layout.keys, Pitch.cents 660 k.frequency = .ok (centsOfMiddle k) := by
  intro k hk
  have hne : k.frequency ≠ 0 := by
    revert k
    decide +kernel
  unfold Pitch.cents
  rw [Value.quotient_rat hne]
  rfl

/-- The left of two equally near keys is the match within their distance, and its index is that of
the pitch between them. -/
theorem nearest_keys_of_tie : ¬ (660 : Rat) ≤ 0 ∧ ∃ left ∈ layout.keys, left.index = 0 ∧
    closestKey 660 layout 50 = .ok none ∧
    closestKey 660 layout 600 = .ok (some ⟨left, 600⟩) ∧
    (keyMap 1).keyForPitch 75 = .ok none ∧ (keyMap 6).keyForPitch 75 = .ok (some 0) := by
  have hpos : ¬ (660 : Rat) ≤ 0 := by decide +kernel
  have hfirst : key 0 "6" ∈ layout.keys := List.mem_cons_self
  obtain ⟨hcents, hpitch⟩ := layout.nearest_keys (F := Rat) (R := Rat)
  obtain ⟨left, hleft, hleast, hmatch, -, -⟩ :=
    hcents 660 centsOfMiddle hpos cents_of_middle fun _ _ => le_rfl
  have hindex : left.index = 0 := by
    have htie : ∀ k ∈ layout.keys,
        Scalar.abs (centsOfMiddle (key 0 "6")) ≤ Scalar.abs (centsOfMiddle k) := by decide +kernel
    exact le_antisymm ((hleast _ hfirst).2 (htie left hleft)) (layout.get_index hleft).1
  obtain rfl : left = key 0 "6" := layout.eq_of_index_eq hleft hfirst hindex
  refine ⟨hpos, key 0 "6", hfirst, rfl, ?_, ?_, ?_⟩
  · rw [hmatch 50 le_rfl]
    exact congrArg Except.ok (if_neg (by decide +kernel))
  · rw [hmatch 600 le_rfl, if_pos (by decide +kernel)]
    have hmiddle : centsOfMiddle (key 0 "6") = 600 := by decide +kernel
    rw [hmiddle]
  · -- In semitones the two keys are equally near as well, and the lower one comes first
    have hfound : ∀ capture, (keyMap capture).keyForPitch 75 =
        .ok (if capture < 6 then none else some 0) := by
      intro capture
      obtain ⟨best, hbest, -, -, hlow, hkey⟩ :=
        hpitch (keyMap capture) 75 0 rfl rfl fun _ _ => le_rfl
      have htie : ∀ k ∈ layout.keys, (key 0 "6").distance (75 + 0) ≤ k.distance (75 + 0) ∧
          (key 0 "6").frequency ≤ k.frequency := by decide +kernel
      obtain ⟨hnear, hlower⟩ := htie best hbest
      have hindex : best.index = 0 := le_antisymm
        ((hlow (fun _ _ => le_rfl) _ hfirst hnear).2 hlower) (layout.get_index hbest).1
      obtain rfl : best = key 0 "6" := layout.eq_of_index_eq hbest hfirst hindex
      have hdistance : (key 0 "6").distance (75 + 0) = 6 := by decide +kernel
      rw [hkey, hdistance]
      rfl
    rw [hfound, hfound]
    exact ⟨congrArg Except.ok (if_pos (by decide +kernel)),
      congrArg Except.ok (if_neg (by decide +kernel))⟩

end Octaves

end Lamella
