import Lamella.Proofs.Scalar.Counts
import Lamella.Proofs.Transcript.Segments

/-!
# Loudness

The loudness of a part of a recording is the root of a mean of squares. However the squares are added
up, and whether or not a sum overflows, it is a number and not below zero. Such a loudness always has
a velocity.

## Main statements

- `Recording.meanSquare_nonneg`: a mean of squares is not below zero.
- `Recording.level_nonneg`: no part of a recording is less loud than silence.
- `Contour.exists_velocity`: a loudness has a velocity.
-/

namespace Lamella

namespace Recording

section

variable {S : Type} [Scalar S] [Scalar.Signed S] {xs : List S}

/-! ## §1 Sums of what is not below zero -/

theorem foldl_add_nonneg {start : S} (hstart : Scalar.ofInt 0 ≤ start)
    (h : ∀ x ∈ xs, Scalar.ofInt 0 ≤ x) : Scalar.ofInt 0 ≤ xs.foldl (· + ·) start := by
  induction xs generalizing start with
  | nil => exact hstart
  | cons x xs ih =>
    obtain ⟨hx, hxs⟩ := List.forall_mem_cons.mp h
    exact ih (Scalar.Signed.add_nonneg hstart hx) hxs

theorem zipWith_add_nonneg {ys : List S} (hxs : ∀ x ∈ xs, Scalar.ofInt 0 ≤ x)
    (hys : ∀ y ∈ ys, Scalar.ofInt 0 ≤ y) : ∀ z ∈ List.zipWith (· + ·) xs ys, Scalar.ofInt 0 ≤ z := by
  induction xs generalizing ys with
  | nil =>
    intro z hz
    cases hz
  | cons x xs ih =>
    cases ys with
    | nil =>
      intro z hz
      cases hz
    | cons y ys =>
      obtain ⟨hx, hxs⟩ := List.forall_mem_cons.mp hxs
      obtain ⟨hy, hys⟩ := List.forall_mem_cons.mp hys
      rw [List.zipWith_cons_cons]
      exact List.forall_mem_cons.mpr ⟨Scalar.Signed.add_nonneg hx hy, ih hxs hys⟩

theorem lanes_nonneg {sums : List S} (blocks : Nat) (hsums : ∀ x ∈ sums, Scalar.ofInt 0 ≤ x)
    (h : ∀ x ∈ xs, Scalar.ofInt 0 ≤ x) : ∀ x ∈ lanes sums xs blocks, Scalar.ofInt 0 ≤ x := by
  induction blocks generalizing sums xs with
  | zero => exact hsums
  | succ blocks ih =>
    exact ih (zipWith_add_nonneg hsums fun x hx => h x (List.mem_of_mem_take hx))
      fun x hx => h x (List.mem_of_mem_drop hx)

theorem joinLanes_nonneg (h : ∀ x ∈ xs, Scalar.ofInt 0 ≤ x) : Scalar.ofInt 0 ≤ joinLanes xs := by
  unfold joinLanes
  split
  · simp only [List.forall_mem_cons] at h
    obtain ⟨ha, hb, hc, hd, he, hf, hg, hh, -⟩ := h
    have hadd := @Scalar.Signed.add_nonneg S
    exact hadd (hadd (hadd ha hb) (hadd hc hd)) (hadd (hadd he hf) (hadd hg hh))
  · exact foldl_add_nonneg Scalar.Signed.zero_nonneg h

theorem blockSum_nonneg (h : ∀ x ∈ xs, Scalar.ofInt 0 ≤ x) : Scalar.ofInt 0 ≤ blockSum xs := by
  have hfirst : ∀ x ∈ xs.take 8, Scalar.ofInt 0 ≤ x := fun x hx => h x (List.mem_of_mem_take hx)
  have hrest : ∀ n, ∀ x ∈ xs.drop n, Scalar.ofInt 0 ≤ x :=
    fun n x hx => h x (List.mem_of_mem_drop hx)
  unfold blockSum
  dsimp only
  split_ifs
  · exact foldl_add_nonneg Scalar.Signed.zero_nonneg h
  · exact foldl_add_nonneg (joinLanes_nonneg (lanes_nonneg _ hfirst (hrest 8))) (hrest _)

theorem pairwiseSum_nonneg (fuel : Nat) (h : ∀ x ∈ xs, Scalar.ofInt 0 ≤ x) :
    Scalar.ofInt 0 ≤ pairwiseSum fuel xs := by
  induction fuel generalizing xs with
  | zero => exact blockSum_nonneg h
  | succ fuel ih =>
    unfold pairwiseSum
    dsimp only
    split_ifs
    · exact blockSum_nonneg h
    · exact Scalar.Signed.add_nonneg (ih fun x hx => h x (List.mem_of_mem_take hx))
        (ih fun x hx => h x (List.mem_of_mem_drop hx))

/-- **A mean of squares is not below zero.** -/
theorem meanSquare_nonneg (hne : xs ≠ []) (hmost : xs.length < 2 ^ 63) (h : ∀ x ∈ xs, x ≤ x) :
    Scalar.ofInt 0 ≤ meanSquare xs := by
  have hsquares : ∀ y ∈ xs.map fun x => x * x, Scalar.ofInt 0 ≤ y := by
    intro y hy
    obtain ⟨x, hx, rfl⟩ := List.mem_map.mp hy
    exact Scalar.Signed.square_nonneg (h x hx)
  exact Scalar.Signed.div_count_nonneg (pairwiseSum_nonneg _ hsquares)
    (List.length_pos_of_ne_nil hne) hmost

/-! ## §2 Levels -/

theorem mem_of_mem_slice {S : Type} {r : Recording S} {start stop : Int} {x : S}
    (h : x ∈ r.slice start stop) : x ∈ r.samples := by
  rw [slice, Array.toList_extract, List.extract_eq_take_drop] at h
  exact Array.mem_toList_iff.mp (List.mem_of_mem_drop (List.mem_of_mem_take h))

theorem length_slice_le {S : Type} (r : Recording S) (start stop : Int) :
    (r.slice start stop).length ≤ r.samples.size := by
  rw [slice, Array.length_toList, Array.size_extract]
  omega

end

variable {F S : Type} [Analytic F] [Analytic.Rooted F] [Scalar.Signed F] [Scalar S]
  [Scalar.Signed S] [Sample F S] [Sample.KeepsSign F S]

/-- **No part of a recording is less loud than silence.** -/
theorem level_nonneg {r : Recording S} (hsamples : ∀ x ∈ r.samples, x ≤ x)
    (hsize : r.samples.size < 2 ^ 63) (start stop : Int) :
    (Scalar.ofInt 0 : F) ≤ r.level start stop := by
  have hlength := r.length_slice_le start stop
  have hnumbers : ∀ x ∈ r.slice start stop, x ≤ x := fun x hx => hsamples x (mem_of_mem_slice hx)
  unfold level
  split
  · exact Scalar.Signed.zero_nonneg
  · rename_i hne
    exact Sample.KeepsSign.widen_nonneg (Sample.KeepsSign.narrow_nonneg
      (Analytic.Rooted.sqrt_nonneg (Sample.KeepsSign.widen_nonneg
        (meanSquare_nonneg hne (hlength.trans_lt hsize) hnumbers))))

end Recording

/-! ## §3 Velocities -/

namespace Contour

variable {F : Type} [Analytic F] [Scalar.Steady F]

/-- **A loudness has a velocity.** One too large to be scaled has the greatest. -/
theorem exists_velocity {level : F} (h : Scalar.ofInt 0 ≤ level) : ∃ v, velocity level = .ok v := by
  have hsmall : ∀ n : ℤ, |n| < 2 ^ 53 → Scalar.reading (Scalar.ofInt n : F) = .finite n :=
    fun n => Scalar.Steady.reading_ofInt_of_small
  have h20 := hsmall 20 (by norm_num)
  have h127 := hsmall 127 (by norm_num)
  have hscaled : Scalar.ofInt 0 ≤ level * Scalar.ofInt 200 :=
    Scalar.Steady.mul_nonneg (hsmall 200 (by norm_num)) (by norm_num) h
  have hnumber := (Scalar.Steady.le_refl_of_le hscaled).2
  unfold velocity
  dsimp only
  split_ifs with hlow hhigh
  · exact ⟨_, trunc_of_reading h20⟩
  · exact ⟨_, trunc_of_reading h127⟩
  · obtain ⟨q, hq⟩ := Scalar.Steady.reading_of_between h20 h127
      (Scalar.le_of_not_lt (Scalar.Steady.le_refl_of_reading h20) hnumber hlow)
      (Scalar.le_of_not_lt hnumber (Scalar.Steady.le_refl_of_reading h127) hhigh)
    exact ⟨_, trunc_of_reading hq⟩

end Contour

end Lamella
