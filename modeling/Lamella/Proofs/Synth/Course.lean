import Lamella.Proofs.Result
import Lamella.Proofs.Scalar.Exact
import Lamella.Synth.Envelope

/-!
# The course of an envelope

In exact arithmetic an envelope that is proper, with no time below zero and a level between none and
full, can be rendered for every time that a tone is held and every rate above zero. No quotient on
the way has the divisor zero, whichever of its times are zero. The levels lie between none and full:
they rise in the attack, fall from then on, are those of the sustain after the decay, and die away
from the last of them in the release.

## Main definitions

- `Envelope.Proper`: what is asked of an envelope.
- `Envelope.carefulRender`: rendering that stops at a divisor of zero.
- `Envelope.Course`: how the levels of an envelope go.

## Main statements

- `Envelope.Proper.levelAt_rises`, `Envelope.Proper.levelAt_falls`: the level over time.
- `Envelope.carefulRender_eq`: no divisor is zero.
- `Envelope.course_of_render`: the course of what is rendered.
-/

namespace Lamella.Envelope

/-- An envelope whose times are not below zero and whose sustain is a level. -/
structure Proper (e : Envelope ℚ) : Prop where
  attack_nonneg : 0 ≤ e.attack
  decay_nonneg : 0 ≤ e.decay
  sustain_nonneg : 0 ≤ e.sustain
  sustain_le_one : e.sustain ≤ 1
  release_nonneg : 0 ≤ e.release

/-! ## §1 Levels over time -/

section

variable {e : Envelope ℚ} {s t : ℚ}

theorem levelAt_rat (e : Envelope ℚ) (t : ℚ) : e.levelAt t =
    if t < e.attack then t / e.attack
    else if t < e.attack + e.decay then 1 - (1 - e.sustain) * (t - e.attack) / e.decay
    else e.sustain := by
  have hone : (1.0 : ℚ) = 1 := by norm_num
  show (if t < e.attack then t / e.attack
    else if t < e.attack + e.decay then 1.0 - (1.0 - e.sustain) * (t - e.attack) / e.decay
    else e.sustain) = _
  rw [hone]

theorem levelAt_of_lt (ht : t < e.attack) : e.levelAt t = t / e.attack := by
  rw [levelAt_rat, if_pos ht]

theorem levelAt_of_le (hattack : e.attack ≤ t) (ht : t < e.attack + e.decay) :
    e.levelAt t = 1 - (1 - e.sustain) * ((t - e.attack) / e.decay) := by
  rw [levelAt_rat, if_neg (not_lt.mpr hattack), if_pos ht, mul_div_assoc]

/-- How much of the decay has passed lies between nothing and all of it. -/
theorem decayed_mem (hattack : e.attack ≤ t) (ht : t < e.attack + e.decay) :
    0 < e.decay ∧ 0 ≤ (t - e.attack) / e.decay ∧ (t - e.attack) / e.decay ≤ 1 := by
  have hpos : 0 < e.decay := by linarith
  refine ⟨hpos, div_nonneg (by linarith) hpos.le, ?_⟩
  rw [div_le_one hpos]
  linarith

namespace Proper

variable (h : e.Proper)
include h

/-- **After the decay** the level is that of the sustain. -/
theorem levelAt_of_decayed (ht : e.attack + e.decay ≤ t) : e.levelAt t = e.sustain := by
  have hattack : e.attack ≤ t := (le_add_of_nonneg_right h.decay_nonneg).trans ht
  rw [levelAt_rat, if_neg (not_lt.mpr hattack), if_neg (not_lt.mpr ht)]

/-- From the attack on the level lies between that of the sustain and the full one. -/
theorem levelAt_mem_of_le (hattack : e.attack ≤ t) :
    e.sustain ≤ e.levelAt t ∧ e.levelAt t ≤ 1 := by
  have hsustain := h.sustain_le_one
  by_cases ht : t < e.attack + e.decay
  · obtain ⟨-, hlow, hhigh⟩ := decayed_mem hattack ht
    have hdrop : 0 ≤ (1 - e.sustain) * ((t - e.attack) / e.decay) :=
      mul_nonneg (by linarith) hlow
    have hleft : (1 - e.sustain) * ((t - e.attack) / e.decay) ≤ 1 - e.sustain :=
      mul_le_of_le_one_right (by linarith) hhigh
    rw [levelAt_of_le hattack ht]
    exact ⟨by linarith, by linarith⟩
  · rw [h.levelAt_of_decayed (not_lt.mp ht)]
    exact ⟨le_rfl, hsustain⟩

/-- A level lies between none and full. -/
theorem levelAt_mem (ht : 0 ≤ t) : 0 ≤ e.levelAt t ∧ e.levelAt t ≤ 1 := by
  rcases lt_or_ge t e.attack with hattack | hattack
  · have hpos : 0 < e.attack := ht.trans_lt hattack
    rw [levelAt_of_lt hattack, div_le_one hpos]
    exact ⟨div_nonneg ht hpos.le, hattack.le⟩
  · obtain ⟨hlow, hhigh⟩ := h.levelAt_mem_of_le hattack
    exact ⟨h.sustain_nonneg.trans hlow, hhigh⟩

/-- **In the attack** the level rises. -/
theorem levelAt_rises (hst : s ≤ t) (ht : t < e.attack) : e.levelAt s ≤ e.levelAt t := by
  rw [levelAt_of_lt ht, levelAt_of_lt (hst.trans_lt ht)]
  exact div_le_div_of_nonneg_right hst h.attack_nonneg

/-- **From the attack on** the level falls. -/
theorem levelAt_falls (hattack : e.attack ≤ s) (hst : s ≤ t) : e.levelAt t ≤ e.levelAt s := by
  by_cases ht : t < e.attack + e.decay
  · -- More of the decay has passed later on
    have hpos := (decayed_mem (hattack.trans hst) ht).1
    have hpassed : (s - e.attack) / e.decay ≤ (t - e.attack) / e.decay :=
      div_le_div_of_nonneg_right (by linarith) hpos.le
    have hdrop := mul_le_mul_of_nonneg_left hpassed (sub_nonneg.mpr h.sustain_le_one)
    rw [levelAt_of_le hattack (hst.trans_lt ht), levelAt_of_le (hattack.trans hst) ht]
    linarith
  · rw [h.levelAt_of_decayed (not_lt.mp ht)]
    exact (h.levelAt_mem_of_le hattack).1

end Proper

end

/-! ## §2 Divisors -/

section

variable {R : Type} [Scalar R]

/-- The level of a held tone at a time, unless a divisor that is needed for it is zero. -/
def carefulLevelAt (e : Envelope R) (t : R) : Except Fault R :=
  if t < e.attack then Value.quotient t e.attack
  else if t < e.attack + e.decay then do
    return 1.0 - (← Value.quotient ((1.0 - e.sustain) * (t - e.attack)) e.decay)
  else return e.sustain

/-- The time of a sample, unless the rate is zero. -/
def carefulTimeOf (rate : Int) (i : Nat) : Except Fault R :=
  Value.quotient (Scalar.ofNat i) (Scalar.ofInt rate)

/-- The levels of a held tone with its release, unless a divisor that is needed for them is zero. -/
def carefulRender (e : Envelope R) (hold : R) (rate : Int) : Except Fault (List R) := do
  let samples := (max 1 (← count hold rate)).toNat
  let releaseSamples := (← count e.release rate).toNat
  let held ← (List.range samples).mapM fun i => do e.carefulLevelAt (← carefulTimeOf rate i)
  let last ← e.carefulLevelAt (← carefulTimeOf rate (samples - 1))
  let released ← (List.range releaseSamples).mapM fun i => do
    return last * (1.0 - (← Value.quotient (Scalar.ofNat i) (Scalar.ofNat (max releaseSamples 1))))
  return held ++ released

end

variable {e : Envelope ℚ} {rate : ℤ}

theorem timeOf_rat (rate : ℤ) (i : ℕ) : (timeOf rate i : ℚ) = i / rate := rfl

theorem timeOf_nonneg (hrate : 0 < rate) (i : ℕ) : 0 ≤ (timeOf rate i : ℚ) := by
  have hpos : (0 : ℚ) < rate := Int.cast_pos.mpr hrate
  rw [timeOf_rat]
  positivity

theorem timeOf_mono (hrate : 0 < rate) {i j : ℕ} (h : i ≤ j) :
    (timeOf rate i : ℚ) ≤ timeOf rate j := by
  have hpos : (0 : ℚ) < rate := Int.cast_pos.mpr hrate
  rw [timeOf_rat, timeOf_rat]
  exact div_le_div_of_nonneg_right (by exact_mod_cast h) hpos.le

theorem count_rat (time : ℚ) (rate : ℤ) : count time rate = .ok (roundHalfEven (time * rate)) := rfl

/-- A rate above zero divides. -/
theorem carefulTimeOf_eq (hrate : 0 < rate) (i : ℕ) :
    (carefulTimeOf rate i : Except Fault ℚ) = .ok (timeOf rate i) := by
  apply Value.quotient_rat
  rw [Scalar.ofInt_rat]
  exact_mod_cast hrate.ne'

/-- A phase is gone through only where it lasts, so that its time divides. -/
theorem carefulLevelAt_eq (e : Envelope ℚ) {t : ℚ} (ht : 0 ≤ t) :
    e.carefulLevelAt t = .ok (e.levelAt t) := by
  unfold carefulLevelAt levelAt
  by_cases hattack : t < e.attack
  · rw [if_pos hattack, if_pos hattack]
    exact Value.quotient_rat (ht.trans_lt hattack).ne' t
  · rw [if_neg hattack, if_neg hattack]
    by_cases hdecay : t < e.attack + e.decay
    · have hpos := (decayed_mem (not_lt.mp hattack) hdecay).1
      rw [if_pos hdecay, if_pos hdecay, Value.quotient_rat hpos.ne']
      rfl
    · rw [if_neg hdecay, if_neg hdecay]
      rfl

/-- **No divisor is zero** on the way to the levels of an envelope. -/
theorem carefulRender_eq (e : Envelope ℚ) (hold : ℚ) (hrate : 0 < rate) :
    e.carefulRender hold rate = e.render hold rate := by
  have hlevel (i : ℕ) : e.carefulLevelAt (timeOf rate i) = .ok (e.levelAt (timeOf rate i)) :=
    carefulLevelAt_eq e (timeOf_nonneg hrate i)
  -- The samples of a release share it out, and at least one takes part
  have hshare (count i : ℕ) : Value.quotient (Scalar.ofNat i : ℚ) (Scalar.ofNat (max count 1)) =
      .ok (Scalar.ofNat i / Scalar.ofNat (max count 1)) := by
    apply Value.quotient_rat
    show (((max count 1 : ℕ) : ℤ) : ℚ) ≠ 0
    have hone : (max count 1 : ℕ) ≠ 0 := by omega
    exact_mod_cast hone
  have hpure {α β : Type} (f : α → β) (xs : List α) :
      (xs.mapM fun x => (.ok (f x) : Except Fault β)) = .ok (xs.map f) :=
    Except.mapM_eq_map fun _ _ => rfl
  unfold carefulRender render
  rw [count_rat, count_rat]
  simp only [Except.ok_bind, carefulTimeOf_eq hrate, hlevel, hshare, pure, Except.pure, hpure]
  rfl

/-! ## §3 The course of what is rendered -/

/-- How the levels of an envelope go, sample by sample, while a tone is held and after it was
released. -/
structure Course (e : Envelope ℚ) (rate : ℤ) (held released : List ℚ) : Prop where
  mem_unit : ∀ x ∈ held ++ released, 0 ≤ x ∧ x ≤ 1
  rises : ∀ i j x y, held[i]? = some x → held[j]? = some y → i ≤ j →
    timeOf rate j < e.attack → x ≤ y
  falls : ∀ i j x y, held[i]? = some x → held[j]? = some y → i ≤ j →
    e.attack ≤ timeOf rate i → y ≤ x
  stays : ∀ i x, held[i]? = some x → e.attack + e.decay ≤ timeOf rate i → x = e.sustain
  /-- The release starts from the last level that was held. -/
  starts : ∀ x, released.head? = some x → held.getLast? = some x
  dies : released.Pairwise (· ≥ ·)

theorem getElem?_held {n i : ℕ} {x : ℚ} (h : (e.held n rate)[i]? = some x) :
    x = e.levelAt (timeOf rate i) := by
  rw [held, List.getElem?_map] at h
  obtain ⟨j, hj, rfl⟩ := Option.map_eq_some_iff.mp h
  obtain ⟨hlt, rfl⟩ := List.getElem?_eq_some_iff.mp hj
  rw [List.getElem_range]

theorem getLast?_held {n : ℕ} (hn : 1 ≤ n) :
    (e.held n rate).getLast? = some (e.levelAt (timeOf rate (n - 1))) := by
  have hne : n ≠ 0 := by omega
  rw [held, List.getLast?_map, List.getLast?_range, if_neg hne, Option.map_some]

/-- A release takes the level down evenly, by the share of its samples that have passed. -/
theorem released_rat (level : ℚ) (n : ℕ) :
    released level n = (List.range n).map fun i : ℕ => level * (1 - (i : ℚ) / (max n 1 : ℕ)) := by
  have hone : (1.0 : ℚ) = 1 := by norm_num
  show ((List.range n).map fun i : ℕ => level * (1.0 - (i : ℚ) / (max n 1 : ℕ))) = _
  rw [hone]

theorem share_mem {n i : ℕ} (hi : i < n) :
    0 ≤ 1 - (i : ℚ) / (max n 1 : ℕ) ∧ 1 - (i : ℚ) / (max n 1 : ℕ) ≤ 1 := by
  have hpos : (0 : ℚ) < (max n 1 : ℕ) := by exact_mod_cast (by omega : 0 < max n 1)
  have hle : (i : ℚ) ≤ (max n 1 : ℕ) := by exact_mod_cast (by omega : i ≤ max n 1)
  have hlow : (0 : ℚ) ≤ (i : ℚ) / (max n 1 : ℕ) := by positivity
  have hhigh : (i : ℚ) / (max n 1 : ℕ) ≤ 1 := (div_le_one hpos).mpr hle
  exact ⟨by linarith, by linarith⟩

section

variable {level : ℚ} (hlow : 0 ≤ level)
include hlow

theorem mem_released (hhigh : level ≤ 1) {n : ℕ} {x : ℚ} (hx : x ∈ released level n) :
    0 ≤ x ∧ x ≤ 1 := by
  rw [released_rat] at hx
  obtain ⟨i, hi, rfl⟩ := List.mem_map.mp hx
  obtain ⟨hshare, hshare'⟩ := share_mem (List.mem_range.mp hi)
  exact ⟨mul_nonneg hlow hshare, mul_le_one₀ hhigh hshare hshare'⟩

theorem released_pairwise (n : ℕ) : (released level n).Pairwise (· ≥ ·) := by
  rw [released_rat, List.pairwise_map]
  apply List.pairwise_lt_range.imp
  intro i j hij
  have hpos : (0 : ℚ) < (max n 1 : ℕ) := by exact_mod_cast (by omega : 0 < max n 1)
  have hle : (i : ℚ) ≤ j := by exact_mod_cast hij.le
  have hshare : (i : ℚ) / (max n 1 : ℕ) ≤ (j : ℚ) / (max n 1 : ℕ) :=
    div_le_div_of_nonneg_right hle hpos.le
  exact mul_le_mul_of_nonneg_left (by linarith) hlow

end

/-- A release starts from the level that it is given. -/
theorem head?_released {level x : ℚ} {n : ℕ} (h : (released level n).head? = some x) :
    x = level := by
  rw [released_rat, List.head?_map, List.head?_range] at h
  split at h
  · cases h
  · simpa using h.symm

/-- The levels of a proper envelope that is held for some samples, and released from the last. -/
theorem Proper.course (h : e.Proper) (hrate : 0 < rate) {n : ℕ} (hn : 1 ≤ n) (m : ℕ) :
    Course e rate (e.held n rate) (released (e.levelAt (timeOf rate (n - 1))) m) := by
  have hlast := h.levelAt_mem (timeOf_nonneg hrate (n - 1))
  refine ⟨?mem, ?rises, ?falls, ?stays, ?starts, released_pairwise hlast.1 m⟩
  case mem =>
    intro x hx
    rcases List.mem_append.mp hx with hx | hx
    · obtain ⟨i, -, rfl⟩ := List.mem_map.mp hx
      exact h.levelAt_mem (timeOf_nonneg hrate i)
    · exact mem_released hlast.1 hlast.2 hx
  case rises =>
    intro i j x y hx hy hij hattack
    rw [getElem?_held hx, getElem?_held hy]
    exact h.levelAt_rises (timeOf_mono hrate hij) hattack
  case falls =>
    intro i j x y hx hy hij hattack
    rw [getElem?_held hx, getElem?_held hy]
    exact h.levelAt_falls hattack (timeOf_mono hrate hij)
  case stays =>
    intro i x hx hdecayed
    rw [getElem?_held hx]
    exact h.levelAt_of_decayed hdecayed
  case starts =>
    intro x hx
    rw [head?_released hx]
    exact getLast?_held hn

/-- **The course of an envelope.** Rendering a proper envelope in exact numbers never fails and never
divides by zero. A tone is held for the samples of its time, but for one at least, and released for
those of the release, and its levels go as they should. -/
theorem course_of_render (h : e.Proper) (hold : ℚ) (hrate : 0 < rate) :
    ∃ held released : List ℚ, e.render hold rate = .ok (held ++ released) ∧
      e.carefulRender hold rate = .ok (held ++ released) ∧
      (held.length : ℤ) = max 1 (roundHalfEven (hold * rate)) ∧
      (released.length : ℤ) = roundHalfEven (e.release * rate) ∧ Course e rate held released := by
  have hrender : e.render hold rate = .ok
      (e.held (max 1 (roundHalfEven (hold * rate))).toNat rate ++
        released (e.levelAt (timeOf rate ((max 1 (roundHalfEven (hold * rate))).toNat - 1)))
          (roundHalfEven (e.release * rate)).toNat) := rfl
  have hcount : 0 ≤ roundHalfEven (e.release * rate) :=
    roundHalfEven_nonneg (mul_nonneg h.release_nonneg (Int.cast_nonneg hrate.le))
  have hone : 1 ≤ (max 1 (roundHalfEven (hold * rate))).toNat := by omega
  refine ⟨_, _, hrender, (carefulRender_eq e hold hrate).trans hrender, ?_, ?_,
    h.course hrate hone _⟩
  · rw [held, List.length_map, List.length_range]
    omega
  · rw [released, List.length_map, List.length_range]
    omega

/-- A tone that is released in the attack of an envelope without decay. -/
theorem course_of_render_in_attack :
    let e : Envelope ℚ := ⟨1, 0, 1 / 2, 3 / 4⟩
    e.Proper ∧ (0 : ℤ) < 4 ∧ ∃ held released : List ℚ, e.render (1 / 2) 4 = .ok (held ++ released) ∧
      e.carefulRender (1 / 2) 4 = .ok (held ++ released) ∧
      (held.length : ℤ) = max 1 (roundHalfEven (1 / 2 * (4 : ℤ))) ∧
      (released.length : ℤ) = roundHalfEven (e.release * (4 : ℤ)) ∧ Course e 4 held released := by
  intro e
  have hproper : e.Proper :=
    ⟨by norm_num [e], by norm_num [e], by norm_num [e], by norm_num [e], by norm_num [e]⟩
  exact ⟨hproper, by norm_num, course_of_render hproper (1 / 2) (by norm_num)⟩

end Lamella.Envelope
