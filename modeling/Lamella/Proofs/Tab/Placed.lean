import Lamella.Proofs.Tab.Outline
import Lamella.Proofs.Tab.Readback

/-!
# Keys on steps

A text is written of keys on steps: for each step the labels of its keys, in the order in which they
come. Reading it strikes the same keys, step after step. So the text tells for each step which keys
come on it and in which order, and nothing else.

## Main definitions

- `Tab.placesText`: the text of keys on steps.
- `Tab.keysOn`: the keys of a step, in their order.
- `Tab.stepwise`: the keys of all steps, step after step.

## Main statements

- `Tab.strikes_placesText`: a text of keys strikes these keys, step after step.
- `Tab.placesText_eq_iff`: two texts of keys are the same just if they have the same keys on each
  step, in the same order.
-/

namespace Lamella.Tab

variable {F : Type}

/-! ## §1 The keys of a step -/

/-- The keys of a step, in their order. -/
def keysOn (places : List (Int × Nat)) (step : Nat) : List Int :=
  places.filterMap fun (key, at_) => if at_ = step then some key else none

theorem mem_keysOn {places : List (Int × Nat)} {step : Nat} {key : Int} :
    key ∈ keysOn places step ↔ (key, step) ∈ places := by
  simp only [keysOn, List.mem_filterMap, Prod.exists, Option.ite_none_right_eq_some,
    Option.some.injEq]
  constructor
  · rintro ⟨k, i, hmem, rfl, rfl⟩
    exact hmem
  · exact fun hmem => ⟨key, step, hmem, rfl, rfl⟩

theorem keysOn_flatMap (row : Nat → List (Int × Nat)) (steps : List Nat) (step : Nat) :
    keysOn (steps.flatMap row) step = steps.flatMap fun i => keysOn (row i) step :=
  List.filterMap_flatMap

theorem keysOn_map (keys : List Int) (i step : Nat) :
    keysOn (keys.map (·, i)) step = if i = step then keys else [] := by
  rw [keysOn, List.filterMap_map]
  by_cases hstep : i = step <;> simp [hstep]

/-- Keys that are in order on each step are in order wherever they are on one step. -/
theorem pairwise_keysOn_iff {places : List (Int × Nat)} :
    (∀ step, (keysOn places step).Pairwise (· ≤ ·)) ↔
      places.Pairwise fun p q => p.2 = q.2 → p.1 ≤ q.1 := by
  simp only [keysOn, List.pairwise_filterMap, Option.ite_none_right_eq_some, Option.some.injEq]
  simp only [List.pairwise_iff_forall_sublist]
  constructor
  · intro h p q hpq hsame
    exact h q.2 hpq p.1 ⟨hsame, rfl⟩ q.1 ⟨rfl, rfl⟩
  · rintro h step p q hpq k ⟨hp, rfl⟩ k' ⟨hq, rfl⟩
    exact h hpq (hp.trans hq.symm)

/-! ## §2 The text of keys -/

/-- The labels of keys on steps, as far as they have any. -/
def labelsOf (layout : Layout F) (places : List (Int × Nat)) : List (Int × Text) :=
  places.filterMap fun (key, step) => (Layout.labelIn layout.addresses key).map ((step : Int), ·)

/-- All keys have labels. -/
def AllLabelled (layout : Layout F) (places : List (Int × Nat)) : Prop :=
  ∀ p ∈ places, ∃ s, Layout.labelIn layout.addresses p.1 = some s

/-- The text of keys on steps. -/
def placesText (layout : Layout F) (perLine : Nat) (places : List (Int × Nat)) : Text :=
  entriesText perLine (labelsOf layout places)

/-- How many steps keys take. -/
def stepsIn (layout : Layout F) (places : List (Int × Nat)) : Nat :=
  stepCount (labelsOf layout places)

/-- The keys of all steps, step after step. -/
def stepwise (layout : Layout F) (places : List (Int × Nat)) : List (Int × Nat) :=
  (List.range' 0 (stepsIn layout places)).flatMap fun step => (keysOn places step).map (·, step)

section

variable {layout : Layout F} {places : List (Int × Nat)}

theorem exists_labelIn_of_mem_labelsOf {e : Int × Text} (he : e ∈ labelsOf layout places) :
    ∃ key, Layout.labelIn layout.addresses key = some e.2 := by
  obtain ⟨p, -, hp⟩ := List.mem_filterMap.mp he
  obtain ⟨s, hs, rfl⟩ := Option.map_eq_some_iff.mp hp
  exact ⟨p.1, hs⟩

/-- The labels of a step are those of its keys. -/
theorem labelsAt_labelsOf (step : Nat) : labelsAt (labelsOf layout places) step =
    (keysOn places step).filterMap (Layout.labelIn layout.addresses) := by
  rw [labelsAt, labelsOf, keysOn, List.filterMap_filterMap, List.filterMap_filterMap]
  congr 1
  funext p
  obtain ⟨key, at_⟩ := p
  cases hlabel : Layout.labelIn layout.addresses key with
  | none => by_cases hstep : at_ = step <;> simp [hstep, hlabel]
  | some s => by_cases hstep : at_ = step <;> simp [hstep, hlabel]

theorem lt_stepsIn (hlabels : AllLabelled layout places) {p : Int × Nat} (hp : p ∈ places) :
    p.2 < stepsIn layout places := by
  obtain ⟨s, hs⟩ := hlabels p hp
  have hmem : ((p.2 : Int), s) ∈ labelsOf layout places :=
    List.mem_filterMap.mpr ⟨p, hp, by simp [hs]⟩
  have := le_stepCount _ hmem
  rw [stepsIn]
  dsimp only at this
  omega

/-- As many steps are taken as the last key ends. -/
theorem stepsIn_le {n : Nat} (h : ∀ p ∈ places, p.2 < n) : stepsIn layout places ≤ n := by
  refine stepCount_le fun e he => ?_
  obtain ⟨p, hp, hlabel⟩ := List.mem_filterMap.mp he
  obtain ⟨s, -, rfl⟩ := Option.map_eq_some_iff.mp hlabel
  have := h p hp
  dsimp only
  omega

/-- Steps are taken up to the last that has keys. -/
theorem stepsIn_le_iff (hlabels : AllLabelled layout places) (step : Nat) :
    stepsIn layout places ≤ step ↔ ∀ later, step ≤ later → keysOn places later = [] := by
  constructor
  · intro hle later hlater
    refine List.eq_nil_iff_forall_not_mem.mpr fun key hkey => ?_
    have := lt_stepsIn hlabels (mem_keysOn.mp hkey)
    omega
  · intro hnone
    refine stepsIn_le fun p hp => ?_
    by_contra hle
    have hmem : p.1 ∈ keysOn places p.2 := mem_keysOn.mpr hp
    rw [hnone p.2 (by omega)] at hmem
    cases hmem

/-- Keys on the same steps take the same number of steps. -/
theorem stepsIn_eq {places' : List (Int × Nat)} (hlabels : AllLabelled layout places)
    (h : ∀ step, (keysOn places' step).Perm (keysOn places step)) :
    stepsIn layout places' = stepsIn layout places := by
  have hmem (p : Int × Nat) : p ∈ places' ↔ p ∈ places := by
    rw [← mem_keysOn, ← mem_keysOn, (h p.2).mem_iff]
  have hlabels' : AllLabelled layout places' := fun p hp => hlabels p ((hmem p).mp hp)
  refine le_antisymm (stepsIn_le fun p hp => ?_) (stepsIn_le fun p hp => ?_)
  · exact lt_stepsIn hlabels ((hmem p).mp hp)
  · exact lt_stepsIn hlabels' ((hmem p).mpr hp)

/-! ## §3 Reading the text of keys -/

theorem keysOn_stepwise (hlabels : AllLabelled layout places) (step : Nat) :
    keysOn (stepwise layout places) step = keysOn places step := by
  have hrow : (fun i => keysOn ((keysOn places i).map (·, i)) step) =
      fun i => if step = i then keysOn places i else [] := by
    funext i
    rw [keysOn_map]
    simp only [eq_comm]
  rw [stepwise, keysOn_flatMap, hrow]
  by_cases hstep : step < stepsIn layout places
  · exact flatMap_ite_eq (keysOn places) List.nodup_range' (by simpa using hstep)
  · -- No key comes on a step after the last
    have hnone : keysOn places step = [] := by
      refine List.eq_nil_iff_forall_not_mem.mpr fun key hkey => hstep ?_
      exact lt_stepsIn hlabels (mem_keysOn.mp hkey)
    rw [hnone, List.flatMap_eq_nil_iff]
    intro i hi
    refine if_neg fun h => hstep ?_
    rw [h]
    simpa using hi

theorem keysAt_labels (keys : List Int) (step : Nat)
    (hlabels : ∀ key ∈ keys, ∃ s, Layout.labelIn layout.addresses key = some s) :
    keysAt layout.addresses
        ((keys.filterMap (Layout.labelIn layout.addresses)).map fun label => (label, step)) =
      keys.map (·, step) := by
  induction keys with
  | nil => rfl
  | cons key keys ih =>
    obtain ⟨s, hs⟩ := hlabels key List.mem_cons_self
    obtain ⟨-, -, -, hresolve⟩ := Layout.resolveIn_labelIn layout.addresses_distinct hs
    have hrest := ih fun k hk => hlabels k (List.mem_cons_of_mem _ hk)
    rw [List.filterMap_cons_some hs, List.map_cons, keysAt, List.filterMap_cons_some]
    · exact congrArg _ hrest
    · simp [hresolve]

/-- **A text of keys strikes these keys, step after step**, and loses none. -/
theorem strikes_placesText (perLine : Nat) (hlabels : AllLabelled layout places) :
    strikes layout (placesText layout perLine places) = stepwise layout places ∧
      skips layout (placesText layout perLine places) = [] ∧
      stepsOf (placesText layout perLine places) = stepsIn layout places := by
  have hwritten (e : Int × Text) (he : e ∈ labelsOf layout places) :
      ∃ key, Layout.labelIn layout.addresses key = some e.2 := exists_labelIn_of_mem_labelsOf he
  obtain ⟨hplaces, hskipped, hwidth⟩ :=
    tokens_of_shapes layout hwritten (textShapes_entriesText layout perLine hwritten)
  refine ⟨?_, hskipped, hwidth⟩
  have hplaces : placesFrom 0 (tokens (placesText layout perLine places)) =
      buckets (labelsOf layout places) (List.range' 0 (stepsIn layout places)) := hplaces
  rw [strikes, hplaces, buckets, keysAt, List.filterMap_flatMap, stepwise]
  refine List.flatMap_congr fun step _ => ?_
  rw [labelsAt_labelsOf]
  exact keysAt_labels _ step fun key hkey => hlabels _ (mem_keysOn.mp hkey)

/-- **Two texts of keys are the same** just if they have the same keys on each step, in the same
order. -/
theorem placesText_eq_iff {places' : List (Int × Nat)} (perLine : Nat)
    (hlabels : AllLabelled layout places) (hlabels' : AllLabelled layout places') :
    placesText layout perLine places' = placesText layout perLine places ↔
      ∀ step, keysOn places' step = keysOn places step := by
  constructor
  · intro htext step
    have hstrikes : stepwise layout places' = stepwise layout places := by
      rw [← (strikes_placesText perLine hlabels).1,
        ← (strikes_placesText perLine hlabels').1, htext]
    rw [← keysOn_stepwise hlabels, ← keysOn_stepwise hlabels', hstrikes]
  · intro hkeys
    have hsteps : stepsIn layout places' = stepsIn layout places :=
      stepsIn_eq hlabels fun step => .of_eq (hkeys step)
    have hlabelsAt (step : Nat) : labelsAt (labelsOf layout places') step =
        labelsAt (labelsOf layout places) step := by
      rw [labelsAt_labelsOf, labelsAt_labelsOf, hkeys]
    rw [placesText, placesText, entriesText, entriesText]
    rw [stepsIn, stepsIn] at hsteps
    simp only [hsteps, hlabelsAt]

end

end Lamella.Tab
