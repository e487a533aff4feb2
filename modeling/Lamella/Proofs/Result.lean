import Mathlib.Data.List.Forall2

/-!
# Results of several steps

A computation that may fail goes well just if all its steps do, and fails just if one of them does
after those before it went well. The same is said here of a step made for every element of a list.

## Main statements

- `Except.bind_eq_ok`, `Except.bind_eq_error`: one step after another.
- `Except.mapM_eq_ok`, `Except.mapM_eq_error`: a step for every element of a list.
-/

namespace List.Forall₂

variable {α β : Type} {r : α → β → Prop} {xs : List α} {ys : List β}

/-- Each element of the first list is related to one of the second. -/
theorem exists_right (h : Forall₂ r xs ys) {x : α} (hx : x ∈ xs) : ∃ y ∈ ys, r x y := by
  induction h with
  | nil => cases hx
  | @cons x' y xs ys hr _ ih =>
    rcases List.mem_cons.mp hx with rfl | hx
    · exact ⟨y, List.mem_cons_self, hr⟩
    · obtain ⟨y', hy', hr'⟩ := ih hx
      exact ⟨y', List.mem_cons_of_mem y hy', hr'⟩

/-- Each element of the second list is related to one of the first. -/
theorem exists_left (h : Forall₂ r xs ys) {y : β} (hy : y ∈ ys) : ∃ x ∈ xs, r x y :=
  h.flip.exists_right hy

end List.Forall₂

namespace Except

variable {ε δ α β γ : Type}

theorem ok_bind (x : α) (f : α → Except ε β) : (Except.ok x >>= f) = f x := rfl

theorem bind_eq_ok {x : Except ε α} {f : α → Except ε β} {b : β} :
    (x >>= f) = .ok b ↔ ∃ a, x = .ok a ∧ f a = .ok b := by
  cases x <;> simp [bind, Except.bind]

theorem bind_eq_error {x : Except ε α} {f : α → Except ε β} {e : ε} :
    (x >>= f) = .error e ↔ x = .error e ∨ ∃ a, x = .ok a ∧ f a = .error e := by
  cases x <;> simp [bind, Except.bind]

theorem mapError_eq_ok {x : Except ε α} {f : ε → δ} {a : α} : x.mapError f = .ok a ↔ x = .ok a := by
  cases x <;> simp [Except.mapError]

theorem mapError_eq_error {x : Except ε α} {f : ε → δ} {d : δ} :
    x.mapError f = .error d ↔ ∃ e, x = .error e ∧ f e = d := by
  cases x <;> simp [Except.mapError]

theorem map_eq_error {x : Except ε α} {f : α → β} {e : ε} : x.map f = .error e ↔ x = .error e := by
  cases x <;> simp [Except.map]

variable {f : α → Except ε β} {xs : List α}

/-- A step for every element goes well just if it does for each of them. -/
theorem mapM_eq_ok {ys : List β} :
    xs.mapM f = .ok ys ↔ List.Forall₂ (fun x y => f x = .ok y) xs ys := by
  induction xs generalizing ys with
  | nil => cases ys <;> simp [pure, Except.pure]
  | cons x xs ih =>
    simp only [List.mapM_cons, bind_eq_ok, ih, List.forall₂_cons_left_iff]
    constructor
    · rintro ⟨y, hy, rest, hrest, hys⟩
      cases hys
      exact ⟨y, rest, hy, hrest, rfl⟩
    · rintro ⟨y, rest, hy, hrest, rfl⟩
      exact ⟨y, hy, rest, hrest, rfl⟩

/-- A step that fails for some element does so for one of the list. -/
theorem mapM_eq_error {e : ε} (h : xs.mapM f = .error e) : ∃ x ∈ xs, f x = .error e := by
  induction xs with
  | nil => cases h
  | cons x xs ih =>
    simp only [List.mapM_cons, bind_eq_error] at h
    rcases h with hx | ⟨y, -, hrest | ⟨ys, -, hpure⟩⟩
    · exact ⟨x, List.mem_cons_self, hx⟩
    · obtain ⟨x', hx', herror⟩ := ih hrest
      exact ⟨x', List.mem_cons_of_mem x hx', herror⟩
    · cases hpure

theorem forM_eq_error {f : α → Except ε Unit} {xs : List α} {e : ε} (h : xs.forM f = .error e) :
    ∃ x ∈ xs, f x = .error e := by
  induction xs with
  | nil => cases h
  | cons x xs ih =>
    rcases bind_eq_error.mp h with hfirst | ⟨-, -, hrest⟩
    · exact ⟨x, List.mem_cons_self, hfirst⟩
    · obtain ⟨y, hy, hfail⟩ := ih hrest
      exact ⟨y, List.mem_cons_of_mem x hy, hfail⟩

/-- Where a step goes well for all elements, it does for each. -/
theorem exists_ok_of_mapM {ys : List β} (h : xs.mapM f = .ok ys) {x : α} (hx : x ∈ xs) :
    ∃ y ∈ ys, f x = .ok y :=
  (mapM_eq_ok.mp h).exists_right hx

/-- A step whose result is known for each element of a list. -/
theorem mapM_eq_map {g : α → β} (h : ∀ x ∈ xs, f x = .ok (g x)) : xs.mapM f = .ok (xs.map g) := by
  refine mapM_eq_ok.mpr ?_
  rw [List.forall₂_map_right_iff, List.forall₂_same]
  exact h

/-- A step that goes well for each element does so for all of them. -/
theorem exists_mapM (h : ∀ x ∈ xs, ∃ y, f x = .ok y) : ∃ ys, xs.mapM f = .ok ys := by
  induction xs with
  | nil => exact ⟨[], rfl⟩
  | cons x xs ih =>
    obtain ⟨y, hy⟩ := h x List.mem_cons_self
    obtain ⟨ys, hys⟩ := ih fun x' hx' => h x' (List.mem_cons_of_mem x hx')
    exact ⟨y :: ys, by simp only [List.mapM_cons, bind_eq_ok]; exact ⟨y, hy, ys, hys, rfl⟩⟩

end Except
