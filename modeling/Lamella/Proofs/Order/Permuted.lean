import Lamella.Order
import Mathlib.Data.List.Basic

/-!
# Sorting loses nothing

Sorting by runs has a result whatever comparisons answer, also where numbers compare with nothing.
That result need not be in any order, but it always has the elements of the row, each as often. No
step of the sort depends on what is compared for that: each moves elements from one place to
another.

## Main statements

- `Runs.sort_perm`: sorting by runs only rearranges.
- `Order.sortBy_perm`: so does sorting by any comparison.
-/

namespace Lamella.Order

open scoped List

namespace Runs

variable {α : Type} (lt : α → α → Bool)

/-! ## §1 Cutting -/

theorem insert_perm (run : Array α) (a : α) :
    (insert lt run a).toList.Perm (a :: run.toList) := by
  unfold insert
  dsimp only
  refine List.perm_middle.trans (List.Perm.cons a ?_)
  rw [List.take_append_drop]

theorem foldl_insert_perm (xs : List α) (run : Array α) :
    (xs.foldl (insert lt) run).toList.Perm (xs ++ run.toList) := by
  induction xs generalizing run with
  | nil => exact .refl _
  | cons a xs ih =>
    calc (xs.foldl (insert lt) (insert lt run a)).toList
        _ ~ xs ++ (insert lt run a).toList := ih _
        _ ~ xs ++ a :: run.toList := (insert_perm lt run a).append_left xs
        _ ~ a :: xs ++ run.toList := List.perm_middle

/-- The first run has the elements of a front part of the row. -/
theorem first_perm (least : Nat) (a : α) (rest : List α) :
    ∃ count, (first lt least a rest).Perm (a :: rest.take count) := by
  let fall := descent lt a rest
  let count := if fall = 0 then ascent lt a rest else fall
  let front := if fall = 0 then a :: rest.take count else (a :: rest.take count).reverse
  have hfront : front.Perm (a :: rest.take count) := by
    unfold front
    split
    · exact .refl _
    · exact List.reverse_perm _
  let more := least - front.length
  refine ⟨count + more, ?_⟩
  calc first lt least a rest
      _ ~ (rest.drop count).take more ++ front := foldl_insert_perm lt _ _
      _ ~ (rest.drop count).take more ++ a :: rest.take count := hfront.append_left _
      _ ~ a :: rest.take count ++ (rest.drop count).take more := List.perm_append_comm
      _ ~ a :: rest.take (count + more) := by rw [List.cons_append, ← List.take_add]

/-- Cutting a row keeps its elements. -/
theorem cut_perm (least : Nat) (xs : List α) : (cut lt least xs).flatten.Perm xs := by
  induction xs using cut.induct lt least with
  | case1 => simp [cut]
  | case2 a rest run ih =>
    obtain ⟨count, hfirst⟩ := first_perm lt least a rest
    have hlength : (first lt least a rest).length - 1 = min count rest.length := by
      simp [hfirst.length_eq]
    have hdrop : rest.drop ((first lt least a rest).length - 1) = rest.drop count := by
      rw [hlength]
      rcases Nat.le_total count rest.length with h | h
      · rw [Nat.min_eq_left h]
      · rw [Nat.min_eq_right h, List.drop_length, List.drop_eq_nil_of_le h]
    rw [cut, List.flatten_cons]
    calc first lt least a rest ++
          (cut lt least (rest.drop ((first lt least a rest).length - 1))).flatten
        _ ~ first lt least a rest ++ rest.drop ((first lt least a rest).length - 1) :=
          List.Perm.append_left _ ih
        _ ~ a :: rest.take count ++ rest.drop count := by
          rw [hdrop]
          exact hfirst.append_right _
        _ ~ a :: rest := by rw [List.cons_append, List.take_append_drop]

/-! ## §2 Merging -/

namespace Merge

/-- The elements of a merge, wherever they stand. -/
def items (m : Merge α) : List α := m.left ++ m.right ++ m.merged

theorem giveLeft_items (m : Merge α) (count : Nat) : (m.giveLeft count).items.Perm m.items := by
  have hleft := List.take_append_drop count m.left
  unfold items giveLeft
  dsimp only
  calc m.left.drop count ++ m.right ++ ((m.left.take count).reverse ++ m.merged)
      _ ~ (m.left.take count).reverse ++ m.merged ++ (m.left.drop count ++ m.right) :=
        List.perm_append_comm
      _ ~ m.left.take count ++ m.merged ++ (m.left.drop count ++ m.right) :=
        ((List.reverse_perm _).append_right _).append_right _
      _ ~ m.left.take count ++ ((m.left.drop count ++ m.right) ++ m.merged) := by
        rw [List.append_assoc]
        exact List.perm_append_comm.append_left _
      _ ~ m.left ++ m.right ++ m.merged := by
        rw [← List.append_assoc, ← List.append_assoc, hleft]

theorem giveRight_items (m : Merge α) (count : Nat) : (m.giveRight count).items.Perm m.items := by
  have hright := List.take_append_drop count m.right
  unfold items giveRight
  dsimp only
  calc m.left ++ m.right.drop count ++ ((m.right.take count).reverse ++ m.merged)
      _ ~ m.left ++ ((m.right.take count).reverse ++ m.right.drop count) ++ m.merged := by
        rw [← List.append_assoc, List.append_assoc m.left]
        exact (List.perm_append_comm.append_left _).append_right _
      _ ~ m.left ++ (m.right.take count ++ m.right.drop count) ++ m.merged :=
        (((List.reverse_perm _).append_right _).append_left _).append_right _
      _ ~ m.left ++ m.right ++ m.merged := by rw [hright]

theorem andThen_items {m : Merge α} {step : Merge α → Merge α} (h : (step m).items.Perm m.items) :
    (m.andThen step).items.Perm m.items := by
  unfold andThen
  split
  · exact .refl _
  · exact h

theorem close_perm (m : Merge α) : m.close.Perm m.items := by
  have hmerged : ∀ rest : List α, m.merged.reverse ++ rest ~ rest ++ m.merged := fun rest =>
    ((List.reverse_perm _).append_right rest).trans List.perm_append_comm
  unfold close items
  split
  · rename_i hone
    rw [hone, List.append_assoc]
    exact (hmerged _).trans (List.perm_append_comm.append_right _)
  · rw [List.append_assoc]
    exact hmerged _
  · rename_i hone
    rw [hone, List.append_assoc]
    exact List.Perm.trans (((List.reverse_perm _).append_right _).cons _) List.perm_middle.symm
  · exact ((List.reverse_perm _).append (List.reverse_perm _)).append_right _

theorem moveOne_items (m : Merge α) : (moveOne lt m).1.items.Perm m.items := by
  unfold moveOne
  split
  · split
    · exact m.giveRight_items 1
    · exact m.giveLeft_items 1
  · exact .refl _

theorem moveParts_items (m : Merge α) : (moveParts lt m).1.items.Perm m.items := by
  -- The patience of a merge does not matter for its elements
  have hpatience (patience : Nat) : { m with patience }.items = m.items := rfl
  unfold moveParts
  dsimp only
  split
  · exact .refl _
  · have hleft : ∀ m' count, m'.items = m.items →
        ((giveLeft m' count).andThen (·.giveRight 1)).items.Perm m.items := fun m' count h =>
      (andThen_items (giveRight_items _ 1)).trans (h ▸ giveLeft_items m' count)
    split
    · exact hleft _ _ (hpatience _)
    · refine (andThen_items ?_).trans (hleft _ _ (hpatience _))
      exact (andThen_items (giveLeft_items _ 1)).trans (giveRight_items _ _)

/-- A merge keeps its elements, whatever is compared and however long it goes on. -/
theorem run_items (fuel : Nat) (pace : Pace) (m : Merge α) :
    (m.run lt fuel pace).items.Perm m.items := by
  induction fuel generalizing pace m with
  | zero => exact .refl _
  | succ fuel ih =>
    unfold run
    refine andThen_items ?_
    cases pace with
    | single inLeft inRight =>
      have hmove := moveOne_items lt m
      -- However many elements one run gave in a row, the merge goes on with what was moved
      have hnext (inLeft inRight : Nat) :
          (if (moveOne lt m).1.isOver then (moveOne lt m).1
          else if (moveOne lt m).1.patience ≤ inLeft ∨ (moveOne lt m).1.patience ≤ inRight then
            run lt fuel .parts
              { (moveOne lt m).1 with patience := (moveOne lt m).1.patience + 1 }
          else run lt fuel (.single inLeft inRight) (moveOne lt m).1).items.Perm m.items := by
        split
        · exact hmove
        · split
          · exact (ih _ _).trans hmove
          · exact (ih _ _).trans hmove
      exact hnext _ _
    | parts =>
      have hmove := moveParts_items lt m
      dsimp only
      split
      · exact hmove
      · split
        · exact (ih _ _).trans hmove
        · exact (ih _ _).trans hmove

end Merge

/-- Merging two runs keeps their elements. -/
theorem join_perm (patience : Nat) (left right : List α) :
    (join lt patience left right).1.Perm (left ++ right) := by
  unfold join
  split
  · simp
  · dsimp only
    split
    · exact .refl _
    · split
      · exact .refl _
      · rename_i b rest _ a _ _
        let right := b :: rest
        let stay := Merge.near .front (fun a => !lt b a) left
        let count := right.length - Merge.near .back (fun b => lt b a) right.reverse
        let merge : Merge α :=
          if (left.drop stay).length ≤ (right.take count).length then
            Merge.giveRight ⟨.front, left.drop stay, right.take count, [], patience⟩ 1
          else Merge.giveLeft
            ⟨.back, (left.drop stay).reverse, (right.take count).reverse, [], patience⟩ 1
        have hmerge : merge.items ~ left.drop stay ++ right.take count := by
          unfold merge
          split
          · refine (Merge.giveRight_items _ 1).trans ?_
            simp [Merge.items]
          · refine (Merge.giveLeft_items _ 1).trans ?_
            simpa [Merge.items] using (List.reverse_perm _).append (List.reverse_perm _)
        let merged := merge.run lt (left.length + right.length) (.single 0 0)
        calc left.take stay ++ merged.close ++ right.drop count
            _ ~ left.take stay ++ (left.drop stay ++ right.take count) ++ right.drop count :=
              ((((merged.close_perm).trans (Merge.run_items lt _ _ merge)).trans
                hmerge).append_left _).append_right _
            _ ~ left ++ right := by
              rw [← List.append_assoc, List.take_append_drop, List.append_assoc,
                List.take_append_drop]

/-! ## §3 Sorting -/

/-- The elements of the runs that wait. -/
def waitingItems (waiting : List (Waiting α)) : List α := (waiting.map Waiting.items).flatten

theorem collapse_perm (depth patience : Nat) (waiting : List (Waiting α)) :
    (waitingItems (collapse lt depth patience waiting).1).Perm (waitingItems waiting) := by
  induction patience, waiting using collapse.induct lt depth with
  | case1 patience last before rest hdeep items patience' hjoin ih =>
    rw [collapse, if_pos hdeep, hjoin]
    have hitems := join_perm lt patience before.items last.items
    rw [hjoin] at hitems
    refine ih.trans ?_
    simp only [waitingItems, List.map_cons, List.flatten_cons, ← List.append_assoc]
    exact (hitems.trans List.perm_append_comm).append_right _
  | case2 patience last before rest hdeep =>
    rw [collapse, if_neg hdeep]
  | case3 patience waiting h =>
    rw [collapse]
    · exact h

theorem finish_perm (patience : Nat) (waiting : List (Waiting α)) :
    (finish lt patience waiting).Perm (waitingItems waiting) := by
  induction patience, waiting using finish.induct lt with
  | case1 patience => simp [finish, waitingItems]
  | case2 patience run => simp [finish, waitingItems]
  | case3 patience last middle first rest hshorter items patience' hjoin ih =>
    have hitems := join_perm lt patience first.items middle.items
    rw [hjoin] at hitems
    rw [finish, if_pos hshorter, hjoin]
    refine ih.trans ?_
    simp only [waitingItems, List.map_cons, List.flatten_cons]
    rw [← List.append_assoc middle.items]
    exact ((hitems.trans List.perm_append_comm).append_right _).append_left _
  | case4 patience last middle first rest hshorter items patience' hjoin ih =>
    have hitems := join_perm lt patience middle.items last.items
    rw [hjoin] at hitems
    rw [finish, if_neg hshorter, hjoin]
    refine ih.trans ?_
    simp only [waitingItems, List.map_cons, List.flatten_cons, ← List.append_assoc]
    exact ((hitems.trans List.perm_append_comm).append_right _).append_right _
  | case5 patience last before =>
    rw [finish]
    simp only [waitingItems, List.map_cons, List.map_nil, List.flatten_cons, List.flatten_nil,
      List.append_nil]
    exact (join_perm lt _ _ _).trans List.perm_append_comm

theorem takeIn_perm (n start patience : Nat) (waiting : List (Waiting α)) (runs : List (List α)) :
    (waitingItems (takeIn lt n start patience waiting runs).1).Perm
      (waitingItems waiting ++ runs.flatten) := by
  induction runs generalizing start patience waiting with
  | nil => simp [takeIn]
  | cons items rest ih =>
    -- The run that is taken in comes first, and those before it were merged
    have hnext (waiting' : List (Waiting α)) (patience' : Nat)
        (h : waitingItems waiting' ~ waitingItems waiting) :
        waitingItems (takeIn lt n (start + items.length) patience'
            (⟨start, items, 0⟩ :: waiting') rest).1 ~
          waitingItems waiting ++ (items :: rest).flatten := by
      refine (ih _ _ _).trans ?_
      simp only [waitingItems, List.map_cons, List.flatten_cons, ← List.append_assoc]
      exact (List.perm_append_comm.trans (h.append_right items)).append_right _
    unfold takeIn
    cases waiting with
    | nil => exact hnext [] patience (.refl _)
    | cons last before =>
      refine hnext _ _ ?_
      have hhead (depth : Nat) (waiting : List (Waiting α)) :
          waitingItems (waiting.modifyHead ({ · with power := depth })) = waitingItems waiting := by
        cases waiting <;> rfl
      rw [hhead]
      exact collapse_perm lt _ _ _

/-- **Sorting by runs only rearranges**, whatever comparisons answer. -/
theorem sort_perm (xs : List α) : (sort lt xs).Perm xs := by
  have htake := takeIn_perm lt xs.length 0 usualPatience [] (cut lt (leastLength xs.length 0) xs)
  exact ((finish_perm lt _ _).trans htake).trans (cut_perm lt _ xs)

end Runs

/-- **Sorting only rearranges**, also where an element is not in order with itself. -/
theorem sortBy_perm {α : Type} (le : α → α → Bool) (xs : List α) : (sortBy le xs).Perm xs := by
  unfold sortBy
  split
  · exact List.mergeSort_perm xs le
  · exact Runs.sort_perm _ xs

end Lamella.Order
