import Lamella.Order.Runs
import Lamella.Scalar

/-!
# Order

Stable sorting and searching by halving, over comparisons that scalars give. A scalar that is no
number compares with nothing, not even with itself, so both operations say what becomes of it.

## Main definitions

- `Order.sortBy`: stable sorting.
- `Order.partitionPoint`: where a property stops to hold.
- `Order.firstAtLeast`, `Order.firstAbove`: the places of a scalar in a sorted row.
- `Order.dedup`: the first of each group of equal elements.
-/

namespace Lamella.Order

section Scalar

variable {R : Type} [Scalar R]

/-- The first place in a sorted row whose scalar is not below `x`. -/
def firstAtLeast (xs : Array R) (x : R) : Nat := partitionPoint (fun y => decide (y < x)) xs

/-- The first place in a sorted row whose scalar is above `x`. -/
def firstAbove (xs : Array R) (x : R) : Nat := partitionPoint (fun y => !decide (x < y)) xs

/-- The lexicographic order of a scalar and an integer. -/
def lexLe (a b : R × Int) : Bool :=
  if Scalar.same a.1 b.1 then decide (a.2 ≤ b.2) else decide (a.1 < b.1)

end Scalar

/-- Whether `a` comes strictly before `b`. -/
def before {α : Type} (le : α → α → Bool) (a b : α) : Bool := le a b && !le b a

/-- Stable sorting by `le`. -/
def sortBy {α : Type} (le : α → α → Bool) (xs : List α) : List α :=
  -- Where something compares with nothing, the outcome depends on which comparisons are made
  if xs.all fun a => le a a then xs.mergeSort le else Runs.sort (before le) xs

/-- The first of each group of elements that are the same. -/
def dedup {α : Type} (same : α → α → Bool) (xs : List α) : List α :=
  (xs.foldl (fun kept a => if kept.any (same a) then kept else a :: kept) []).reverse

end Lamella.Order
