/-!
# Sorting by runs

A row is cut into runs that are in order, and neighbouring runs are merged until one is left. The
sort is stable. All it asks for is `lt a b`, whether `a` comes strictly before `b`, and it has a
result whatever the answers are: numbers that compare with nothing end up where the steps of the
sort leave them.

## Main definitions

- `halving`, `partitionPoint`: where a property stops to hold, looked for in the middle again and
  again.
- `Runs.cut`: the runs of a row.
- `Runs.fromFront`, `Runs.fromBack`: where a property stops to hold, looked for at distances from an
  end that double.
- `Runs.join`: two neighbouring runs merged.
- `Runs.power`: the depth at which two runs would meet if the row were halved again and again, which
  tells when they are merged.
- `Runs.sort`: the sorted row.
-/

namespace Lamella.Order

/-! ## Halving

The result is the index where a property stops to hold that holds of a front part and of nothing
after it; of other properties it is an index next to which the property changes. -/

/-- The index in `[low, high]` up to which `p` holds, by halving. -/
def halving (p : Nat → Bool) (low high : Nat) : Nat :=
  if low < high then
    let middle := (low + high) / 2
    if p middle then halving p (middle + 1) high else halving p low middle
  else low
termination_by high - low

/-- The index at which `p` stops to hold. -/
def partitionPoint {α : Type} (p : α → Bool) (xs : Array α) : Nat :=
  halving (fun i => xs[i]?.any p) 0 xs.size

namespace Runs

/-! ## Cutting -/

section Cutting

variable {α : Type} (lt : α → α → Bool)

/-- The length of the first part that never falls, counted after its first element. -/
def ascent : α → List α → Nat
  | _, [] => 0
  | a, b :: rest => if lt b a then 0 else ascent b rest + 1

/-- The length of the first part that strictly falls, counted after its first element. -/
def descent : α → List α → Nat
  | _, [] => 0
  | a, b :: rest => if lt b a then descent b rest + 1 else 0

/-- Puts an element into a run, after the elements it does not come before. -/
def insert (run : Array α) (a : α) : Array α :=
  let place := partitionPoint (fun b => !lt a b) run
  (run.toList.take place ++ a :: run.toList.drop place).toArray

/-- The first run of a row: the part that never falls, or the part that strictly falls turned round.
A run that is too short takes the next elements in, each at its place. -/
def first (least : Nat) (a : α) (rest : List α) : List α :=
  let fall := descent lt a rest
  let count := if fall = 0 then ascent lt a rest else fall
  let run := a :: rest.take count
  let run := if fall = 0 then run else run.reverse
  (((rest.drop count).take (least - run.length)).foldl (insert lt) run.toArray).toList

/-- The runs of a row. -/
def cut (least : Nat) (xs : List α) : List (List α) :=
  match xs with
  | [] => []
  | a :: rest =>
    let run := first lt least a rest
    run :: cut least (rest.drop (run.length - 1))
termination_by xs.length

/-- The fewest elements of a run in a row of `n`: `n` halved until it is below 64, and one more if
any of the halves left a rest. -/
def leastLength (n rest : Nat) : Nat :=
  if n < 64 then n + rest else leastLength (n / 2) (max rest (n % 2))
termination_by n

end Cutting

/-! ## Looking from an end -/

/-- Doubles a distance as long as `p` holds there and it is below `n`: the last distance at which
`p` held, and the first at which it does not, which is at most `n`. -/
def doubling (p : Nat → Bool) (n last step : Nat) : Nat × Nat :=
  if step < n then
    if p step then doubling p n step (2 * step + 1) else (last, step)
  else (last, n)
termination_by n - step

/-- How many of the first `n` indices satisfy `p`, looked for from the front. -/
def fromFront (p : Nat → Bool) (n : Nat) : Nat :=
  if p 0 then
    let (last, step) := doubling p n 0 1
    halving p (last + 1) step
  else 0

/-- How many of the first `n` indices satisfy `p`, looked for from the back. -/
def fromBack (p : Nat → Bool) (n : Nat) : Nat :=
  if p (n - 1) then n
  else
    let (last, step) := doubling (fun k => !p (n - 1 - k)) n 0 1
    halving p (n - step) (n - 1 - last)

/-! ## Merging -/

section Merging

variable {α : Type}

/-- The end that a merge begins at. -/
inductive Side where
  | front
  | back
deriving DecidableEq, Inhabited

/-- Two neighbouring runs on the way to one. Where the merge begins at the back, the runs are kept
last element first; what is merged is kept so where it begins at the front. -/
structure Merge (α : Type) where
  side : Side
  left : List α
  right : List α
  merged : List α := []
  /-- The elements that one run has to give in a row before whole parts are moved. -/
  patience : Nat

/-- The size of a part from which on it pays to go on with parts, and the first patience. -/
def usualPatience : Nat := 7

namespace Merge

/-- Moves so many elements of the left run. -/
def giveLeft (m : Merge α) (count : Nat) : Merge α :=
  { m with left := m.left.drop count, merged := (m.left.take count).reverse ++ m.merged }

/-- Moves so many elements of the right run. -/
def giveRight (m : Merge α) (count : Nat) : Merge α :=
  { m with right := m.right.drop count, merged := (m.right.take count).reverse ++ m.merged }

/-- Whether no element is left to compare: one run is used up, or the run that has the element at
the far end has no other. -/
def isOver (m : Merge α) : Bool :=
  match m.side with
  | .front => m.right.isEmpty || m.left.length ≤ 1
  | .back => m.left.isEmpty || m.right.length ≤ 1

/-- The next step of a merge that is not over. -/
def andThen (m : Merge α) (step : Merge α → Merge α) : Merge α := if m.isOver then m else step m

/-- The merged row: what is left of the runs follows, an element of the far end last. -/
def close (m : Merge α) : List α :=
  match m.side, m.left, m.right with
  | .front, [a], right => m.merged.reverse ++ right ++ [a]
  | .front, left, right => m.merged.reverse ++ left ++ right
  | .back, left, [b] => b :: (left.reverse ++ m.merged)
  | .back, left, right => left.reverse ++ right.reverse ++ m.merged

/-- How many elements of a run, which satisfy `p` up to some place, are on the near side of that
place. -/
def near (side : Side) (p : α → Bool) (run : List α) : Nat :=
  match side with
  | .front =>
    let xs := run.toArray
    fromFront (fun i => xs[i]?.any p) xs.size
  | .back =>
    let xs := run.toArray.reverse
    xs.size - fromBack (fun i => xs[i]?.any p) xs.size

/-- How a merge goes on: element by element, with the count of elements that the left and the right
run gave in a row; or part by part. -/
inductive Pace where
  | single (left right : Nat)
  | parts
deriving DecidableEq, Inhabited

variable (lt : α → α → Bool)

/-- Moves the elements of the left run that come before the next one of the right run on this side,
then that one, and then the same with the runs exchanged. -/
def moveParts (m : Merge α) : Merge α × Bool :=
  let patience := if 1 < m.patience then m.patience - 1 else m.patience
  let m := { m with patience }
  match m.right with
  | [] => (m, false)
  | b :: _ =>
    let fromLeft := near m.side (fun a => !lt b a) m.left
    let m := (m.giveLeft fromLeft).andThen (·.giveRight 1)
    match m.left with
    | [] => (m, false)
    | a :: _ =>
      let fromRight := near m.side (fun b => lt b a) m.right
      let after := m.andThen fun m => (m.giveRight fromRight).andThen (·.giveLeft 1)
      (after, usualPatience ≤ fromLeft || usualPatience ≤ fromRight)

/-- Moves the next element, and tells whether it was one of the right run. -/
def moveOne (m : Merge α) : Merge α × Bool :=
  match m.left, m.right with
  | a :: _, b :: _ =>
    if lt b a = (m.side == .front) then (m.giveRight 1, true) else (m.giveLeft 1, false)
  | _, _ => (m, false)

/-- Merges until the merge is over. Parts that become small are followed by single elements, and
more of them in a row are asked for from then on. -/
def run (fuel : Nat) (pace : Pace) (m : Merge α) : Merge α :=
  match fuel with
  | 0 => m
  | fuel + 1 =>
    m.andThen fun m =>
      match pace with
      | .single inLeft inRight =>
        let (m, right) := moveOne lt m
        let (inLeft, inRight) := if right then (0, inRight + 1) else (inLeft + 1, 0)
        if m.isOver then m
        else if m.patience ≤ inLeft ∨ m.patience ≤ inRight then
          run fuel .parts { m with patience := m.patience + 1 }
        else run fuel (.single inLeft inRight) m
      | .parts =>
        let (m, large) := moveParts lt m
        if m.isOver then m
        else if large then run fuel .parts m
        else run fuel (.single 0 0) { m with patience := m.patience + 1 }

end Merge

variable (lt : α → α → Bool)

/-- Two neighbouring runs merged, and the patience of the next merge. The front of the left run that
stays in front and the back of the right run that stays behind are left alone; of the rest, the
shorter run is the one that is moved aside. -/
def join (patience : Nat) (left right : List α) : List α × Nat :=
  match right with
  | [] => (left, patience)
  | b :: _ =>
    let stay := Merge.near .front (fun a => !lt b a) left
    let moving := left.drop stay
    match moving.getLast? with
    | none => (left ++ right, patience)
    | some a =>
      let count := right.length - Merge.near .back (fun b => lt b a) right.reverse
      let others := right.take count
      if others = [] then (left ++ right, patience)
      else
        let merge : Merge α :=
          if moving.length ≤ others.length then
            Merge.giveRight ⟨.front, moving, others, [], patience⟩ 1
          else Merge.giveLeft ⟨.back, moving.reverse, others.reverse, [], patience⟩ 1
        let merge := merge.run lt (left.length + right.length) (.single 0 0)
        (left.take stay ++ merge.close ++ right.drop count, merge.patience)

end Merging

/-! ## Sorting -/

section Sorting

variable {α : Type} (lt : α → α → Bool)

/-- How often a row of `n` has to be halved until two points of it, given as doubled indices, are in
different halves. -/
def splits (fuel a b n : Nat) : Nat :=
  match fuel with
  | 0 => 0
  | fuel + 1 =>
    if n ≤ a then splits fuel (2 * (a - n)) (2 * (b - n)) n + 1
    else if n ≤ b then 1
    else splits fuel (2 * a) (2 * b) n + 1

/-- The depth at which two neighbouring runs, of which the first begins at `start`, would meet if a
row of `n` were halved again and again: that of their middles. -/
def power (start left right n : Nat) : Nat :=
  splits n (2 * start + left) (2 * start + left + (left + right)) n

/-- A run that waits for the next one: where it begins, its elements, and the power of the two. -/
structure Waiting (α : Type) where
  start : Nat
  items : List α
  power : Nat
deriving Inhabited

/-- Merges the last runs, which come first here, as long as those before them would meet deeper
than the given power. -/
def collapse (depth patience : Nat) (waiting : List (Waiting α)) : List (Waiting α) × Nat :=
  match waiting with
  | last :: before :: rest =>
    if depth < before.power then
      let (items, patience) := join lt patience before.items last.items
      collapse depth patience ({ before with items } :: rest)
    else (waiting, patience)
  | _ => (waiting, patience)
termination_by waiting.length

/-- Merges all runs, the last of which come first; a run between two others goes to the shorter. -/
def finish (patience : Nat) (waiting : List (Waiting α)) : List α :=
  match waiting with
  | [] => []
  | [run] => run.items
  | last :: middle :: first :: rest =>
    if first.items.length < last.items.length then
      let (items, patience) := join lt patience first.items middle.items
      finish patience (last :: { first with items } :: rest)
    else
      let (items, patience) := join lt patience middle.items last.items
      finish patience ({ middle with items } :: first :: rest)
  | [last, before] => (join lt patience before.items last.items).1
termination_by waiting.length

/-- Takes the runs of a row of `n` in, one after the other. -/
def takeIn (n start patience : Nat) (waiting : List (Waiting α)) :
    List (List α) → List (Waiting α) × Nat
  | [] => (waiting, patience)
  | items :: rest =>
    let (waiting, patience) :=
      match waiting with
      | [] => (waiting, patience)
      | last :: _ =>
        let depth := power last.start last.items.length items.length n
        let (waiting, patience) := collapse lt depth patience waiting
        (waiting.modifyHead ({ · with power := depth }), patience)
    takeIn n (start + items.length) patience (⟨start, items, 0⟩ :: waiting) rest

/-- The sorted row. -/
def sort (xs : List α) : List α :=
  let n := xs.length
  let (waiting, patience) := takeIn lt n 0 usualPatience [] (cut lt (leastLength n 0) xs)
  finish lt patience waiting

end Sorting

end Runs

end Lamella.Order
