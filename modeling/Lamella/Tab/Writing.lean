import Lamella.Grid
import Lamella.Journal
import Lamella.Layout.Basic
import Lamella.Order

/-!
# Writing tablature

Notes are written on the step nearest to their time. A step without notes is a rest, one note is its
label, and several are a chord in parentheses. Each measure has a line of its own. Notes on keys
that no label leads to are left out, with a warning.

## Main definitions

- `Tab.Writing`: a text, and the keys of the notes that are missing from it.
- `Tab.write`: the writing of notes.
-/

namespace Lamella.Tab

/-- A written tablature, and the keys of the notes that it cannot show. -/
structure Writing where
  text : Text
  unlabelled : List Int
deriving DecidableEq, Inhabited

/-- The token of a step that sounds the notes of some labels. -/
def stepText : List Text → Text
  | [] => "-"
  | [label] => label
  | labels => "(" ++ Text.join " " labels ++ ")"

/-- The labels that are struck at a step. -/
def labelsAt (entries : List (Int × Text)) (step : Nat) : List Text :=
  entries.filterMap fun (at_, label) => if at_ = step then some label else none

/-- How many steps the last entry ends. -/
def stepCount (entries : List (Int × Text)) : Nat :=
  entries.foldl (fun count (at_, _) => max count (at_ + 1).toNat) 0

/-- The tokens of steps, the first of which has the given number: a new measure begins a line. -/
def measureText (perLine : Nat) (step : Nat) : List Text → Text
  | [] => []
  | token :: rest =>
    (if step = 0 then "" else if step % perLine = 0 then "\n" else " ") ++ token ++
      measureText perLine (step + 1) rest

/-- The text of labels on steps. -/
def entriesText (perLine : Nat) (entries : List (Int × Text)) : Text :=
  measureText perLine 0
    ((List.range (stepCount entries)).map fun step => stepText (labelsAt entries step))

section

variable {F R : Type} [Scalar R]

/-- Whether a note may stand before another: by their times, and by their keys where times are equal
or are both said to be no numbers. -/
def mayPrecede (a b : Note R) : Bool :=
  if a.isUntimed && b.isUntimed then decide (a.key < b.key)
  else Order.lexLe (a.time, a.key) (b.time, b.key)

/-- Notes in the order of their times, and of their keys where times are equal. -/
def inOrder (notes : List (Note R)) : List (Note R) := Order.sortBy mayPrecede notes

/-- The label of a note and the step nearest to its time; nothing for a note without a label. -/
def entry (table : List Layout.Address) (grid : Grid R) (n : Note R) :
    Except Fault (Option (Int × Text)) :=
  match Layout.labelIn table n.key with
  | none => .ok none
  | some label => return some (← grid.stepIndex n.time, label)

/-- The writing of notes. -/
def write (layout : Layout F) (grid : Grid R) (notes : List (Note R)) : Except Fault Writing := do
  let notes := inOrder notes
  -- The table is gathered once, not for every note
  let table := layout.addresses
  let entries ← notes.mapM (entry table grid)
  return {
    text := entriesText grid.metre.numerator.toNat (entries.filterMap id)
    unlabelled := (notes.filter fun n => (Layout.labelIn table n.key).isNone).map Note.key }

end

/-- The warning of a writing that leaves notes out. -/
def Writing.warnings (w : Writing) : List Warning :=
  if w.unlabelled = [] then []
  else
    -- Every note that is left out is counted, every key named once
    let keys := (Order.dedup (· == ·) w.unlabelled).mergeSort (fun a b => decide (a ≤ b))
    [.unlabelled w.unlabelled.length keys]

/-- The writing of notes, with a warning if some are left out. -/
def writeWarning {F R : Type} [Scalar R] (layout : Layout F) (grid : Grid R)
    (notes : List (Note R)) : Work Text := do
  let w ← Work.of (write layout grid notes)
  Work.warnAll w.warnings
  return w.text

end Lamella.Tab
