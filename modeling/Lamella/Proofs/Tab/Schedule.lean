import Lamella.Proofs.Scalar.Exact
import Lamella.Tab.Reading

/-!
# The schedule of a tablature

In exact arithmetic a tablature can always be read, and its reading is said without running it: the
labels of its tokens fall on steps, each label that leads to a key is a note on its step, and all
else is skipped.

## Main statements

- `sound_rat`: what one label of a token stands for.
- `readFrom_rat`: the reading of tokens is their schedule.
-/

namespace Lamella

/-- The note of a key on a step, as long as the step. -/
def Grid.note (g : Grid Rat) (key : Int) (step : Nat) : Note Rat where
  key := key
  time := g.stepTime step
  duration := g.step
  time_not_neg := not_lt.mpr (g.stepTime_nonneg (Int.natCast_nonneg step))
  duration_pos := not_le.mpr g.step_pos

namespace Tab

/-! ## §1 Steps and skipped places -/

/-- The labels of tokens, the first of which begins at a step, each with the step it falls on. -/
def placesFrom (step : Nat) : List Token → List (Text × Nat)
  | [] => []
  | t :: rest =>
    t.schedule.map (fun (label, later) => (label, step + later)) ++ placesFrom (step + t.width) rest

/-- How many steps tokens take. -/
def widthOf (ts : List Token) : Nat := (ts.map Token.width).sum

/-- The labels of a token that lead to no key. -/
def Token.lost (table : List Layout.Address) (t : Token) : List Skipped :=
  t.schedule.filterMap fun (label, _) =>
    if (Layout.resolveIn table label).isNone then some ⟨label, t.line, t.column, .noKey label⟩
    else none

/-- What is skipped in tokens. -/
def skippedIn (table : List Layout.Address) (ts : List Token) : List Skipped :=
  ts.flatMap fun t => t.lost table ++ t.refused

/-- The notes of labels on steps. -/
def notesAt (table : List Layout.Address) (g : Grid Rat) (places : List (Text × Nat)) :
    List (Note Rat) :=
  places.filterMap fun (label, step) => (Layout.resolveIn table label).map (g.note · step)

theorem notesAt_append (table : List Layout.Address) (g : Grid Rat) (ps qs : List (Text × Nat)) :
    notesAt table g (ps ++ qs) = notesAt table g ps ++ notesAt table g qs :=
  List.filterMap_append

/-! ## §2 Reading in exact arithmetic -/

variable {table : List Layout.Address} {g : Grid Rat}

/-- What a label of a token stands for at a step, without the faults of measured times. -/
def meaning (table : List Layout.Address) (g : Grid Rat) (t : Token) (label : Text) (step : Nat) :
    Note Rat ⊕ Skipped :=
  match Layout.resolveIn table label with
  | none => .inr ⟨label, t.line, t.column, .noKey label⟩
  | some key => .inl (g.note key step)

/-- In exact arithmetic a label stands for what it means. -/
theorem sound_rat (t : Token) (label : Text) (step : Nat) :
    sound table g t label step = .ok (meaning table g t label step) := by
  unfold sound meaning
  cases Layout.resolveIn table label with
  | none => rfl
  | some key =>
    have htime : ¬ g.stepTime step < Scalar.ofInt 0 := (g.note key step).time_not_neg
    have hduration : ¬ g.step ≤ Scalar.ofInt 0 := (g.note key step).duration_pos
    simp only [Note.make, htime, hduration, dite_false]
    rfl

theorem notesAt_schedule (t : Token) (step : Nat) :
    (t.schedule.map fun (label, later) => meaning table g t label (step + later)).filterMap
        Sum.getLeft? =
      notesAt table g (t.schedule.map fun (label, later) => (label, step + later)) := by
  rw [notesAt, List.filterMap_map, List.filterMap_map]
  congr 1
  funext ⟨label, later⟩
  cases hkey : Layout.resolveIn table label <;> simp [meaning, hkey]

theorem lost_schedule (t : Token) (step : Nat) :
    (t.schedule.map fun (label, later) => meaning table g t label (step + later)).filterMap
        Sum.getRight? =
      t.lost table := by
  rw [Token.lost, List.filterMap_map]
  congr 1
  funext ⟨label, later⟩
  cases hkey : Layout.resolveIn table label <;> simp [meaning, hkey]

/-- **The reading of tokens is their schedule.** -/
theorem readFrom_rat (step : Nat) (ts : List Token) :
    readFrom table g step ts =
      .ok ⟨notesAt table g (placesFrom step ts), skippedIn table ts, step + widthOf ts⟩ := by
  induction ts generalizing step with
  | nil => rfl
  | cons t ts ih =>
    -- No label of the token fails, so its labels are read one after another
    have hsounds : (t.schedule.mapM fun (label, later) => sound table g t label (step + later)) =
        .ok (t.schedule.map fun (label, later) => meaning table g t label (step + later)) := by
      simp only [sound_rat]
      exact List.mapM_pure
    have hwidth : step + widthOf (t :: ts) = step + t.width + widthOf ts := by
      simp [widthOf, Nat.add_assoc]
    have hskipped : skippedIn table (t :: ts) = t.lost table ++ t.refused ++ skippedIn table ts :=
      rfl
    rw [readFrom, hsounds, ih, placesFrom, notesAt_append, ← notesAt_schedule, hwidth, hskipped,
      ← lost_schedule (g := g) t step]
    rfl

end Tab

end Lamella
