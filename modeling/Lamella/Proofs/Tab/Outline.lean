import Lamella.Proofs.Result
import Lamella.Proofs.Tab.Schedule

/-!
# The outline of a tablature

What a tablature says does not depend on how times are measured: its labels strike keys on steps,
and what stands for no key is skipped. A grid only tells when these steps are. So the reading of a
tablature is its outline, struck on the grid, whatever the numbers of the grid are.

## Main definitions

- `Grid.strike`: the note of a key on a step, in any numbers.
- `Tab.strikes`, `Tab.skips`, `Tab.stepsOf`: the outline of a text.

## Main statements

- `Tab.readFrom_outline`, `Tab.read_outline`: the reading of a text is its outline, struck.
- `Grid.strike_rat`: in exact arithmetic every key can be struck on every step.
-/

namespace Lamella

/-- The note of a key on a step of a grid, if it can be measured there. -/
def Grid.strike {R : Type} [Scalar R] (g : Grid R) (place : Int × Nat) : Except Fault (Note R) :=
  Note.make place.1 (g.stepTime place.2) g.step .null

namespace Tab

variable {F R : Type} [Scalar R]

/-! ## §1 Keys on steps -/

/-- The keys that labels on steps lead to. -/
def keysAt (table : List Layout.Address) (places : List (Text × Nat)) : List (Int × Nat) :=
  places.filterMap fun (label, step) => (Layout.resolveIn table label).map (·, step)

/-- The keys that a text strikes, each with the step on which it is struck, in their order. -/
def strikes (layout : Layout F) (text : Text) : List (Int × Nat) :=
  keysAt layout.addresses (placesFrom 0 (tokens text))

/-- What is skipped in a text. -/
def skips (layout : Layout F) (text : Text) : List Skipped :=
  skippedIn layout.addresses (tokens text)

/-- How many steps a text takes. -/
def stepsOf (text : Text) : Nat := widthOf (tokens text)

theorem keysAt_append (table : List Layout.Address) (ps qs : List (Text × Nat)) :
    keysAt table (ps ++ qs) = keysAt table ps ++ keysAt table qs :=
  List.filterMap_append

theorem widthOf_append (ts us : List Token) : widthOf (ts ++ us) = widthOf ts + widthOf us := by
  rw [widthOf, List.map_append, List.sum_append, widthOf, widthOf]

theorem placesFrom_append (step : Nat) (ts us : List Token) :
    placesFrom step (ts ++ us) = placesFrom step ts ++ placesFrom (step + widthOf ts) us := by
  induction ts generalizing step with
  | nil => rfl
  | cons t ts ih =>
    have hwidth : step + t.width + widthOf ts = step + widthOf (t :: ts) := by
      simp [widthOf, Nat.add_assoc]
    rw [List.cons_append, placesFrom, ih, hwidth, placesFrom, List.append_assoc]

/-- Tokens that begin later fall on steps that are later by as much. -/
theorem placesFrom_add (count step : Nat) (ts : List Token) :
    placesFrom (step + count) ts =
      (placesFrom step ts).map fun (label, at_) => (label, at_ + count) := by
  induction ts generalizing step with
  | nil => rfl
  | cons t ts ih =>
    rw [placesFrom, placesFrom, List.map_append, List.map_map, Nat.add_right_comm, ih]
    congr 1
    refine List.map_congr_left fun entry _ => ?_
    exact Prod.ext rfl (Nat.add_right_comm ..)

theorem keysAt_add (table : List Layout.Address) (count : Nat) (places : List (Text × Nat)) :
    keysAt table (places.map fun (label, at_) => (label, at_ + count)) =
      (keysAt table places).map fun (key, at_) => (key, at_ + count) := by
  rw [keysAt, keysAt, List.filterMap_map, List.map_filterMap]
  congr 1
  funext entry
  simp [Function.comp_def]

/-! ## §2 Reading in any numbers -/

variable (table : List Layout.Address) (g : Grid R)

/-- The labels of a token are sounded one after another: those that lead to a key strike it, and the
others are skipped, which never fails. Whatever is done with both may follow. -/
theorem mapM_sound {β : Type} (t : Token) (step : Nat) (entries : List (Text × Nat))
    (next : List (Note R) → List Skipped → Except Fault β) :
    ((entries.mapM fun (label, later) => sound table g t label (step + later)) >>= fun sounds =>
        next (sounds.filterMap Sum.getLeft?) (sounds.filterMap Sum.getRight?)) =
      ((keysAt table (entries.map fun (label, later) => (label, step + later))).mapM g.strike >>=
        fun notes => next notes (entries.filterMap fun (label, _) =>
          if (Layout.resolveIn table label).isNone then
            some ⟨label, t.line, t.column, .noKey label⟩
          else none)) := by
  induction entries generalizing next with
  | nil => rfl
  | cons entry entries ih =>
    obtain ⟨label, later⟩ := entry
    rw [List.mapM_cons, bind_assoc]
    cases hkey : Layout.resolveIn table label with
    | none =>
      -- The label is skipped, before whatever is skipped after it
      have hrest := ih fun notes skipped =>
        next notes (⟨label, t.line, t.column, .noKey label⟩ :: skipped)
      simpa [sound, hkey, keysAt, List.filterMap_cons, Except.ok_bind] using hrest
    | some key =>
      have hkeys : keysAt table (((label, later) :: entries).map
          fun (label, later) => (label, step + later)) = (key, step + later) ::
            keysAt table (entries.map fun (label, later) => (label, step + later)) := by
        simp [keysAt, hkey]
      have hsound : sound table g t label (step + later) =
          (g.strike (key, step + later) >>= fun n => .ok (.inl n)) := by
        rw [sound, hkey]
        rfl
      rw [hkeys, List.mapM_cons, bind_assoc]
      dsimp only
      rw [hsound, bind_assoc]
      congr 1
      funext n
      have hrest := ih fun notes skipped => next (n :: notes) skipped
      simpa [hkey, List.filterMap_cons, Except.ok_bind] using hrest

variable {table g}

/-- **The reading of tokens is their outline**, struck on the grid. -/
theorem readFrom_outline (step : Nat) (ts : List Token) :
    readFrom table g step ts = do
      let notes ← (keysAt table (placesFrom step ts)).mapM g.strike
      return ⟨notes, skippedIn table ts, step + widthOf ts⟩ := by
  induction ts generalizing step with
  | nil => rfl
  | cons t ts ih =>
    have hwidth : step + t.width + widthOf ts = step + widthOf (t :: ts) := by
      simp [widthOf, Nat.add_assoc]
    -- What is done with the sounds of the first token is the reading of the others
    have hsounds := mapM_sound table g t step t.schedule fun notes skipped =>
      readFrom table g (step + t.width) ts >>= fun after => .ok (⟨notes ++ after.notes,
        skipped ++ t.refused ++ after.skipped, after.steps⟩ : Reading R)
    rw [readFrom, placesFrom, keysAt_append, List.mapM_append]
    refine hsounds.trans ?_
    simp only [ih, bind_assoc, pure_bind, hwidth]
    rfl

/-- **The reading of a text is its outline**, struck on the grid. -/
theorem read_outline (layout : Layout F) (g : Grid R) (text : Text) :
    read layout g text = do
      let notes ← (strikes layout text).mapM g.strike
      return ⟨notes, skips layout text, stepsOf text⟩ := by
  rw [read, readFrom_outline, Nat.zero_add]
  rfl

end Tab

/-! ## §3 Exact numbers -/

/-- In exact arithmetic every key can be struck on every step. -/
theorem Grid.strike_rat (g : Grid Rat) (place : Int × Nat) :
    g.strike place = .ok (g.note place.1 place.2) := by
  have htime : ¬ g.stepTime place.2 < Scalar.ofInt 0 := (g.note place.1 place.2).time_not_neg
  have hduration : ¬ g.step ≤ Scalar.ofInt 0 := (g.note place.1 place.2).duration_pos
  simp only [Grid.strike, Note.make, htime, hduration, dite_false]
  rfl

end Lamella
