import Lamella.Score.Scoring
import Lamella.Song.Basic

/-!
# Keeping score

A keeper judges each note at most once, and nothing any more once it is frozen. A hit is worth the
value of its tier times the multiplier of the combo that it makes, rounded half up; a miss ends the
combo.

## Main definitions

- `Score`: score, combo, counts and accuracy.
- `Keeper`, `Keeper.register`: a score being kept.
- `Keeper.accuracy`: the percentage of what the judged notes could have been worth.
-/

namespace Lamella

/-- A player's score. -/
structure Score (R : Type) where
  points : Int
  combo : Nat
  maxCombo : Nat
  perfect : Nat
  good : Nat
  okay : Nat
  miss : Nat
  accuracy : R

namespace Score

variable {R : Type}

/-- The score before anything is judged. -/
def fresh [Scalar R] : Score R := ⟨0, 0, 0, 0, 0, 0, 0, 100.0⟩

/-- How many notes were judged. -/
def judged (s : Score R) : Nat := s.perfect + s.good + s.okay + s.miss

/-- How many notes were judged to be of a tier. -/
def count (s : Score R) : Tier → Nat
  | .perfect => s.perfect
  | .good => s.good
  | .okay => s.okay
  | .miss => s.miss

/-- A score with one more note of a tier. -/
def bump (s : Score R) : Tier → Score R
  | .perfect => { s with perfect := s.perfect + 1 }
  | .good => { s with good := s.good + 1 }
  | .okay => { s with okay := s.okay + 1 }
  | .miss => { s with miss := s.miss + 1 }

/-- A score with the combo that a note of a tier makes or ends. -/
def advance (s : Score R) (t : Tier) : Score R :=
  if t.isHit then { s with combo := s.combo + 1, maxCombo := max s.maxCombo (s.combo + 1) }
  else { s with combo := 0 }

/-- What the judged notes are worth together. -/
def earned (s : Score R) (w : Worth) : Int :=
  s.perfect * w.perfect + s.good * w.good + s.okay * w.okay + s.miss * w.miss

end Score

/-- A score being kept: the rules, the score, the ids of the judged notes, and whether it is
frozen. -/
structure Keeper (R : Type) where
  scoring : Scoring R
  score : Score R
  judged : Shelves (Value R)
  frozen : Bool

namespace Keeper

variable {R : Type} [Scalar R]

/-- A keeper that has judged nothing. -/
def fresh (scoring : Scoring R) : Keeper R := ⟨scoring, .fresh, .bare, false⟩

/-- Whether a note was judged. -/
def isJudged (k : Keeper R) (id : Value R) : Bool :=
  k.judged.any (Song.sameId id) (Song.idCode id)

/-- Whether a note was judged, if its id can tell notes apart. -/
def checkJudged (k : Keeper R) (id : Value R) : Except Fault Bool :=
  if Song.isIdentifying id then .ok (k.isJudged id) else .error .wrongShape

/-- A keeper whose score changes no more. -/
def freeze (k : Keeper R) : Keeper R := { k with frozen := true }

/-- The points that a note of a tier adds at a combo. -/
def gain (scoring : Scoring R) (combo : Nat) (t : Tier) : Except Fault Int := do
  let worth : R ← Value.scalarOfInt (scoring.worth.of t)
  -- Half a point goes up, also below zero
  (Scalar.floor (worth * scoring.multiplier combo + 0.5)).mapError Fault.ofGap

/-- The accuracy of a score in percent: what its notes are worth, of what they could be worth. It
is full before anything is judged, and zero where no tier is worth anything. -/
def accuracy (w : Worth) (s : Score R) : Except Fault R :=
  if s.judged = 0 then .ok 100.0
  else if w.best ≤ 0 then .ok 0.0
  else do
    let earned : R ← Value.scalarOfInt (s.earned w)
    let possible : R ← Value.scalarOfInt (s.judged * w.best)
    return 100.0 * earned / possible

/-- Registers the judgment of a note: whether it was applied, and the keeper afterwards. Where a
value is beyond the scalars the registration stops half-way. -/
def register (k : Keeper R) (id : Value R) (t : Tier) : Except Fault Bool × Keeper R :=
  if k.frozen then (.ok false, k)
  else
    match k.checkJudged id with
    | .error fault => (.error fault, k)
    | .ok true => (.ok false, k)
    | .ok false =>
      -- The note is marked and the combo goes on before anything is computed that can fail
      let score := k.score.advance t
      let k := { k with judged := k.judged.put (Song.idCode id) id, score }
      match gain k.scoring score.combo t with
      | .error fault => (.error fault, k)
      | .ok points =>
        let score := ({ score with points := score.points + points } : Score R).bump t
        let k := { k with score }
        match accuracy k.scoring.worth score with
        | .error fault => (.error fault, k)
        | .ok percent => (.ok true, { k with score := { score with accuracy := percent } })

end Keeper

end Lamella
