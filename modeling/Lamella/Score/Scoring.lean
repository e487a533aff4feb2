import Lamella.Score.Tier

/-!
# Scoring rules

What each tier is worth, and by how much a combo multiplies it.

## Main definitions

- `Worth`: the value of each tier.
- `Scoring`: values and combo thresholds, which ascend.
- `Scoring.multiplier`: the multiplier of a combo.
-/

namespace Lamella

/-- The value of each tier. -/
structure Worth where
  perfect : Int
  good : Int
  okay : Int
  miss : Int
deriving DecidableEq, Inhabited

namespace Worth

/-- The value of a tier. -/
def of (w : Worth) : Tier → Int
  | .perfect => w.perfect
  | .good => w.good
  | .okay => w.okay
  | .miss => w.miss

/-- The highest value of a tier. -/
def best (w : Worth) : Int := max (max (max w.perfect w.good) w.okay) w.miss

/-- The values where no others are given. -/
def usual : Worth := ⟨100, 75, 50, 0⟩

/-- The value that a list of tiers gives a tier; the last one counts. -/
def last? (values : List (Tier × Int)) (t : Tier) : Option Int :=
  (values.reverse.find? (·.1 == t)).map (·.2)

/-- The values of a list of tiers, which must name them all. -/
def ofList (values : List (Tier × Int)) : Except Fault Worth :=
  match last? values .perfect, last? values .good, last? values .okay, last? values .miss with
  | some perfect, some good, some okay, some miss => .ok ⟨perfect, good, okay, miss⟩
  | _, _, _, _ =>
    -- All that is missing is named at once
    let missing := Tier.all.filter fun t => (last? values t).isNone
    .error (.tiersMissing ((missing.map Tier.text).mergeSort fun a b => decide (a ≤ b)))

end Worth

/-- The values of the tiers, and from which combo on which multiplier holds. -/
structure Scoring (R : Type) where
  worth : Worth
  thresholds : List (Int × R)
  ascending : (thresholds.map (·.1)).Pairwise (· ≤ ·)

namespace Scoring

variable {R : Type}

/-- The rules of the given values and thresholds. -/
def make (values : List (Tier × Int)) (thresholds : List (Int × R)) : Except Fault (Scoring R) :=
  if h : (thresholds.map (·.1)).Pairwise (· ≤ ·) then do
    return ⟨← Worth.ofList values, thresholds, h⟩
  else .error .thresholdOrder

variable [Scalar R]

/-- The multipliers where no others are given. -/
def usualThresholds : List (Int × R) := [(10, 1.5), (25, 2.0), (50, 3.0), (100, 4.0)]

/-- The rules where no others are given. -/
def usual : Scoring R := ⟨.usual, usualThresholds, by simp [usualThresholds]⟩

/-- The multiplier of a combo: that of the last threshold it reaches, and one below them all. -/
def multiplier (s : Scoring R) (combo : Int) : R :=
  s.thresholds.foldl (fun m t => if t.1 ≤ combo then t.2 else m) 1.0

end Scoring

end Lamella
