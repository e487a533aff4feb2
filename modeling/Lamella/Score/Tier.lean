import Lamella.Fault

/-!
# Tiers

A hit is as good as it is close to the time of its note. Around that time lie nested windows, given
as fractions of the hit window.

## Main definitions

- `Tier`: how good a hit is.
- `Windows`, `Windows.classify`: the windows, and the tier of a distance in time.
-/

namespace Lamella

/-- How good a hit is, the best first. -/
inductive Tier where
  | perfect
  | good
  | okay
  | miss
deriving DecidableEq, Inhabited

namespace Tier

/-- All tiers, the best first. -/
def all : List Tier := [perfect, good, okay, miss]

/-- The name of a tier. -/
def text : Tier → String
  | perfect => "perfect"
  | good => "good"
  | okay => "okay"
  | miss => "miss"

/-- The tier of a name. -/
def ofName (s : Text) : Except Fault Tier :=
  match all.find? fun t => (t.text : Text) == s with
  | some t => .ok t
  | none => .error .unlisted

/-- Whether a tier is a hit. -/
def isHit (t : Tier) : Bool := t != miss

end Tier

/-- The hit window in milliseconds, and the fractions of it within which a hit is perfect or
good. -/
structure Windows (R : Type) [Scalar R] where
  hit : R
  perfect : R
  good : R
  hit_pos : ¬ hit ≤ Scalar.ofInt 0
  nested : Scalar.ofInt 0 < perfect ∧ perfect ≤ good ∧ good ≤ Scalar.ofInt 1

namespace Windows

variable {R : Type} [Scalar R]

/-- The hit window assumed where none is given. -/
def defaultHit : R := 150.0

/-- The fraction within which a hit is perfect where no other is given. -/
def defaultPerfect : R := 0.3

/-- The fraction within which a hit is good where no other is given. -/
def defaultGood : R := 0.6

/-- The windows of the given sizes. -/
def make (hit perfect good : R) : Except Fault (Windows R) :=
  if h : hit ≤ Scalar.ofInt 0 then .error (.hitWindow (Scalar.written hit))
  else if h' : Scalar.ofInt 0 < perfect ∧ perfect ≤ good ∧ good ≤ Scalar.ofInt 1 then
    .ok ⟨hit, perfect, good, h, h'⟩
  else .error .windowFractions

/-- The tier of a distance in milliseconds. -/
def classify (w : Windows R) (delta : R) : Tier :=
  let distance := Scalar.abs delta
  if distance ≤ w.hit * w.perfect then .perfect
  else if distance ≤ w.hit * w.good then .good
  else if distance ≤ w.hit then .okay
  else .miss

end Windows

end Lamella
