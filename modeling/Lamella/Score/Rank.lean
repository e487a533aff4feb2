import Lamella.Scalar

/-!
# Ranks

The grade that a play-through earns by its accuracy.
-/

namespace Lamella

/-- A grade, what is said of it, and the accuracy from which on it is given. -/
structure Rank (R : Type) where
  grade : String
  label : String
  least : R

namespace Rank

variable {R : Type} [Scalar R]

/-- The lowest rank. -/
def lowest : Rank R := ⟨"F", "TRY AGAIN", 0.0⟩

/-- All ranks, the best first. -/
def all : List (Rank R) := [
  ⟨"S+", "LEGENDARY!", 98.0⟩,
  ⟨"S", "PERFECT!", 95.0⟩,
  ⟨"A", "EXCELLENT!", 90.0⟩,
  ⟨"B", "GREAT!", 80.0⟩,
  ⟨"C", "GOOD", 70.0⟩,
  ⟨"D", "OKAY", 60.0⟩,
  lowest]

/-- The rank of an accuracy: the best one that it reaches, or else the lowest. -/
def ofAccuracy (accuracy : R) : Rank R :=
  (all.find? fun rank => decide (rank.least ≤ accuracy)).getD lowest

end Rank

end Lamella
