import Lamella.Order
import Lamella.Pitch

/-!
# Heard notes

A note that was found in a recording, before it is put onto a key: a pitch, which may lie between
two semitones, from an onset to a later offset.
-/

namespace Lamella

/-- A note found in a recording. -/
structure HeardNote (F R : Type) [Scalar R] where
  pitch : F
  onset : R
  offset : R
  velocity : Int
  onset_lt : ¬ offset ≤ onset

namespace HeardNote

variable {F R : Type} [Scalar R]

/-- The velocity of a note whose loudness is not known. -/
def defaultVelocity : Int := 80

/-- The note of the given parts, if it ends after it begins. -/
def make (pitch : F) (onset offset : R) (velocity : Int) : Except Fault (HeardNote F R) :=
  if h : offset ≤ onset then .error (.noteOffset (Scalar.written offset) (Scalar.written onset))
  else .ok ⟨pitch, onset, offset, velocity, h⟩

/-- How long a note lasts. -/
def duration (n : HeardNote F R) : R := n.offset - n.onset

/-- The name of the semitone nearest to a note. -/
def name [Analytic F] (n : HeardNote F R) : Except Fault String := do
  Pitch.nameOf (← (Scalar.round n.pitch).mapError Fault.ofGap)

/-- Notes in the order of their onsets, and of their pitches where onsets are equal. -/
def inOrder [Scalar F] (notes : List (HeardNote F R)) : List (HeardNote F R) :=
  Order.sortBy
    (fun a b =>
      if Scalar.same a.onset b.onset then decide (a.pitch ≤ b.pitch)
      else decide (a.onset < b.onset))
    notes

end HeardNote

end Lamella
