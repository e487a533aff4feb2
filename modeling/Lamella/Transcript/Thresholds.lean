import Lamella.Fault

/-!
# Thresholds

How clear a recording has to be for notes to be found in it. A second attempt may be made with
thresholds relaxed.
-/

namespace Lamella

/-- The thresholds of a transcription: of onsets and of the confidence in a frame, both from zero to
one, the fewest frames of a note, the least loudness; and by how many semitones to transpose. -/
structure Thresholds (F : Type) [Scalar F] where
  onset : F
  frame : F
  leastFrames : Int
  leastLevel : F
  transpose : Int
  onset_range : Scalar.ofInt 0 ≤ onset ∧ onset ≤ Scalar.ofInt 1
  frame_range : Scalar.ofInt 0 ≤ frame ∧ frame ≤ Scalar.ofInt 1
  leastFrames_pos : 1 ≤ leastFrames

namespace Thresholds

variable {F : Type} [Scalar F]

/-- The onset threshold where no other is given. -/
def defaultOnset : F := 0.5

/-- The frame threshold where no other is given. -/
def defaultFrame : F := 0.3

/-- The fewest frames where no other count is given. -/
def defaultFrames : Int := 2

/-- The least loudness where no other is given. -/
def defaultLevel : F := 0.01

/-- The thresholds of the given sizes. -/
def make (onset frame : F) (leastFrames : Int) (leastLevel : F) (transpose : Int) :
    Except Fault (Thresholds F) :=
  if h : Scalar.ofInt 0 ≤ onset ∧ onset ≤ Scalar.ofInt 1 then
    if h' : Scalar.ofInt 0 ≤ frame ∧ frame ≤ Scalar.ofInt 1 then
      if h'' : 1 ≤ leastFrames then
        .ok ⟨onset, frame, leastFrames, leastLevel, transpose, h, h', h''⟩
      else .error (.noteFrames leastFrames)
    else .error (.threshold "frame_threshold" (Scalar.written frame))
  else .error (.threshold "onset_threshold" (Scalar.written onset))

/-- Looser thresholds, for recordings that are quiet or unclear. -/
def relaxed (t : Thresholds F) : Except Fault (Thresholds F) :=
  make (t.onset * 0.5) (t.frame * 0.5) 1 (t.leastLevel * 0.25) t.transpose

end Thresholds

end Lamella
