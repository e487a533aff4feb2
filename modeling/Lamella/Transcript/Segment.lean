import Lamella.Recording
import Lamella.Transcript.Heard
import Lamella.Transcript.Thresholds

/-!
# Segments

The contour of a recording's pitch is cut at the onsets of notes. A segment is a note if it lasts
long enough, is loud enough and has enough frames whose pitch is certain; its pitch is the median
of those.

## Main definitions

- `Frame`, `Contour`: the pitch of a recording over time, its onsets, its loudness.
- `Contour.boundaries`: where the segments begin and end.
- `Contour.notes`: the notes.
-/

namespace Lamella

/-- The pitch at one time, and how certain it is. -/
structure Frame (F R : Type) where
  time : R
  frequency : F
  confidence : F

/-- What is known of a recording: its frames, onsets, rate, count of samples and of samples from
frame to frame, and the loudness between any two samples. -/
structure Contour (F R : Type) where
  frames : List (Frame F R)
  onsets : List R
  size : Nat
  rate : Int
  hop : Int
  level : Int → Int → F

namespace Contour

variable {F R : Type} [Analytic F] [Scalar R]

/-- Scalars without those that equal the one before them. -/
def distinct : List R → List R
  | [] => []
  | [a] => [a]
  | a :: b :: rest =>
    if Scalar.same a b then distinct (a :: rest) else a :: distinct (b :: rest)
termination_by xs => xs.length

/-- Scalars in ascending order, each once; those that are no numbers come last, as one. -/
def ascending (times : List R) : List R :=
  let numbers := times.filter fun t => Scalar.same t t
  distinct (numbers.mergeSort fun a b => decide (a ≤ b)) ++
    (times.filter fun t => !Scalar.same t t).take 1

/-- How long the recording lasts. -/
def duration (c : Contour F R) : Except Fault R :=
  Value.quotientOfInts c.size c.rate

/-- The least duration of a note: that of the least count of frames. -/
def leastDuration (c : Contour F R) (t : Thresholds F) : Except Fault R :=
  Value.quotientOfInts (t.leastFrames * c.hop) c.rate

/-- Where the segments begin and end: at the start, at each onset and at the end. -/
def boundaries (c : Contour F R) : Except Fault (List R) := do
  return ascending (Scalar.ofInt 0 :: c.onsets ++ [← c.duration])

/-- The loudness of a segment. -/
def segmentLevel (c : Contour F R) (start stop : R) : Except Fault F := do
  let rate ← Value.scalarOfInt c.rate
  let first ← (Scalar.trunc (start * rate)).mapError Fault.ofGap
  let last ← (Scalar.trunc (stop * rate)).mapError Fault.ofGap
  return c.level first last

/-- The frequencies in a segment that are certain. -/
def certain (c : Contour F R) (t : Thresholds F) (start stop : R) : List F :=
  (c.frames.filter fun f =>
    decide (start ≤ f.time) && decide (f.time < stop) && decide (t.frame ≤ f.confidence) &&
      decide (Scalar.ofInt 0 < f.frequency)).map Frame.frequency

/-- The middle one of numbers in order, or the mean of the two in the middle. -/
def median (xs : List F) : F :=
  let sorted := xs.mergeSort fun a b => decide (a ≤ b)
  let middle := sorted.length / 2
  let at_ (i : Nat) : F := sorted.getD i (Scalar.ofInt 0)
  if sorted.length % 2 = 1 then at_ middle
  else (at_ (middle - 1) + at_ middle) / Scalar.ofInt 2

/-- A loudness as a velocity from 20 to 127. -/
def velocity (level : F) : Except Fault Int :=
  let scaled := level * Scalar.ofInt 200
  let bounded :=
    if scaled < Scalar.ofInt 20 then Scalar.ofInt 20
    else if Scalar.ofInt 127 < scaled then Scalar.ofInt 127
    else scaled
  (Scalar.trunc bounded).mapError Fault.ofGap

/-- The note of a segment, if it is one and lasts at least so long. -/
def noteBetween (c : Contour F R) (t : Thresholds F) (least start stop : R) :
    Except Fault (Option (HeardNote F R)) := do
  if stop - start < least then return none
  let level ← c.segmentLevel start stop
  if level < t.leastLevel then return none
  let frequencies := c.certain t start stop
  if (frequencies.length : Int) < t.leastFrames then return none
  let pitch := Pitch.ofFrequency (median frequencies)
  return some (← HeardNote.make pitch start stop (← velocity level))

/-- The notes of a recording: those of the segments between boundaries. -/
def notes (c : Contour F R) (t : Thresholds F) : Except Fault (List (HeardNote F R)) := do
  let least ← c.leastDuration t
  let bounds ← c.boundaries
  let found ← (bounds.zip bounds.tail).mapM fun (start, stop) => c.noteBetween t least start stop
  return found.filterMap id

end Contour

end Lamella
