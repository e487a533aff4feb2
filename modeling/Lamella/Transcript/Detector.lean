import Lamella.Matching
import Lamella.Transcript.Segment

/-!
# Detectors

A detector estimates the pitch of sound: frame by frame over a recording, with the onsets it hears,
or once for a block of a live signal. What it finds in a recording becomes a contour and then notes;
the blocks of a recording become a stream of live estimates. How the estimates are made is not fixed
here. The deaf detector makes none.

## Main definitions

- `Detector`: the estimates; `Detector.deaf`.
- `Detector.listen`: the notes of a recording. A silent one has none.
- `Detector.stream`: the live estimates of a recording.
- `PitchMethod`: the methods of estimation by name.
-/

namespace Lamella

/-- The methods that a pitch can be estimated with: with a probability for each frame, or
plainly. -/
inductive PitchMethod where
  | probable
  | plain
deriving DecidableEq, Inhabited

/-- The method of a name. -/
def PitchMethod.ofName (name : Text) : Except Fault PitchMethod :=
  if name = "pyin" then .ok probable
  else if name = "yin" then .ok plain
  else .error (.pitchMethod name)

/-- What is estimated of sound: frames, onsets at a threshold, and the pitch of a block of samples
at a time. -/
structure Detector (F R S : Type) where
  hop : Int
  frames : Recording S → List (Frame F R)
  onsets : Recording S → F → List R
  pitch : F → List S → Option (HeardPitch F)

namespace Detector

/-- The samples from frame to frame where no other count is given. -/
def usualHop : Int := 512

/-- The samples of a block where no other count is given. -/
def usualBlock : Int := 4096

/-- The detector that hears nothing. -/
def deaf {F R S : Type} : Detector F R S :=
  ⟨usualHop, fun _ => [], fun _ _ => [], fun _ _ => none⟩

variable {F R S : Type} [Analytic F] [Scalar R] [Scalar S] [Sample F S]

/-- What a detector finds in a recording. -/
def contour (d : Detector F R S) (r : Recording S) (t : Thresholds F) : Contour F R where
  frames := d.frames r
  onsets := d.onsets r t.onset
  size := r.samples.size
  rate := r.rate
  hop := d.hop
  level := r.level

/-- The notes of a recording. -/
def listen (d : Detector F R S) (r : Recording S) (t : Thresholds F) :
    Except Fault (List (HeardNote F R)) :=
  if r.isSilent then .ok [] else (d.contour r t).notes t

/-- The live estimates of a recording, block after block; samples beyond the last whole block are
not heard. -/
def stream (d : Detector F R S) (r : Recording S) (block : Int) :
    Except Fault (List (HeardPitch F)) :=
  if block = 0 then .error .blockSize
  else do
    let size := block.toNat
    let found ← (List.range (r.samples.size / size)).mapM fun i => do
      let time ← Value.quotientOfInts (i * size : Nat) r.rate
      return d.pitch time (r.slice (i * size) ((i + 1) * size))
    return found.filterMap id

end Detector

end Lamella
