import Lamella.Value.Convert

/-!
# Envelopes

The loudness of a tone over time: it rises in the attack, falls to the sustain level in the decay,
stays there as long as the tone is held, and dies away in the release.
-/

namespace Lamella

/-- An envelope; the times are in seconds, and the sustain is a level from zero to one. -/
structure Envelope (R : Type) where
  attack : R
  decay : R
  sustain : R
  release : R

namespace Envelope

variable {R : Type} [Scalar R]

/-- The number of samples in a time. -/
def count (time : R) (rate : Int) : Except Fault Int := do
  (Scalar.round (time * (← Value.scalarOfInt rate))).mapError Fault.ofGap

/-- The level of a held tone at a time. -/
@[inline] def levelAt (e : Envelope R) (t : R) : R :=
  if t < e.attack then t / e.attack
  else if t < e.attack + e.decay then 1.0 - (1.0 - e.sustain) * (t - e.attack) / e.decay
  else e.sustain

/-- The time of a sample. -/
@[inline] def timeOf (rate : Int) (i : Nat) : R := Scalar.ofNat i / Scalar.ofInt rate

/-- The levels of a held tone, sample by sample. -/
@[specialize] def held (e : Envelope R) (samples : Nat) (rate : Int) : List R :=
  (List.range samples).map fun i => e.levelAt (timeOf rate i)

/-- The levels after a tone was held, which fall evenly from a level to none. -/
@[specialize] def released (level : R) (samples : Nat) : List R :=
  (List.range samples).map fun i =>
    level * (1.0 - Scalar.ofNat i / Scalar.ofNat (max samples 1))

/-- The levels of a tone that is held for a time, which is at least one sample, with its release. -/
@[specialize] def render (e : Envelope R) (hold : R) (rate : Int) : Except Fault (List R) := do
  let samples := (max 1 (← count hold rate)).toNat
  let releaseSamples := (← count e.release rate).toNat
  let last := e.levelAt (timeOf rate (samples - 1))
  return e.held samples rate ++ released last releaseSamples

end Envelope

end Lamella
