import Lamella.Layout.Basic
import Lamella.Recording
import Lamella.Song.Basic
import Lamella.Synth.Envelope

/-!
# The engine

Keys are made audible by frequency modulation: a modulator of three times the frequency bends the
phase of a carrier, and each has an envelope of its own. A tone that was made once for a key and a
duration is kept, durations counting as equal that agree to four places.

## Main definitions

- `Engine.tone`: the samples of a tone.
- `Engine`: layout, rate and gain; `Engine.Cache`: the tones that were made.
- `Engine.key`, `Engine.chord`, `Engine.song`: what is heard of a key, of several keys at once, and
  of a song.
-/

namespace Lamella

/-- An engine: its keys, the samples it makes a second, and the peak of a single tone. -/
structure Engine (R : Type) where
  layout : Layout R
  rate : Int
  gain : R

namespace Engine

/-- The tones that were made, by key and duration in ten-thousandths of a second; there are none
before the engine is made ready. -/
abbrev Cache (S : Type) := Option (List ((Int × Int) × Array S))

section Tone

variable {R S : Type} [Analytic R] [Scalar S] [Sample R S]

/-- The gain where no other is given. -/
def defaultGain : R := 0.3

/-- The duration of a tone where no other is given, in seconds. -/
def defaultDuration : R := 0.7

/-- The envelope of the carrier. -/
def amplitude : Envelope R := ⟨0.01, 0.2, 0.3, 0.8⟩

/-- The envelope of the modulator. -/
def modulation : Envelope R := ⟨0.1, 0.3, 0.2, 0.4⟩

/-- How far the modulator bends the phase. -/
def modulationIndex : R := 2.0

/-- The frequency of the modulator as a multiple of the carrier's. -/
def harmonicity : R := 3.0

/-- One sample of a tone, at a time and at levels of the two envelopes. -/
def sampleAt (e : Engine R) (frequency t amp mod : R) : R :=
  let turn := Scalar.ofInt 2 * Analytic.pi * frequency
  let modulator := modulationIndex * mod * Analytic.sin (turn * harmonicity * t)
  let carrier := Analytic.sin (turn * t + modulator)
  e.gain * amp * carrier

/-- Levels up to a count, with silence after their end. -/
def padded (count : Nat) (levels : List R) : List R :=
  levels ++ List.replicate (count - levels.length) (Scalar.ofInt 0)

/-- The samples of a tone: it is held for a duration and then released. -/
def tone (e : Engine R) (frequency duration : R) : Except Fault (Array S) := do
  let amp ← amplitude.render duration e.rate
  let mod ← modulation.render duration e.rate
  let count := max amp.length mod.length
  let levels := List.zipWith Prod.mk (padded count amp) (padded count mod)
  return (levels.zipIdx.map fun ((a, m), i) =>
    Sample.narrow (e.sampleAt frequency (Envelope.timeOf e.rate i) a m)).toArray

end Tone

section Mix

variable {S : Type} [Scalar S]

/-- Silence. -/
def silence (count : Nat) : Array S := Array.replicate count (Scalar.ofInt 0)

/-- A mix that reaches at least up to a count. -/
def grown (out : Array S) (count : Nat) : Array S := out ++ silence (count - out.size)

/-- Adds samples to a mix, from a place on. -/
@[specialize] def addFrom (out : Array S) (start : Nat) (voice : Array S) : Array S :=
  voice.size.fold (fun i _ out => out.modify (start + i) (· + voice[i]))
    (grown out (start + voice.size))

/-- A mix that is not louder than one. -/
@[specialize] def limited (out : Array S) : Array S :=
  let peak := Recording.peak out
  if Scalar.ofInt 1 < peak then out.map (· / peak) else out

end Mix

section Keys

variable {R S : Type} [Analytic R] [Scalar S] [Sample R S]

/-- The place of a key and a duration among the tones that were made. -/
def slot? (key : Int) (duration : R) : Option (Int × Int) :=
  match Scalar.reading duration with
  | .finite q => some (key, roundHalfEven (q * 10000))
  | _ => none

/-- The tone of a key, made or taken from those made before. -/
def key (e : Engine R) (key : Int) (duration : R) (cache : Cache S) :
    Except Fault (Array S × Cache S) :=
  match cache with
  | none => .error .notReady
  | some tones =>
    if 0 ≤ key ∧ key < e.layout.size then do
      let slot := slot? key duration
      match tones.find? fun entry => some entry.1 == slot with
      | some (_, samples) => return (samples, cache)
      | none =>
        let samples ← e.tone (← e.layout.get key).frequency duration
        return (samples, slot.elim cache fun slot => some ((slot, samples) :: tones))
    else .error (.keyMissing key e.layout.name)

/-- The tones of several keys, one after the other; a fault keeps the tones made before it. -/
def keys (e : Engine R) (duration : R) :
    List Int → Cache S → Except Fault (List (Array S)) × Cache S
  | [], cache => (.ok [], cache)
  | k :: rest, cache =>
    match e.key k duration cache with
    | .error fault => (.error fault, cache)
    | .ok (samples, cache) =>
      match e.keys duration rest cache with
      | (.error fault, cache) => (.error fault, cache)
      | (.ok voices, cache) => (.ok (samples :: voices), cache)

/-- Several keys struck together. -/
def chord (e : Engine R) (ks : List Int) (duration : R) (cache : Cache S) :
    Except Fault (Array S) × Cache S :=
  match e.keys duration ks cache with
  | (.error fault, cache) => (.error fault, cache)
  | (.ok voices, cache) => (.ok (voices.foldl (fun out v => addFrom out 0 v) #[]), cache)

/-- The length that a song asks for, in samples; whole seconds have whole counts of samples. -/
def lengthOf (e : Engine R) (song : Song R) : Except Fault Int := do
  let samples ← match song.duration with
    | .int n => .ok (n * e.rate)
    | .bool b => .ok (if b then e.rate else 0)
    | v => do
      let seconds ← match v with
        | .num x => .ok (if Scalar.isZero x then Scalar.ofInt 0 else x)
        | v => if v.isEmptyish then .ok (Scalar.ofInt 0) else .error .wrongShape
      (Scalar.ceil (seconds * (← Value.scalarOfInt e.rate))).mapError Fault.ofGap
  if samples < 0 then throw .negativeLength else return samples

/-- A mix with a tone from a place on; a place before the beginning leaves it as it is. -/
@[specialize] def placed (out : Array S) (start : Int) (voice : Array S) : Array S :=
  if start < 0 then out else addFrom out start.toNat voice

/-- Adds the notes of a song to a mix, each at its time; those on keys beyond the end of the layout
are left out. -/
@[specialize] def addNotes (e : Engine R) :
    List (Note R) → Array S → Cache S → Except Fault (Array S) × Cache S
  | [], out, cache => (.ok out, cache)
  | n :: rest, out, cache =>
    if (e.layout.size : Int) ≤ n.key then e.addNotes rest out cache
    else
      match e.key n.key n.duration cache with
      | .error fault => (.error fault, cache)
      | .ok (voice, cache) =>
        match Envelope.count n.time e.rate with
        | .error fault => (.error fault, cache)
        | .ok start => e.addNotes rest (placed out start voice) cache

/-- A whole song, made quieter if tones that overlap would be louder than one. -/
@[specialize] def song (e : Engine R) (song : Song R) (cache : Cache S) :
    Except Fault (Array S) × Cache S :=
  if cache.isNone then (.error .notReady, cache)
  else
    match e.lengthOf song with
    | .error fault => (.error fault, cache)
    | .ok length =>
      match e.addNotes song.notes (silence length.toNat) cache with
      | (.error fault, cache) => (.error fault, cache)
      | (.ok out, cache) => (.ok (limited out), cache)

end Keys

end Engine

end Lamella
