import Lamella.Synth.Engine

/-!
# Room for samples

Envelopes and mixes are defined for tones of every length. A machine has no row for more samples
than it can count, and no room for nearly as many; the functions here refuse such lengths before any
sample is made.

## Main definitions

- `Room.check`: whether a row of a count of samples can be made.
- `Envelope.renderInRoom`, `Engine.keyInRoom`, `Engine.chordInRoom`, `Engine.songInRoom`.
-/

namespace Lamella

namespace Room

/-- Counts from here on cannot be counted by the bytes of their samples. -/
def countable : Int := Nat.pow 2 60

/-- Counts from here on have no room. -/
def spacious : Int := Nat.pow 2 32

/-- Refuses a count of samples that no row can have. -/
def check (count : Int) : Except Fault Unit :=
  if countable ≤ count then .error .tooManySamples
  else if spacious ≤ count then .error .noRoom
  else .ok ()

end Room

namespace Envelope

variable {R : Type} [Scalar R]

/-- The levels of a tone that is held for a time, if there is room for them. -/
@[specialize] def renderInRoom (e : Envelope R) (hold : R) (rate : Int) :
    Except Fault (List R) := do
  Room.check (← count hold rate)
  Room.check (← count e.release rate)
  e.render hold rate

end Envelope

namespace Engine

variable {R S : Type} [Analytic R] [Scalar S] [Sample R S]

/-- Refuses the duration of a tone that there is no room for, if the key can be struck. -/
def checkTone (e : Engine R) (key : Int) (duration : R) (cache : Cache S) : Except Fault Unit := do
  if cache.isSome && decide (e.layout.has key) then
    Room.check (← Envelope.count duration e.rate)

/-- The tone of a key, if there is room for it. -/
def keyInRoom (e : Engine R) (key : Int) (duration : R) (cache : Cache S) :
    Except Fault (Array S × Cache S) := do
  e.checkTone key duration cache
  e.key key duration cache

/-- Several keys struck together, if there is room for their tones. -/
def chordInRoom (e : Engine R) (ks : List Int) (duration : R) (cache : Cache S) :
    Except Fault (Array S) × Cache S :=
  match (ks.take 1).forM fun k => e.checkTone k duration cache with
  | .error fault => (.error fault, cache)
  | .ok () => e.chord ks duration cache

/-- Refuses a song that there is no room for. -/
def checkSong (e : Engine R) (song : Song R) : Except Fault Unit := do
  Room.check (← e.lengthOf song)
  song.notes.forM fun n => do
    if n.key < 0 then throw (.keyMissing n.key e.layout.name)
    if n.key < e.layout.size then
      Room.check (← Envelope.count n.duration e.rate)
      Room.check (← Envelope.count n.time e.rate)

/-- A whole song, if there is room for it. A song with another fault is refused for that one. -/
@[specialize] def songInRoom (e : Engine R) (song : Song R) (cache : Cache S) :
    Except Fault (Array S) × Cache S :=
  match cache.isSome, e.checkSong song with
  | true, .error .tooManySamples => (.error .tooManySamples, cache)
  | true, .error .noRoom => (.error .noRoom, cache)
  | _, _ => e.song song cache

end Engine

end Lamella
