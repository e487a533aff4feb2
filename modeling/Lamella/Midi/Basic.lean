import Lamella.Journal
import Lamella.Layout.Basic
import Lamella.Pitch
import Lamella.Song.Basic
import Lamella.Transcript.Heard

/-!
# MIDI

A MIDI piece has instruments, which play notes of whole pitch numbers. Songs are exported as pieces
of one instrument, and the notes of a piece can be heard like those of a recording.

## Main definitions

- `Midi.Piece`: a piece in memory.
- `Midi.ofSong`: the piece of a song.
- `Midi.heard`: the notes of a piece, without drums unless they are wanted.
-/

namespace Lamella.Midi

/-- A note of an instrument. -/
structure Tone (R : Type) where
  velocity : Int
  pitch : Int
  start : R
  stop : R

/-- An instrument and its notes. -/
structure Part (R : Type) where
  program : Int
  name : Text
  isDrum : Bool
  tones : List (Tone R)

/-- A piece: its tempo, its metre and the time from which on it holds, and its instruments. -/
structure Piece (R : Type) where
  tempo : R
  metres : List (Metre × R)
  parts : List (Part R)

/-- The program number of the instrument that songs are exported for. -/
def songProgram : Int := 108

/-- The name of the instrument that songs are exported for. -/
def songInstrument : String := "Kalimba"

/-- The velocity of exported notes. -/
def songVelocity : Int := 90

variable {F R : Type} [Analytic F] [Scalar R]

/-- A note of an instrument, which must not end before it begins. -/
def Tone.make (velocity pitch : Int) (start stop : R) : Except Fault (Tone R) :=
  if stop < start then .error .noteEnd else .ok ⟨velocity, pitch, start, stop⟩

/-- The whole pitch number nearest to a key. -/
def keyPitch (k : Key F) : Except Fault Int :=
  (Scalar.round (Pitch.ofFrequency k.frequency)).mapError Fault.ofGap

/-- The exported form of a note; nothing for keys beyond the end of the layout. -/
def toneOf (layout : Layout F) (velocity : Int) (n : Note R) : Except Fault (Option (Tone R)) :=
  if (layout.size : Int) ≤ n.key then .ok none
  else do
    let pitch ← keyPitch (← layout.get n.key)
    return some (← Tone.make velocity pitch n.time n.finish)

/-- The piece of a song, with a warning if notes are left out of it. -/
def ofSong (layout : Layout F) (name : Text) (program velocity : Int) (song : Song R) :
    Work (Piece R) := do
  let tones ← Work.of (song.notes.mapM (toneOf layout velocity))
  let dropped := tones.countP Option.isNone
  if dropped ≠ 0 then Work.warn (.missingKeys dropped layout.name)
  return {
    tempo := song.tempo.scalar
    metres := [(song.metre, Scalar.ofInt 0)]
    parts := [⟨program, name, false, tones.filterMap id⟩] }

/-- A note of an instrument as a heard note; nothing for one that does not last. -/
def heardTone (t : Tone R) : Except Fault (Option (HeardNote F R)) :=
  if t.stop ≤ t.start then .ok none
  else return some (← HeardNote.make (← Value.scalarOfInt t.pitch) t.start t.stop t.velocity)

/-- The notes of instruments in the order of their onsets, without drums unless they are wanted. -/
def heard (parts : List (Part R)) (drums : Bool) : Except Fault (List (HeardNote F R)) := do
  let tones := (parts.filter fun p => drums || !p.isDrum).flatMap Part.tones
  return HeardNote.inOrder ((← tones.mapM heardTone).filterMap id)

end Lamella.Midi
