import Lamella.Midi.Basic

/-!
# MIDI files

In a file, time is counted in ticks of the beat, a tempo is a whole number of microseconds, and each
note is two events: one that begins it, and one of velocity zero that ends it. Writing a piece and
reading it back rounds its times to ticks; notes that share a pitch may also change their ends.

## Main definitions

- `Midi.File`: tempo and events.
- `Midi.File.ofPiece`: the file of a piece, whose numbers must fit their bytes.
- `Midi.File.parts`: the instruments that are read from a file.
-/

namespace Lamella.Midi

/-- The beginning of a note, or its end if the velocity is zero, at a tick. -/
structure Event where
  tick : Int
  pitch : Int
  velocity : Int
deriving DecidableEq, Inhabited

/-- A file: microseconds a beat, metres and the ticks from which on they hold, and the events of its
one instrument. -/
structure File where
  tempo : Int
  metres : List (Metre × Int)
  program : Int
  name : Text
  events : List Event
deriving DecidableEq, Inhabited

namespace File

/-- The ticks of a beat. -/
def resolution : Int := 220

/-- The greatest tempo that its three bytes hold. -/
def greatestTempo : Nat := 16777215

/-- The greatest numerator that its byte holds. -/
def greatestNumerator : Nat := 255

/-- The tick from which on a file counts as damaged. -/
def tickLimit : Int := 10000000

variable {R : Type} [Scalar R]

/-- The duration of a tick at a tempo. -/
def tickSpan (tempo : R) : Except Fault R :=
  Value.quotient 60.0 (tempo * Scalar.ofInt resolution)

/-- The tick nearest to a time. -/
def tickOf (span time : R) : Except Fault Int :=
  if Scalar.isZero time then .ok 0
  else do (Scalar.round (← Value.quotient time span)).mapError Fault.ofGap

/-- The microseconds of a beat. -/
def microseconds (span : R) : Except Fault Int := do
  let tempo ← Value.quotient 60.0 (span * Scalar.ofInt resolution)
  let micros ← (Scalar.trunc (← Value.quotient 6e7 tempo)).mapError Fault.ofGap
  if 0 ≤ micros ∧ micros ≤ greatestTempo then return micros
  else throw (.metaRange greatestTempo)

/-- A number that has to fit into seven bits. -/
def dataByte (n : Int) : Except Fault Int :=
  if 0 ≤ n ∧ n ≤ 127 then .ok n else .error .byteRange

/-- The two events of a note. -/
def eventsOf (span : R) (t : Tone R) : Except Fault (List Event) := do
  let start ← tickOf span t.start
  let pitch ← dataByte t.pitch
  let velocity ← dataByte t.velocity
  let stop ← tickOf span t.stop
  return [⟨start, pitch, velocity⟩, ⟨stop, pitch, 0⟩]

/-- The order of events: by tick, then by pitch, ends before beginnings. -/
def eventLe (a b : Event) : Bool :=
  if a.tick = b.tick then decide (a.pitch * 256 + a.velocity ≤ b.pitch * 256 + b.velocity)
  else decide (a.tick ≤ b.tick)

/-- The file of a piece. -/
def ofPiece (piece : Piece R) : Except Fault File := do
  let span ← tickSpan piece.tempo
  let tempo ← microseconds span
  let metres ← piece.metres.mapM fun (metre, time) => do
    let tick ← tickOf span time
    if (greatestNumerator : Int) < metre.numerator then throw (.metaRange greatestNumerator)
    return (metre, tick)
  let tones := piece.parts.flatMap Part.tones
  let events ← tones.mapM (eventsOf span)
  let first := piece.parts.head?
  return {
    tempo
    metres
    program := first.elim 0 Part.program
    name := first.elim "" Part.name
    events := events.flatten.mergeSort eventLe }

/-- The notes that are open: the tick at which each began, its pitch and its velocity. -/
abbrev Open := List Event

/-- What the end of a pitch at a tick does to the open notes: it closes those of the pitch that
began at another tick. Those that began at this very tick stay open if it closed some, and are lost
otherwise. -/
def close (pitch tick : Int) (opened : Open) : List Event × Open :=
  let closed := opened.filter fun e => e.pitch == pitch && e.tick != tick
  let kept := if closed.isEmpty then opened.filter (·.pitch != pitch)
    else opened.filter fun e => !(e.pitch == pitch && e.tick != tick)
  (closed, kept)

/-- The notes that events begin and end. -/
def tonesFrom (time : Int → R) (opened : Open) : List Event → Except Fault (List (Tone R))
  | [] => .ok []
  | e :: rest =>
    if e.velocity = 0 then do
      let (closed, kept) := close e.pitch e.tick opened
      let tones ← closed.mapM fun b => Tone.make b.velocity b.pitch (time b.tick) (time e.tick)
      return tones ++ (← tonesFrom time kept rest)
    else tonesFrom time (opened ++ [e]) rest

/-- The last tick of a file, one after the mark at the end of its track. -/
def lastTick (f : File) : Int := f.events.foldl (fun m e => max m e.tick) 0 + 2

/-- The instruments of a file. -/
def parts (f : File) : Except Fault (List (Part R)) := do
  if tickLimit < f.lastTick then throw (.tooManyTicks f.lastTick)
  let tempo : R ← Value.quotient 6e7 (Scalar.ofInt f.tempo)
  let span ← tickSpan tempo
  let tones ← tonesFrom (fun tick => span * Scalar.ofInt tick) [] f.events
  return if tones.isEmpty then [] else [⟨f.program, f.name, false, tones⟩]

end File

end Lamella.Midi
