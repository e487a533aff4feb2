import Lamella.Grid
import Lamella.Layout.Basic
import Lamella.Order
import Lamella.Transcript.Heard

/-!
# Heard notes on keys

Each heard note is put onto the key whose pitch is nearest, if one is near enough, and onto the step
nearest to its onset. A key sounds at most once in a step, and every note lasts one step, like a
note that is written as tablature.

## Main definitions

- `KeyMap.keyForPitch`: the key of a pitch.
- `KeyMap.map`: heard notes as notes of a song.
-/

namespace Lamella

/-- The keys and the grid that heard notes are put onto. -/
structure KeyMap (F R : Type) [Scalar R] where
  layout : Layout F
  grid : Grid R
  transpose : Int
  capture : F

namespace KeyMap

variable {F R : Type} [Analytic F] [Scalar R]

/-- The widest distance of a pitch from its key where no other is given, in semitones. -/
def defaultCapture : F := 0.7

/-- The pitches of the keys, in ascending order, with their indices. -/
def keyPitches (m : KeyMap F R) : List (F × Int) :=
  m.layout.byPitch.map fun k => (Pitch.ofFrequency k.frequency, k.index)

/-- The better of the best key so far, with its distance, and the next one: the next replaces it if
it is strictly nearer. -/
def nearer (target : F) (best : Option (F × Int)) (next : F × Int) : Option (F × Int) :=
  let distance := Scalar.abs (next.1 - target)
  match best with
  | none => some (distance, next.2)
  | some b => some (if distance < b.1 then (distance, next.2) else b)

/-- The index of the key nearest to a pitch, the lowest of equally near ones, if it is near
enough. -/
def keyForPitch (m : KeyMap F R) (pitch : F) : Except Fault (Option Int) := do
  let target := pitch + (← Value.scalarOfInt m.transpose)
  let best := m.keyPitches.foldl (nearer target) none
  return (best.filter fun b => !decide (m.capture < b.1)).map (·.2)

/-- A heard note on its key, not yet on the grid; nothing if no key is near enough. -/
def place (m : KeyMap F R) (n : HeardNote F R) : Except Fault (Option (Note R)) := do
  match ← m.keyForPitch n.pitch with
  | none => return none
  | some key => return some (← Note.make key n.onset n.duration .null)

/-- Keeps of notes on the grid the first on each key and step, each lasting one step. -/
def firstOnSteps (grid : Grid R) (seen : List (Int × Int)) :
    List (Note R) → Except Fault (List (Note R))
  | [] => .ok []
  | n :: rest => do
    let slot := (n.key, ← grid.stepIndex n.time)
    if seen.contains slot then firstOnSteps grid seen rest
    else
      let first ← Note.make n.key n.time grid.step .null
      return first :: (← firstOnSteps grid (slot :: seen) rest)

/-- Heard notes as notes on keys and steps, in the order of time and key. -/
def map (m : KeyMap F R) (notes : List (HeardNote F R)) : Except Fault (List (Note R)) := do
  let placed := (← notes.mapM m.place).filterMap id
  let kept ← firstOnSteps m.grid [] (← m.grid.quantize placed)
  return Order.sortBy (fun a b => Order.lexLe (a.time, a.key) (b.time, b.key)) kept

end KeyMap

end Lamella
