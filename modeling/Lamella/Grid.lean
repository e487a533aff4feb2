import Lamella.Metre
import Lamella.Note

/-!
# The grid

Tablature is written on a grid of steps. A step is the note value of the metre's denominator, with
the tempo counted in quarter notes: a step of 4/4 is one beat, a step of 6/8 is half a beat. Music
that is not written on steps may divide each step into cells.

## Main definitions

- `Grid`: tempo, metre and cells a step.
- `Grid.stepTime`, `Grid.stepIndex`: the time of a step, and the step nearest to a time.
- `Grid.snap`: the cell nearest to a time.
- `Grid.quantize`: notes moved onto cells.
-/

namespace Lamella

/-- The tempo assumed where none is given. -/
def defaultTempo {R : Type} [Scalar R] : R := 100.0

/-- A tempo in quarter notes a minute, a metre, and how many cells a step has. -/
structure Grid (R : Type) [Scalar R] where
  tempo : R
  metre : Metre
  cells : Int
  tempo_pos : ¬ tempo ≤ Scalar.ofInt 0
  cells_pos : 1 ≤ cells

namespace Grid

variable {R : Type} [Scalar R]

/-- The grid of a tempo, a metre and a number of cells. -/
def make (tempo : R) (metre : Metre.Source R) (cells : Int := 1) : Except Fault (Grid R) :=
  if h : tempo ≤ Scalar.ofInt 0 then .error (.tempo (Scalar.written tempo))
  else if h' : 1 ≤ cells then do return ⟨tempo, ← metre.resolve, cells, h, h'⟩
  else .error (.subdivisions cells)

/-- The duration of a quarter note. -/
def beat (g : Grid R) : R := 60.0 / g.tempo

/-- The duration of a step. -/
def step (g : Grid R) : R := g.beat * Scalar.ofInt 4 / Scalar.ofInt g.metre.denominator

/-- The duration of a cell, unless a step has more cells than a scalar can say. -/
def cell (g : Grid R) : Except Fault R := do
  return g.step / (← Value.scalarOfInt g.cells)

/-- The duration of a measure, unless it has more steps than a scalar can say. -/
def measure (g : Grid R) : Except Fault R := do
  return g.step * (← Value.scalarOfInt g.metre.numerator)

/-- When a step begins. -/
def stepTime (g : Grid R) (index : Int) : R := Scalar.ofInt index * g.step

/-- When a step begins, unless its index is beyond the scalars. -/
def stepTime? (g : Grid R) (index : Int) : Except Fault R := do
  return (← Value.scalarOfInt index) * g.step

/-- How many spans fit best into a time. -/
def nearest (time span : R) : Except Fault Int := do
  (Scalar.round (← Value.quotient time span)).mapError Fault.ofGap

/-- The step nearest to a time. -/
def stepIndex (g : Grid R) (time : R) : Except Fault Int := nearest time g.step

/-- The time of the cell nearest to a time. -/
def snap (g : Grid R) (time : R) : Except Fault R := do
  let cell ← g.cell
  return (← Value.scalarOfInt (← nearest time cell)) * cell

/-- Whether a time lies within a tolerance of a cell. -/
def isOnGrid (g : Grid R) (time tolerance : R) : Except Fault Bool := do
  return decide (Scalar.abs ((← g.snap time) - time) ≤ tolerance)

/-- A note moved onto the cells: its time to the nearest one, and its duration to the nearest count
of cells, which is at least one. -/
def quantizeNote (g : Grid R) (n : Note R) : Except Fault (Note R) := do
  let time := Scalar.larger (Scalar.ofInt 0) (← g.snap n.time)
  let duration ← g.snap n.duration
  let cell ← g.cell
  Note.make n.key time (if duration < cell then cell else duration) n.id

/-- Notes moved onto the cells. -/
def quantize (g : Grid R) (notes : List (Note R)) : Except Fault (List (Note R)) :=
  notes.mapM g.quantizeNote

end Grid

end Lamella
