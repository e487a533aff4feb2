import Lamella.Layout.Basic
import Lamella.Pitch

/-!
# Matching

A heard pitch is matched with the key nearest to it, as long as it lies within a tolerance. What is
heard live first passes a gate: estimates that are unclear, quiet, implausible for the instrument or
far outside the range of its keys are refused.

## Main definitions

- `closestKey`: the key nearest to a frequency.
- `HeardPitch`, `Matcher`: live estimates, and what is made of them.
-/

namespace Lamella

/-- The key nearest to a frequency, and how many cents the frequency lies above it. -/
structure Match (F : Type) where
  key : Key F
  cents : F

/-- A live estimate of a pitch. A producer that measures no volume gives none. -/
structure HeardPitch (F : Type) where
  frequency : F
  clarity : F
  volume : Option F
  timestamp : F

section

variable {F : Type} [Analytic F]

/-- The tolerance assumed where none is given, in cents. -/
def defaultTolerance : F := 50.0

/-- What is added to a tolerance for the rounding of its boundary. -/
def toleranceSlack : F := 1e-9

/-- How far outside the range of its keys an instrument is heard, in hertz. -/
def rangeMargin : F := 100.0

/-- Whether a frequency lies in the range of a layout, widened by a margin. -/
def Layout.reaches (l : Layout F) (f margin : F) : Bool :=
  decide (l.range.1 - margin ≤ f) && decide (f ≤ l.range.2 + margin)

/-- The better of the best match so far and the next key: the key replaces it if it is strictly
nearer. -/
def nearer (f : F) (best : Option (Match F)) (k : Key F) : Except Fault (Option (Match F)) := do
  let cents ← Pitch.cents f k.frequency
  match best with
  | none => return some ⟨k, cents⟩
  | some m => return some (if Scalar.abs cents < Scalar.abs m.cents then ⟨k, cents⟩ else m)

/-- The key nearest to a frequency, the first of equally near ones, if it is within a tolerance. -/
def closestKey (f : F) (l : Layout F) (tolerance : F) : Except Fault (Option (Match F)) :=
  if f ≤ Scalar.ofInt 0 then .ok none
  else do
    let best ← l.keys.foldlM (nearer f) none
    return best.filter fun m => !decide (tolerance + toleranceSlack < Scalar.abs m.cents)

/-- What is made of live estimates: the least clarity and volume, and the tolerance. -/
structure Matcher (F : Type) where
  layout : Layout F
  tolerance : F
  leastClarity : F
  leastVolume : F

namespace Matcher

/-- The clarity wanted where no other is given. -/
def defaultClarity : F := 0.85

/-- The volume wanted where no other is given. -/
def defaultVolume : F := 0.003

/-- The lowest plausible frequency, in hertz. -/
def lowestPlausible : F := 50.0

/-- The highest plausible frequency, in hertz. -/
def highestPlausible : F := 3200.0

/-- Whether an estimate passes the gate. -/
def accepts (m : Matcher F) (p : HeardPitch F) : Bool :=
  !decide (p.clarity < m.leastClarity) &&
    !(p.volume.any fun v => decide (v < m.leastVolume)) &&
    decide (lowestPlausible ≤ p.frequency) && decide (p.frequency ≤ highestPlausible) &&
    m.layout.reaches p.frequency rangeMargin

/-- The key nearest to a frequency, whatever the gate says of it. -/
def matchFrequency (m : Matcher F) (f : F) : Except Fault (Option (Match F)) :=
  closestKey f m.layout m.tolerance

/-- The key nearest to an estimate that passes the gate. -/
def matchPitch (m : Matcher F) (p : HeardPitch F) : Except Fault (Option (Match F)) :=
  if m.accepts p then m.matchFrequency p.frequency else .ok none

end Matcher

end

end Lamella
