import Lamella.Journal
import Lamella.Layout.Calibrated
import Lamella.Layout.Scale

/-!
# Generated layouts

A layout is derived from a tuning: the scale climbs from the root, which sits in the middle of the
row, and its steps are laid out alternately to the left and to the right of it, so that pitch rises
from the middle outwards.

## Main definitions

- `Layout.centerOut`: where each step of the climb lies.
- `Tuning`: root and scale.
- `Tuning.generate`: the layout of a tuning for a number of keys.
-/

namespace Lamella

/-- Where a step of the climb lies in a row of keys: the first in the middle, odd ones to the left
and even ones to the right of those before. -/
def Layout.position (count step : Nat) : Int :=
  let center : Int := (count / 2 : Nat)
  if step % 2 = 1 then center - ((step + 1) / 2 : Nat) else center + (step / 2 : Nat)

/-- Where the steps of the climb lie in a row of keys. -/
def Layout.centerOut (count : Int) : List Int :=
  (List.range count.toNat).map (position count.toNat)

/-- Root, scale, and whether listed instruments are taken from their lists. The octave of the root
may be left open where only a pitch class is wanted. -/
structure Tuning where
  scale : Scale
  rootClass : Int
  rootOctave : Option Int
  calibrated : Bool
deriving DecidableEq, Inhabited

namespace Tuning

/-- Reads a root note: its pitch class, and its octave or else the given one. A name that is not
understood counts as C. -/
def root (name : Text) (octave : Option Int) : Work (Int × Option Int) :=
  match Pitch.ofName name octave with
  | .ok p => return p
  | .error _ => do
    Work.warn (.unknownRoot name)
    return (0, octave)

/-- The tuning of the given names. -/
def make (rootName scale : Text) (octave : Option Int) (calibrated : Bool) : Work Tuning := do
  let scale ← Work.of (Scale.ofName scale)
  let (rootClass, rootOctave) ← root rootName octave
  return { scale, rootClass, rootOctave, calibrated }

/-- The pitch number of the root. -/
def rootNumber (t : Tuning) : Except Fault Int :=
  match t.rootOctave with
  | some octave => .ok (Pitch.number t.rootClass octave)
  | none => .error .wrongShape

/-- The name of a generated layout. -/
def layoutName (t : Tuning) (count : Int) : String :=
  toString count ++ "-key " ++ Pitch.className t.rootClass ++ " " ++ t.scale.name

/-- What is engraved for a degree; a note between two degrees is the lower one raised. -/
def engraved (degree lower markers : Int) : Text :=
  if degree = 0 then "#" ++ (Label.mk lower markers).text else (Label.mk degree markers).text

/-- The pitch number of a step of the climb from a root. -/
def pitchOf (scale : Scale) (root : Int) (step : Nat) : Int :=
  let steps := scale.steps
  root + (steps.getD (step % steps.length) (0, 0)).1 + 12 * (step / steps.length : Nat)

variable {F : Type} [Analytic F]

/-- The key of a step of the climb. -/
def key (t : Tuning) (count step : Nat) : Except Fault (Key F) := do
  let steps := t.scale.steps
  let place := step % steps.length
  let markers : Int := (step / steps.length : Nat)
  let degree := (steps.getD place (0, 0)).2
  let lower := (steps.getD (place - 1) (0, 0)).2
  let pitch := pitchOf t.scale (← t.rootNumber) step
  return {
    index := Layout.position count step
    frequency := ← Pitch.frequencyOfNumber pitch
    degree, markers
    displayDegree := engraved degree lower markers
    displayNote := Pitch.className pitch ++ Label.glyphs markers
    -- A pitch that has a frequency has an octave of few digits, which can be written
    noteName := Pitch.name pitch
    octave := Pitch.octave pitch }

/-- The layout of a tuning for a number of keys. -/
def generate (t : Tuning) (count : Int) : Except Fault (Layout F) :=
  if count < 1 then .error (.tineCount count)
  else if t.calibrated ∧ (Layout.rows? count).isSome then Layout.ofTable count
  else do
    let keys ← (List.range count.toNat).mapM (t.key count.toNat)
    Layout.make keys (t.layoutName count) false

end Tuning

/-- The layout of the given names for a number of keys. -/
def Layout.generate {F : Type} [Analytic F] (count : Int) (rootName scale : Text)
    (octave : Option Int) (calibrated : Bool) : Work (Layout F) := do
  let tuning ← Tuning.make rootName scale octave calibrated
  Work.of (tuning.generate count)

end Lamella
