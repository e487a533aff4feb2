import Lamella.Layout.Preset
import Lamella.Matching
import Lamella.Score.Tier

/-!
# Settings

What a player can set: how fast notes come, how strictly time and pitch are judged, how late the
sound is heard, and which instrument is played.
-/

namespace Lamella

/-- A player's settings. Times are in milliseconds, and the speed goes from one to ten. -/
structure Settings (F R : Type) [Scalar F] [Scalar R] where
  speed : R
  hitWindow : R
  tolerance : F
  latency : R
  preset : Text
  root : Option Text
  clarity : F
  volume : F
  speed_range : Scalar.ofInt 1 ≤ speed ∧ speed ≤ Scalar.ofInt 10
  hitWindow_pos : ¬ hitWindow ≤ Scalar.ofInt 0
  tolerance_pos : ¬ tolerance ≤ Scalar.ofInt 0

namespace Settings

variable {F R : Type} [Analytic F] [Scalar R]

/-- What settings are made of. -/
structure Draft (F R : Type) [Analytic F] [Scalar R] where
  speed : Value R := .int 5
  hitWindow : R := Windows.defaultHit
  tolerance : F := 15.0
  latency : R := 0.0
  preset : Text := Preset.usual
  root : Option Text := some ↑"C"
  clarity : F := Matcher.defaultClarity
  volume : F := Matcher.defaultVolume

/-- A value as a speed: a number. An integer outside the range of speeds counts as the nearest one
outside it, so that no integer is too large to be compared. -/
def speedOf (v : Value R) : Except Fault R :=
  match v with
  | .str _ => .error .wrongShape
  | .int n => .ok (Scalar.ofInt (max 0 (min n 11)))
  | v => v.toScalar

/-- The settings of the given parts. -/
def make (d : Draft F R) : Except Fault (Settings F R) := do
  let speed ← speedOf d.speed
  if h : Scalar.ofInt 1 ≤ speed ∧ speed ≤ Scalar.ofInt 10 then
    if h' : d.hitWindow ≤ Scalar.ofInt 0 then throw (.hitWindow (Scalar.written d.hitWindow))
    else if h'' : d.tolerance ≤ Scalar.ofInt 0 then
      throw (.pitchTolerance (Scalar.written d.tolerance))
    else
      return ⟨speed, d.hitWindow, d.tolerance, d.latency, d.preset, d.root, d.clarity, d.volume,
        h, h', h''⟩
  else throw (.noteSpeed d.speed.text)

/-- How many seconds ahead notes are shown: four at the lowest speed, one at the highest. -/
def lookahead (s : Settings F R) : R :=
  Scalar.ofInt 4 - (s.speed - Scalar.ofInt 1) * (Scalar.ofInt 3 / Scalar.ofInt 9)

/-- The hit window in seconds. -/
def hitSeconds (s : Settings F R) : R := s.hitWindow / 1000.0

/-- The latency in seconds. -/
def latencySeconds (s : Settings F R) : R := s.latency / 1000.0

/-- The layout of the instrument that is set. -/
def layout (s : Settings F R) : Work (Layout F) := Preset.layout s.preset s.root "major"

end Settings

end Lamella
