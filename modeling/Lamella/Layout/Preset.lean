import Lamella.Layout.Generate

/-!
# Presets

Instruments as they are sold: how many keys they have, how they are tuned when new, and whether
their keys are listed.
-/

namespace Lamella

/-- An instrument as it is sold. -/
structure Preset where
  id : String
  name : String
  keys : Int
  root : String := "C4"
  calibrated : Bool := false
  description : String := ""
deriving DecidableEq, Inhabited

namespace Preset

/-- The known instruments. -/
def all : List Preset := [
  { id := "8", name := "Beginner 8 Tines", keys := 8, description := "1 octave" },
  { id := "9", name := "9 Tines", keys := 9 },
  { id := "10", name := "10 Tines", keys := 10 },
  { id := "13", name := "13 Tines", keys := 13 },
  { id := "17", name := "Standard 17 Tines", keys := 17, description := "2 octaves + 2 notes" },
  { id := "21", name := "Professional 21 Tines", keys := 21, root := "F3", calibrated := true
    description := "Includes 4 extra low notes" },
  { id := "34", name := "Chromatic 34 Tines", keys := 34, root := "F3", calibrated := true
    description := "Diatonic lower row plus chromatic upper row" }]

/-- The id of the instrument that is meant where none is named. -/
def usual : String := "17"

/-- The instrument of an id. -/
def ofId (id : Text) : Except Fault Preset :=
  match all.find? fun p => (p.id : Text) == id with
  | some p => .ok p
  | none => .error (.preset id (all.map Preset.id))

variable {F : Type} [Analytic F]

/-- The layout of the instrument of an id, tuned to another root if one is given. -/
def layout (id : Text) (root : Option Text) (scale : Text) : Work (Layout F) := do
  let preset ← Work.of (ofId id)
  Layout.generate preset.keys (root.getD preset.root) scale (some 4) preset.calibrated

/-- The layout that is meant where none is given. -/
def usualLayout : Work (Layout F) := layout usual none "major"

end Preset

end Lamella
