import Lamella.Fault
import Lamella.Text.Case

/-!
# Scales

The scales an instrument can be tuned to. A scale is the row of its steps within an octave: how
many semitones a step lies above the root, and which degree is engraved for it, zero for a note
between two degrees.
-/

namespace Lamella

/-- A scale. -/
inductive Scale where
  | major
  | minor
  | pentatonicMajor
  | pentatonicMinor
  | chromatic
deriving DecidableEq, Inhabited

namespace Scale

/-- All scales. -/
def all : List Scale := [major, minor, pentatonicMajor, pentatonicMinor, chromatic]

/-- The name of a scale. -/
def name : Scale → String
  | major => "major"
  | minor => "minor"
  | pentatonicMajor => "pentatonic_major"
  | pentatonicMinor => "pentatonic_minor"
  | chromatic => "chromatic"

/-- The steps of a scale: semitones above the root, and degree. -/
def steps : Scale → List (Int × Int)
  | major => [(0, 1), (2, 2), (4, 3), (5, 4), (7, 5), (9, 6), (11, 7)]
  | minor => [(0, 1), (2, 2), (3, 3), (5, 4), (7, 5), (8, 6), (10, 7)]
  | pentatonicMajor => [(0, 1), (2, 2), (4, 3), (7, 5), (9, 6)]
  | pentatonicMinor => [(0, 1), (3, 3), (5, 4), (7, 5), (10, 7)]
  | chromatic =>
    [(0, 1), (1, 0), (2, 2), (3, 0), (4, 3), (5, 4), (6, 0), (7, 5), (8, 0), (9, 6), (10, 0),
      (11, 7)]

/-- The scale of a name, in any case and with hyphens or spaces for underscores. -/
def ofName (text : Text) : Except Fault Scale :=
  let s := Text.lower (Text.strip text)
  let s := Text.replaceChar ' ' '_' (Text.replaceChar '-' '_' s)
  match all.find? fun k => (k.name : Text) == s with
  | some k => .ok k
  | none => .error (.scale text (all.map name))

end Scale

end Lamella
