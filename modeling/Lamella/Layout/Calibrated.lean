import Lamella.Layout.Basic
import Lamella.Pitch

/-!
# Calibrated instruments

Two instruments whose keys follow no formula are listed key by key, from left to right: the one
with 21 keys, and the one with 34 that adds an upper row of raised notes to it. What is engraved on
a key need not be its degree.
-/

namespace Lamella.Layout

/-- A key of a calibrated instrument. -/
structure Row where
  degree : Int
  note : String
  octave : Int
  displayDegree : String
  displayNote : String

/-- The keys of the 21-key instrument. -/
def lowerRow : List Row := [
  ⟨6, "D", 6, "2°°", "D°°"⟩,
  ⟨7, "B", 5, "7°", "B°"⟩,
  ⟨5, "G", 5, "5°", "G°"⟩,
  ⟨3, "E", 5, "3°", "E°"⟩,
  ⟨1, "C", 5, "1°", "C°"⟩,
  ⟨6, "A", 4, "6", "A"⟩,
  ⟨4, "F", 4, "4", "F"⟩,
  ⟨2, "D", 4, "2", "D"⟩,
  ⟨7, "B", 3, "7", "B"⟩,
  ⟨5, "G", 3, "5", "G"⟩,
  ⟨4, "F", 3, "1", "F"⟩,
  ⟨6, "A", 3, "6", "A"⟩,
  ⟨1, "C", 4, "1", "C"⟩,
  ⟨3, "E", 4, "3", "E"⟩,
  ⟨5, "G", 4, "5", "G"⟩,
  ⟨7, "B", 4, "7", "B"⟩,
  ⟨2, "D", 5, "2°", "D°"⟩,
  ⟨4, "F", 5, "4°", "F°"⟩,
  ⟨6, "A", 5, "6°", "A°"⟩,
  ⟨1, "C", 6, "1°°", "C°°"⟩,
  ⟨3, "E", 6, "3°°", "E°°"⟩]

/-- The raised notes of the 34-key instrument. They have no degree, so tablature does not reach
them. -/
def upperRow : List Row := [
  ⟨0, "G#", 5, "#5°", "G#°"⟩,
  ⟨0, "D#", 5, "#2°", "D#°"⟩,
  ⟨0, "A#", 4, "#6", "A#"⟩,
  ⟨0, "F#", 4, "#4", "F#"⟩,
  ⟨0, "C#", 4, "#1", "C#"⟩,
  ⟨0, "G#", 3, "#5", "G#"⟩,
  ⟨0, "F#", 3, "#4", "F#"⟩,
  ⟨0, "A#", 3, "#6", "A#"⟩,
  ⟨0, "D#", 4, "#2", "D#"⟩,
  ⟨0, "G#", 4, "#5", "G#"⟩,
  ⟨0, "C#", 5, "#1°", "C#°"⟩,
  ⟨0, "F#", 5, "#4°", "F#°"⟩,
  ⟨0, "A#", 5, "#6°", "A#°"⟩]

/-- The keys of the calibrated instrument with a number of keys, if there is one. -/
def rows? (size : Int) : Option (List Row) :=
  if size = 21 then some lowerRow
  else if size = 34 then some (lowerRow ++ upperRow)
  else none

/-- The octave glyphs that a key displays. -/
def markersShown (displayDegree : Text) : Int :=
  match Label.ofText? displayDegree with
  | some label => label.markers
  | none => (displayDegree.count (.char Label.glyph) : Nat)

variable {F : Type} [Analytic F]

/-- A key of a calibrated instrument at its place. -/
def Row.toKey (place : Nat) (r : Row) : Except Fault (Key F) := do
  return {
    index := place
    frequency := ← Pitch.frequencyOfName r.note r.octave
    degree := r.degree
    markers := markersShown r.displayDegree
    displayDegree := r.displayDegree
    displayNote := r.displayNote
    noteName := r.note ++ toString r.octave
    octave := r.octave }

/-- The calibrated instrument with a number of keys. -/
def ofTable (size : Int) : Except Fault (Layout F) :=
  match rows? size with
  | none => .error .noEntry
  | some rows => do
    let keys ← rows.zipIdx.mapM fun (r, place) => r.toKey place
    make keys (toString size ++ "-key calibrated") true

end Lamella.Layout
