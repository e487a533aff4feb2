import Lamella.Recording
import Lamella.Song.Basic
import Lamella.Tab.Writing
import Lamella.Transcript.KeyMap
import Lamella.Transcript.Thresholds

/-!
# Transcription

A recording is transcribed in one pass, or in two: if the first finds no note that can be played,
one more is made with relaxed thresholds. The notes that were found become a song together with
their tablature.

## Main definitions

- `Transcription`: layout, thresholds, tempo and metre.
- `Transcription.listen`: the passes over a recording.
- `Transcription.song`: the song of the notes.
-/

namespace Lamella

/-- What a transcription aims at: keys, thresholds, tempo and metre. -/
structure Transcription (F R : Type) [Scalar F] where
  layout : Layout F
  thresholds : Thresholds F
  tempo : R
  metre : Metre

/-- What became of the passes over a recording: the thresholds of each pass that was made, and the
notes or the fault. -/
structure Passes (F R : Type) [Scalar F] [Scalar R] where
  made : List (Thresholds F)
  result : Except Fault (List (Note R))

namespace Transcription

variable {F R : Type} [Analytic F] [Scalar R]

/-- How heard notes are put onto keys. -/
def keyMap (t : Transcription F R) (thresholds : Thresholds F) : Except Fault (KeyMap F R) := do
  return {
    layout := t.layout
    grid := ← Grid.make t.tempo (.metre t.metre)
    transpose := thresholds.transpose
    capture := KeyMap.defaultCapture }

/-- The notes of heard notes, of which there must be one. -/
def notesOf (t : Transcription F R) (heard : List (HeardNote F R)) :
    Except Fault (List (Note R)) := do
  match ← (← t.keyMap t.thresholds).map heard with
  | [] => throw .noNotes
  | notes => return notes

/-- The second pass, after a first one without notes. -/
def listenAgain (t : Transcription F R) (first : Thresholds F)
    (ear : Nat → Thresholds F → Except Fault (List (HeardNote F R))) : Passes F R :=
  match first.relaxed with
  | .error fault => ⟨[first], .error fault⟩
  | .ok relaxed =>
    match t.keyMap relaxed with
    | .error fault => ⟨[first], .error fault⟩
    | .ok keys =>
      match ear 1 relaxed >>= keys.map with
      | .ok [] => ⟨[first, relaxed], .error .noNotes⟩
      | result => ⟨[first, relaxed], result⟩

/-- Listens to a recording once, and once more if no note was found. The ear is told how many passes
came before. -/
def listen (t : Transcription F R)
    (ear : Nat → Thresholds F → Except Fault (List (HeardNote F R))) : Work (Passes F R) := do
  match t.keyMap t.thresholds with
  | .error fault => return ⟨[], .error fault⟩
  | .ok keys =>
    match ear 0 t.thresholds >>= keys.map with
    | .ok [] =>
      Work.warn .retrying
      return t.listenAgain t.thresholds ear
    | result => return ⟨[t.thresholds], result⟩

/-- Listens to a recording, if it could be prepared. -/
def listenTo {S : Type} (t : Transcription F R) (recording : Except Fault (Recording S))
    (ear : Recording S → Nat → Thresholds F → Except Fault (List (HeardNote F R))) :
    Work (Passes F R) :=
  match recording with
  | .error fault => return ⟨[], .error fault⟩
  | .ok r => t.listen (ear r)

/-- The song of notes, with the tablature that shows them. -/
def song (t : Transcription F R) (notes : List (Note R)) (title : Text) (artist : Value R) :
    Work (Song R) := do
  let grid ← Work.of (Grid.make t.tempo (.metre t.metre))
  let tab ← Tab.writeWarning t.layout grid notes
  Song.make {
    title, artist, notes
    tempo := .measured t.tempo
    metre := .metre t.metre
    tab := .str tab
    tines := .int t.layout.size }

end Transcription

end Lamella
