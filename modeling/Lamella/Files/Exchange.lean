import Lamella.Files.Desk
import Lamella.Files.Formats
import Lamella.Song.Data

/-!
# Files of songs, pieces and recordings

What the library makes can be kept in files and taken from them again: songs and libraries of songs
as text, pieces as MIDI files, recordings as sound.

## Main definitions

- `Task.saveSong`, `Task.loadSong`, `Task.saveLibrary`, `Task.loadLibrary`.
- `Task.savePiece`, `Task.loadParts`.
- `Task.saveRecording`, `Task.loadRecording`; `Recording.checkPath`: which files recordings are
  loaded from.
-/

namespace Lamella

namespace Recording

/-- The suffixes of the files that recordings are loaded from, in the order of messages. -/
def readSuffixes : List String := [".flac", ".m4a", ".mp3", ".ogg", ".wav"]

/-- A path that a recording may be loaded from. -/
def checkPath {S : Type} (files : Files S) (p : Path) : Except Fault Path := do
  if ← files.contains p then
    if readSuffixes.any fun suffix => (suffix : Text) == Text.lower p.suffix then return p
    else throw (.audioFormat p.suffix readSuffixes)
  else throw (.audioFile p.text)

end Recording

namespace Task

variable {S R : Type} [Scalar R]

/-- Saves a song. -/
def saveSong (p : Path) (song : Song R) : Task S Unit := save p (.text song.toText)

/-- Saves several songs in one file. -/
def saveLibrary (p : Path) (songs : List (Song R)) : Task S Unit :=
  save p (.text (Song.libraryText songs))

/-- The text of a file of songs. -/
def songText (p : Path) : Task S Text := do
  if ← contains p then of ((← files).readText p) else throw (.songFile p.text)

/-- Loads a song. -/
def loadSong (p : Path) : Task S (Song R) := do ofWork (Song.ofText (← songText p))

/-- Loads the songs of one file. -/
def loadLibrary (p : Path) : Task S (List (Song R)) := do
  ofWork (Song.libraryOfText (← songText p))

/-- Saves a piece as a MIDI file. -/
def savePiece (p : Path) (piece : Midi.Piece R) (formats : Formats R S) : Task S Unit := do
  makeRoom p
  put p (← of (formats.contentOf piece))

/-- The instruments of a MIDI file. -/
def loadParts [Scalar S] (p : Path) (formats : Formats R S := .usual) :
    Task S (List (Midi.Part R)) := do
  if ← contains p then of (formats.partsOf (← of ((← files).read p)))
  else throw (.midiFile p.text)

/-- Saves a recording. Whatever is wrong with one of its files, the fault is that no recording can be
there. -/
def saveRecording (p : Path) (recording : Recording S) (formats : Formats R S) : Task S Unit := do
  makeRoom p
  let kept ← of (formats.filesOf p recording)
  tryCatch (kept.forM fun (place, content) => put place content) fun _ => throw (.soundPlace p.text)

/-- Loads a recording. -/
def loadRecording (p : Path) (formats : Formats R S) : Task S (Recording S) := do
  let files ← files
  let p ← of (Recording.checkPath files p)
  of (formats.recordingOf p (← of (files.read p)))

end Task

end Lamella
