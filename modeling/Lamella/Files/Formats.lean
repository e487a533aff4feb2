import Lamella.Files.Basic
import Lamella.Midi.Basic

/-!
# Formats

How recordings and pieces are kept in files is not fixed: `Formats` says what is read of a file and
what is written for one. In the usual formats a recording is saved in the format that its path names,
and some of them need a second file for what the first has no room for.

## Main definitions

- `Formats`: what is read of files, and how they are saved.
- `Formats.usual`: the usual formats.
-/

namespace Lamella

/-- How recordings and pieces are kept in files. -/
structure Formats (R S : Type) where
  /-- The recording that a file of some content holds. -/
  recordingOf : Path → Content S → Except Fault (Recording S)
  /-- The files that keep a recording, in the order in which they are written. -/
  filesOf : Path → Recording S → Except Fault (List (Path × Content S))
  /-- The instruments that a file of some content holds. -/
  partsOf : Content S → Except Fault (List (Midi.Part R))
  /-- The content of the file of a piece. -/
  contentOf : Midi.Piece R → Except Fault (Content S)

/-! ## The usual formats -/

namespace Recording

/-- The formats that recordings are saved in. -/
def formats : List String :=
  ["AIFF", "AU", "AVR", "CAF", "FLAC", "HTK", "IRCAM", "MAT4", "MAT5", "MP3", "MPC2K", "NIST",
    "OGG", "PAF", "PVF", "RF64", "SD2", "SDS", "SVX", "VOC", "W64", "WAV", "WAVEX", "WVE", "XI"]

/-- The format that a path names: the ending of its last name in capitals. -/
def formatOf? (p : Path) : Option String :=
  formats.find? fun format => (format : Text) == Text.capitals p.ending

/-- The path of the file that keeps what the file of a recording has no room for, in the formats
that need one. -/
def companion? (p : Path) : Option Path :=
  if formatOf? p = some "SD2" then some (p.parent.child ("._" ++ p.name)) else none

/-- The most bytes of a path that a recording can be saved at. -/
def mostPathBytes : Nat := 1024

/-- The files of a recording in the format that its path names. -/
def filesAt {S : Type} (p : Path) (recording : Recording S) :
    Except Fault (List (Path × Content S)) :=
  if (formatOf? p).isNone then .error (.soundFormat p.text)
  else if mostPathBytes < p.text.byteCount then .error (.soundPlace p.text)
  else .ok ((p, .sound recording) :: (companion? p).toList.map (·, .other))

/-- The recording that a file of some content holds, if all of its samples are finite. -/
def ofContent {S : Type} [Scalar S] (p : Path) : Content S → Except Fault (Recording S)
  | .sound recording =>
    if recording.samples.all Channels.isFinite then .ok recording else .error .brokenSample
  | _ => .error (.noSound p.text)

end Recording

/-- The instruments that a file of some content holds. -/
def Midi.partsOf {R S : Type} [Scalar R] : Content S → Except Fault (List (Part R))
  | .midi file => file.parts
  | .text s => if s.byteCount < 8 then .error .shortMidi else .error .notMidi
  | _ => .error .notMidi

/-- The usual formats. -/
def Formats.usual {R S : Type} [Scalar R] [Scalar S] : Formats R S where
  recordingOf := Recording.ofContent
  filesOf := Recording.filesAt
  partsOf := Midi.partsOf
  contentOf piece := .midi <$> Midi.File.ofPiece piece

end Lamella
