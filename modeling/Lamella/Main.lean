import Lamella.Command.Run
import Lamella.Midi.Bytes
import Lamella.Wave
import Std.Time.DateTime.Timestamp

/-!
# The command line

Runs a command on the files of the disk. What a command works on is taken from the disk before it
runs, and what it has changed is put there after.
-/

namespace Lamella

/-- What the bytes of a file are. -/
def Content.ofBytes (bytes : ByteArray) : Content Float32 :=
  match Midi.File.ofBytes? bytes.toList, Recording.ofWave? bytes.toList with
  | some file, _ => .midi file
  | none, some recording => .sound recording
  | none, none => (String.fromUTF8? bytes).elim .other fun s => .text s

/-- The bytes of a file of some content. -/
def Content.toBytes : Content Float32 → ByteArray
  | .text s => s.display.toUTF8
  | .midi file => ⟨file.toBytes.toArray⟩
  | .sound recording => ⟨recording.toWave.toArray⟩
  | .other => .empty

/-- What is on the disk at a path. -/
def Path.look (p : Path) : IO (Option (Entry Float32)) := do
  match ← (IO.FS.realPath p.text.display).toBaseIO with
  | .error _ => return none
  | .ok place =>
    if ← place.isDir then return some .folder
    else return some (.file (.ofBytes (← IO.FS.readBinFile place)))

namespace Files

/-- Adds what is on the disk at a path. -/
def load (files : Files Float32) (p : Path) : IO (Files Float32) := do
  return match ← p.look with
    | none => files
    | some .folder => (files.makeFolder p).2
    | some (.file content) => ((files.write p content).toOption).getD files

/-- Adds what is on the disk at some paths and on the way to them. -/
def loadAll (files : Files Float32) (ps : List Path) : IO (Files Float32) :=
  (ps.flatMap Path.ways).foldlM load files

/-- Puts on the disk what is at a path. -/
def save (p : Path) : Entry Float32 → IO Unit
  | .folder => IO.FS.createDirAll p.text.display
  | .file content =>
    match content, Recording.formatOf? p with
    | .sound _, some "WAV" => IO.FS.writeBinFile p.text.display content.toBytes
    | .sound _, format => throw (IO.userError ("no encoder for " ++ format.getD "" ++ " files"))
    | _, _ => IO.FS.writeBinFile p.text.display content.toBytes

end Files

/-- A journal that tells the time of day, and draws ids from a random one on. -/
def Journal.begin : IO Journal := do
  let seed ← IO.getRandomBytes 6
  let now ← Std.Time.Timestamp.now
  return { drawn := Bytes.ofLow seed.toList, now := now.toMillisecondsSinceUnixEpoch.val }

/-- The width of the screen. -/
def screenWidth : Nat := 80

/-- The lines of what is printed. -/
def Printed.lines : Printed → List Text
  | .text s => Screen.lines screenWidth s
  | .table t => t.lines

/-- Runs the command of a line of arguments, and returns the code that it ends with. -/
def commandLine (args : List Text) : IO UInt32 := do
  let command : Option (Command Float Float) := Command.ofArguments? args
  let files ← Files.loadAll {} (command.elim [] Command.paths)
  let studio : Studio Float Float Float32 := .ofDetector .deaf
  let (outcome, desk) := Command.run studio args ⟨← Journal.begin, files⟩
  (Files.changes files desk.files).forM fun (p, entry) => Files.save p entry
  match outcome with
  | .finished code printed =>
    (printed.flatMap Printed.lines).forM fun line => IO.println line.display
    return UInt32.ofNat code
  | .escaped fault =>
    IO.eprintln fault.message.display
    return 1
  | .misused =>
    Command.usage.forM IO.eprintln
    return 2

end Lamella

/-- The program. -/
def main (args : List String) : IO UInt32 := Lamella.commandLine (args.map Lamella.Text.ofString)
