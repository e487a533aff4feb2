import Lamella.Files.Path

/-!
# Commands

What can be asked for. How it is asked for on a line of arguments is not fixed here.

## Main definitions

- `Command`: what can be asked for, and `Command.paths`: the files that it is about.
-/

namespace Lamella

/-- An instrument that is asked for: a preset, and another root for it. -/
structure Choice where
  preset : Text
  root : Option Text
deriving DecidableEq, Inhabited

/-- Where a song is saved that a command makes of a file, and its title. Both are taken from the
name of the file where they are not given. -/
structure Saving where
  output : Option Path
  title : Option Text
deriving DecidableEq, Inhabited

/-- What can be asked for. -/
inductive Command (F R : Type) where
  | help
  /-- Show the keys of an instrument. -/
  | layout (choice : Choice) (scale : Text) (tines : Option Int)
  /-- List the presets. -/
  | presets
  /-- Make a song of a file of tablature. -/
  | compile (tab : Path) (saving : Saving) (artist : Text) (tempo : R)
      (metre difficulty : Text) (choice : Choice)
  /-- Show a song as tablature. -/
  | format (song : Text) (choice : Choice)
  /-- Find the keys nearest to frequencies. -/
  | tune (frequencies : List F) (choice : Choice) (tolerance : F)
  /-- Show the keys heard in a recording. -/
  | detect (recording : Path) (choice : Choice) (tolerance : F) (block : Int)
  /-- List the built-in songs, and save them. -/
  | songs (folder : Option Path) (choice : Choice)
  /-- Make a song of a recording. -/
  | transcribe (recording : Path) (saving : Saving) (tempo : R) (choice : Choice) (onset frame : F)
      (frames transpose : Int)
  /-- Make a song of a MIDI file. -/
  | importMidi (file : Path) (saving : Saving) (tempo : R) (choice : Choice) (transpose : Int)
  /-- Make a song heard. -/
  | render (song : Text) (output : Path) (choice : Choice)
  /-- Save a song as a MIDI file. -/
  | exportMidi (song : Text) (output : Path) (choice : Choice)

namespace Command

/-- The paths that a command may read or write; those of songs that it saves in a folder are below
the path of the folder. -/
def paths {F R : Type} : Command F R → List Path
  | .help | .layout .. | .presets | .tune .. => []
  | .compile file saving .. | .transcribe file saving .. | .importMidi file saving .. =>
    file :: (saving.output <|> file.withSuffix? ".json").toList
  | .format song _ => [Path.ofText song]
  | .detect file .. => [file]
  | .songs folder _ => folder.toList
  | .render song output _ | .exportMidi song output _ => [Path.ofText song, output]

end Command

end Lamella
