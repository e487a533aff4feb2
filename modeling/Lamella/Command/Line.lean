import Lamella.Command.Arguments
import Lamella.Command.Basic
import Lamella.Grid
import Lamella.Layout.Preset
import Lamella.Matching
import Lamella.Transcript.Detector

/-!
# Lines of arguments

How commands are asked for on a line of arguments. A line that asks for nothing, for something
unknown, or with the wrong arguments, has no command.

## Main definitions

- `Command.flags`: the options of each command.
- `Command.ofArguments?`: the command of a line.
-/

namespace Lamella

namespace Command

/-! ## Options -/

/-- The option of the preset. -/
def presetFlag : Flag := ⟨some 'p', "preset"⟩

/-- The options of the instrument. -/
def choiceFlags : List Flag := [presetFlag, ⟨some 'r', "root"⟩]

/-- The option of the file that is written. -/
def outputFlag : Flag := ⟨some 'o', "output"⟩

/-- The options of a song that is saved. -/
def savingFlags : List Flag := [outputFlag, ⟨some 't', "title"⟩, ⟨some 'b', "bpm"⟩]

/-- The option of the tolerance. -/
def toleranceFlag : Flag := ⟨none, "tolerance"⟩

/-- The option of semitones to transpose by. -/
def transposeFlag : Flag := ⟨none, "transpose"⟩

/-- The options of each command. -/
def flags : List (String × List Flag) := [
  ("layout", choiceFlags ++ [⟨some 's', "scale"⟩, ⟨some 'n', "tines"⟩]),
  ("presets", []),
  ("compile", choiceFlags ++ savingFlags ++
    [⟨none, "artist"⟩, ⟨none, "time-signature"⟩, ⟨some 'd', "difficulty"⟩]),
  ("format", choiceFlags),
  ("match", choiceFlags ++ [toleranceFlag]),
  ("detect", choiceFlags ++ [toleranceFlag, ⟨none, "block"⟩]),
  ("songs", [presetFlag, ⟨some 'e', "export"⟩]),
  ("transcribe", choiceFlags ++ savingFlags ++ [⟨none, "onset-threshold"⟩,
    ⟨none, "frame-threshold"⟩, ⟨none, "min-note-frames"⟩, transposeFlag]),
  ("import-midi", choiceFlags ++ savingFlags ++ [transposeFlag]),
  ("render", choiceFlags ++ [outputFlag]),
  ("export-midi", choiceFlags ++ [outputFlag])]

/-! ## Values of options -/

/-- The instrument of the arguments. -/
def choiceOf (a : Arguments) : Choice := ⟨a.value "preset" Preset.usual, a.value? "root"⟩

/-- The path that an argument writes, if it can be written in bytes. -/
def pathOfText? (s : Text) : Option Path := (some (Path.ofText s)).filter Path.isSpelled

/-- The path of the one operand. -/
def file? (a : Arguments) : Option Path := a.single? >>= pathOfText?

/-- The path of an option, if it is given; nothing if it is given wrongly. -/
def pathOf? (a : Arguments) (name : String) : Option (Option Path) :=
  (a.value? name).elim (some none) fun s => some <$> pathOfText? s

/-- Where the arguments want a song to be saved, and its title. -/
def savingOf? (a : Arguments) : Option Saving := return ⟨← pathOf? a "output", a.value? "title"⟩

/-- The tempo of songs that are transcribed where no other is given. -/
def transcriptTempo {R : Type} [Scalar R] : R := 120.0

/-- The tolerance of detection where no other is given, in cents. -/
def detectTolerance {F : Type} [Scalar F] : F := 15.0

/-! ## Commands of lines -/

variable {F R : Type} [Analytic F] [Scalar R]

/-- The command of a name with arguments. -/
def ofName? (name : String) (a : Arguments) : Option (Command F R) := do
  let choice := choiceOf a
  let saving ← savingOf? a
  match name with
  | "layout" =>
    guard (a.operands = [])
    let tines ← match a.value? "tines" with
      | none => pure none
      | some _ => some <$> a.integer? "tines" 0
    return .layout choice (a.value "scale" "major") tines
  | "presets" =>
    guard (a.operands = [])
    return .presets
  | "compile" =>
    return .compile (← file? a) saving (a.value "artist" "Unknown")
      (← a.scalar? "bpm" defaultTempo) (a.value "time-signature" "4/4")
      (a.value "difficulty" "medium") choice
  | "format" => return .format (← a.single?) choice
  | "match" =>
    guard (a.operands ≠ [])
    return .tune (← a.inOrder.mapM Arguments.scalarOfText?) choice
      (← a.scalar? "tolerance" defaultTolerance)
  | "detect" =>
    return .detect (← file? a) choice (← a.scalar? "tolerance" detectTolerance)
      (← a.integer? "block" (Detector.usualBlock))
  | "songs" =>
    guard (a.operands = [])
    return .songs (← pathOf? a "export") choice
  | "transcribe" =>
    return .transcribe (← file? a) saving
      (← a.scalar? "bpm" transcriptTempo) choice
      (← a.scalar? "onset-threshold" Thresholds.defaultOnset)
      (← a.scalar? "frame-threshold" Thresholds.defaultFrame)
      (← a.integer? "min-note-frames" Thresholds.defaultFrames) (← a.integer? "transpose" 0)
  | "import-midi" =>
    return .importMidi (← file? a) saving
      (← a.scalar? "bpm" transcriptTempo) choice (← a.integer? "transpose" 0)
  | "render" =>
    return .render (← a.single?) (saving.output.getD (Path.ofText "song.wav")) choice
  | "export-midi" =>
    return .exportMidi (← a.single?) (saving.output.getD (Path.ofText "song.mid")) choice
  | _ => none

/-- The command of a line that begins with the name of a command. -/
def ofNamed? : List Text → Option (Command F R)
  | [] => none
  | name :: rest => do
    let (name, flags) ← flags.find? fun entry => (entry.1 : Text) == name
    let a ← Arguments.read flags rest
    if a.help then return .help else ofName? name a

/-- The command of a line. Only a request for help may come before the name of a command. -/
def ofArguments? : List Text → Option (Command F R)
  | [] => none
  | arg :: rest =>
    if arg = "--" then ofNamed? rest
    else if arg = "--help" then some .help
    else if (Arguments.option? arg).isSome then none
    else ofNamed? (arg :: rest)

end Command

end Lamella
