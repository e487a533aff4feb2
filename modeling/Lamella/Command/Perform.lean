import Lamella.Command.Basic
import Lamella.Command.Screen
import Lamella.Files.Exchange
import Lamella.Songbook
import Lamella.Synth.Engine
import Lamella.Transcript.Detector
import Lamella.Transcript.Passes

/-!
# What commands do

A command works at a desk and prints. The warnings of a piece of its work are printed after it. A
fault of what was given is printed too, and ends the command; any other fault escapes from it.

How lines of arguments are read, what the screen prints, how sound is heard and made and how it is
kept in files is left to a studio.

## Main definitions

- `Studio`: what commands rely on.
- `Run`: work that prints; `Run.guarded`: a piece of work whose warnings and faults are printed.
- `Command.perform`: what a command does.
- `Command.run`: the outcome of a line of arguments.
-/

namespace Lamella

/-- What commands rely on. -/
structure Studio (F R S : Type) [Scalar R] where
  /-- The command of a line of arguments, unless it is misused. -/
  command? : List Text → Option (Command F R)
  screen : Screen
  detector : Detector F R S
  render : Layout F → Song R → Except Fault (Recording S)
  formats : Formats R S

/-! ## Work that prints -/

/-- A desk, and what was printed, last first. -/
structure Console (S : Type) where
  desk : Desk S := {}
  printed : List Printed := []

/-- Why a command ends early: a fault, or one that was printed. -/
inductive Stop where
  | fault (f : Fault)
  | reported
deriving DecidableEq, Inhabited

/-- A computation that works at a desk and prints. -/
abbrev Run (S α : Type) : Type := ExceptT Stop (StateM (Console S)) α

namespace Run

variable {S α : Type}

/-- A task at the desk. -/
def task (t : Task S α) : Run S α :=
  ExceptT.mk fun console =>
    let (result, desk) := t.run console.desk
    (result.mapError Stop.fault, { console with desk })

/-- Work that needs no files. -/
def work (w : Work α) : Run S α := task (Task.ofWork w)

/-- A pure result. -/
def of (result : Except Fault α) : Run S α := ExceptT.mk (pure (result.mapError Stop.fault))

/-- Prints. -/
def print (screen : Screen) (p : Printed) : Run S Unit := do
  of (screen.accept p)
  modifyThe (Console S) fun console => { console with printed := p :: console.printed }

/-- Prints text with markup. -/
def say (screen : Screen) (markup : Text) : Run S Unit := do
  print screen (.text (← of (screen.shown markup)))

/-- Prints a warning. -/
def sayWarning (screen : Screen) (w : Warning) : Run S Unit :=
  say screen ("[yellow]Warning: " ++ screen.escape w.message ++ "[/yellow]")

/-- Whether a fault is one of what was given, to be printed. -/
def isReported (f : Fault) : Bool :=
  match f.kind with
  | .invalid | .layout | .conversion | .unreadable | .encoding | .missing | .noNotes => true
  | _ => false

/-- What is printed of a piece of work that has ended. -/
def settle (screen : Screen) (warnings : List Warning) : Except Stop α → Run S α
  | .ok x => do
    warnings.forM (sayWarning screen)
    return x
  | .error (.fault f) =>
    if isReported f then do
      warnings.forM (sayWarning screen)
      say screen ("[red]Error: " ++ screen.escape f.message ++ "[/red]")
      throw .reported
    else throw (.fault f)
  | .error .reported => throw .reported

/-- A console whose journal holds the given warnings. -/
def withGiven (ws : List Warning) (console : Console S) : Console S :=
  let journal := { console.desk.journal with given := ws }
  { console with desk := { console.desk with journal } }

/-- A piece of work whose warnings are printed after it, and whose fault too if it is one of what
was given. Warnings of before stay in the journal. -/
def guarded (screen : Screen) (body : Run S α) : Run S α := ExceptT.mk fun console =>
  let (result, after) := body.run (withGiven [] console)
  (settle screen after.desk.journal.warnings result).run
    (withGiven console.desk.journal.given after)

end Run

/-! ## What commands do -/

section

variable {F R S : Type} [Analytic F] [Scalar R] [Scalar S] [Sample F S]

/-- A text that is not empty. -/
def Text.given? (s : Text) : Option Text := if s = [] then none else some s

/-- The other root of an instrument that is asked for. -/
def Choice.givenRoot? (c : Choice) : Option Text := c.root.bind Text.given?

/-- The layout of an instrument that is asked for. -/
def Choice.layout (c : Choice) (scale : Text := "major") : Work (Layout F) :=
  Preset.layout c.preset c.givenRoot? scale

/-- The title of a song made of a file. -/
def Saving.titleFor (s : Saving) (file : Path) : Text :=
  (s.title.bind Text.given?).getD file.stem

/-- Where a song made of a file is saved. -/
def Saving.pathFor (s : Saving) (file : Path) : Except Fault Path :=
  match s.output with
  | some p => .ok p
  | none => (file.withSuffix? ".json").elim (.error (.nameless file.text)) .ok

namespace Command

/-- What can be asked for, in a few lines. -/
def usage : List String := [
  "Usage: lamella COMMAND [OPTIONS] [ARGUMENTS]",
  "  layout        show the keys of an instrument",
  "  presets       list the presets",
  "  compile       make a song of a file of tablature",
  "  format        show a song as tablature",
  "  match         find the keys nearest to frequencies",
  "  detect        show the keys heard in a recording",
  "  songs         list the built-in songs, or save them",
  "  transcribe    make a song of a recording",
  "  import-midi   make a song of a MIDI file",
  "  render        save what a song sounds like",
  "  export-midi   save a song as a MIDI file"]

/-- A number with its sign. -/
def signed (x : F) : String :=
  let s := Scalar.fixed 1 x
  if Scalar.isNegative x then s else "+" ++ s

/-- A frequency in hertz. -/
def hertz (f : F) : String := Scalar.fixed 2 f ++ " Hz"

/-- The cells of a match: the key and the cents above it. -/
def matchCells (l : Layout F) (m : Match F) : List Text :=
  [toString m.key.index ++ " (" ++ l.caption m.key ++ ")", ↑(signed m.cents)]

/-- The table of the keys of a layout. -/
def layoutTable (l : Layout F) : Table where
  title := l.name ++ " (" ++ toString l.size ++ " keys)"
  header := ["Index", "Label", "Note", "Frequency"]
  rows := l.captions.map fun (k, caption) =>
    [toString k.index, caption, k.noteName, hertz k.frequency]

/-- The table of the presets. -/
def presetTable : Table where
  title := "Hardware Presets"
  header := ["Id", "Name", "Tines", "Root"]
  rows := Preset.all.map fun p => [p.id, p.name, toString p.keys, p.root]

/-- The row of a song. -/
def songRow (s : Song R) : List Text :=
  [s.id, s.title, s.artist.text, Scalar.format (Decimal.general 6) s.tempo.scalar,
    s.difficulty.text, toString s.notes.length]

/-- The row of a frequency and the key nearest to it. -/
def matchRow (l : Layout F) (tolerance f : F) : Except Fault (List Text) := do
  let found ← closestKey f l tolerance
  let nearest ← if Scalar.ofInt 0 < f then Pitch.nearestName f else pure "-"
  return hertz f :: nearest :: (found.map (matchCells l)).getD ["no match", "-"]

/-- The row of a live estimate. -/
def estimateRow (m : Matcher F) (p : HeardPitch F) : Except Fault (List Text) := do
  let found ← m.matchPitch p
  let measures : List Text :=
    [Scalar.fixed 2 p.timestamp ++ "s", hertz p.frequency, Scalar.fixed 2 p.clarity]
  return measures ++ (found.map (matchCells m.layout)).getD ["-", "-"]

/-- Says that a file is missing, and ends the command. -/
def endMissing (screen : Screen) (p : Path) : Run S Unit := do
  Run.say screen ("[red]Error: " ++ (Fault.sourceFile p.text).message ++ "[/red]")
  throw .reported

/-- Ends the command if a file is missing. -/
def demand (screen : Screen) (p : Path) : Run S Unit := do
  if !(← Run.task (Task.contains p)) then endMissing screen p

/-- Says what became of a path. -/
def sayPath (screen : Screen) (what : Text) (p : Path) : Run S Unit :=
  Run.say screen (what ++ " " ++ p.text)

/-- A built-in song by its id, or else the song of a file. -/
def songOf (l : Layout F) (source : Text) : Run S (Song R) :=
  match Songbook.find? source with
  | some entry => Run.work (entry.song l)
  | none => Run.task (Task.loadSong (Path.ofText source))

/-- The metre of songs that are transcribed. -/
def transcriptMetre : Metre := .common

/-- Saves the notes of a transcription as a song. -/
def saveNotes (t : Transcription F R) (notes : List (Note R)) (title : Text) (output : Path) :
    Run S Unit := do
  let song ← Run.work (t.song notes title (.str "Unknown"))
  Run.task (Task.saveSong output song)

/-- Says how many notes a file had, and where the song of them is. -/
def sayNotes (screen : Screen) (what : Text) (count : Nat) (output : Path) : Run S Unit := do
  Run.say screen ("  " ++ what ++ " " ++ toString count ++ " notes")
  sayPath screen "[green]Saved:[/green]" output

/-- What a command does. -/
def perform (studio : Studio F R S) : Command F R → Run S Unit
  | .help => usage.forM fun line => Run.say studio.screen line
  | .layout choice scale tines => do
    let l : Layout F ← Run.guarded studio.screen (Run.work (match tines with
      | some count =>
        Layout.generate count (choice.givenRoot?.getD "C") scale (some 4) false
      | none => choice.layout scale))
    Run.print studio.screen (.table (layoutTable l))
  | .presets => Run.print studio.screen (.table presetTable)
  | .compile tab saving artist tempo metre difficulty choice => do
    demand studio.screen tab
    let output ← Run.of (saving.pathFor tab)
    let song ← Run.guarded studio.screen do
      let l : Layout F ← Run.work choice.layout
      let text ← Run.of ((← Run.task Task.files).readText tab)
      let song ← Run.work (Song.compose l {
        tab := text, title := saving.titleFor tab, tempo := .measured tempo
        metre := .value (.str metre), artist := .str artist, difficulty := .str difficulty
        tuning := choice.root.elim .null .str })
      Run.task (Task.saveSong output song)
      return song
    Run.say studio.screen ("  Compiled " ++ toString song.notes.length ++ " notes, " ++
      Scalar.fixed 2 (Song.durationOf song.notes) ++ "s")
    sayPath studio.screen "[green]Saved:[/green]" output
  | .format source choice => do
    let tab ← Run.guarded studio.screen do
      let l : Layout F ← Run.work choice.layout
      let song : Song R ← songOf l source
      let grid ← Run.of (Grid.make song.tempo.scalar (.metre song.metre))
      Run.work (Tab.writeWarning l grid song.notes)
    Run.print studio.screen (.text tab)
  | .tune frequencies choice tolerance => do
    let l : Layout F ← Run.guarded studio.screen (Run.work choice.layout)
    let rows ← Run.of (frequencies.mapM (matchRow l tolerance))
    Run.print studio.screen
      (.table ⟨"Pitch Matches", ["Frequency", "Nearest Note", "Key", "Cents"], rows⟩)
  | .detect file choice tolerance block => do
    let (l, recording, found) ← Run.guarded studio.screen do
      let l : Layout F ← Run.work choice.layout
      let recording ← Run.task (Task.loadRecording file studio.formats)
      return (l, recording, ← Run.of (studio.detector.stream recording block))
    let m : Matcher F := ⟨l, tolerance, Matcher.defaultClarity, Matcher.defaultVolume⟩
    let seconds : F ← Run.of recording.seconds
    Run.print studio.screen (.table {
      title := "Detected Pitches (" ++ Scalar.fixed 1 seconds ++ "s)"
      header := ["Time", "Frequency", "Clarity", "Key", "Cents"]
      rows := ← Run.of (found.mapM (estimateRow m)) })
    Run.say studio.screen ("  " ++ toString found.length ++ " voiced blocks")
  | .songs folder choice => do
    let songs : List (Song R) ← Run.guarded studio.screen do
      let l : Layout F ← Run.work choice.layout
      Run.work (Songbook.songs l)
    if let some folder := folder then
      Run.task (songs.forM fun s => Task.saveSong (folder.child (s.id ++ ".json")) s)
    Run.print studio.screen (.table ⟨"Built-in Songs",
      ["Id", "Title", "Artist", "BPM", "Difficulty", "Notes"], songs.map songRow⟩)
    if let some folder := folder then
      sayPath studio.screen
        ("[green]Exported " ++ toString songs.length ++ " songs to:[/green]") folder
  | .transcribe file saving tempo choice onset frame frames transpose => do
    demand studio.screen file
    let output ← Run.of (saving.pathFor file)
    let notes ← Run.guarded studio.screen do
      let thresholds ← Run.of
        (Thresholds.make onset frame frames Thresholds.defaultLevel transpose)
      let t : Transcription F R :=
        ⟨← Run.work choice.layout, thresholds, tempo, transcriptMetre⟩
      sayPath studio.screen "[blue]Transcribing:[/blue]" file
      let loaded ← Run.task (Task.loadRecording file studio.formats)
      let recording ← Run.of (Recording.prepare (.mono loaded.samples.toList) loaded.rate true)
      let passes ← Run.work (t.listen fun _ => studio.detector.listen recording)
      let notes ← Run.of passes.result
      saveNotes t notes (saving.titleFor file) output
      return notes
    sayNotes studio.screen "Detected" notes.length output
  | .importMidi file saving tempo choice transpose => do
    let output ← Run.of (saving.pathFor file)
    let notes ← Run.guarded studio.screen do
      let l : Layout F ← Run.work choice.layout
      let thresholds ← Run.of (Thresholds.make Thresholds.defaultOnset Thresholds.defaultFrame
        Thresholds.defaultFrames Thresholds.defaultLevel transpose)
      let t : Transcription F R := ⟨l, thresholds, tempo, transcriptMetre⟩
      let _ ← Run.of (t.keyMap thresholds)
      let parts ← Run.task (Task.loadParts file studio.formats)
      let notes ← Run.of (Midi.heard parts false >>= t.notesOf)
      saveNotes t notes (saving.titleFor file) output
      return notes
    sayNotes studio.screen "Mapped" notes.length output
  | .render source output choice => do
    Run.guarded studio.screen do
      let l : Layout F ← Run.work choice.layout
      let song ← songOf l source
      let recording ← Run.of (studio.render l song)
      Run.task (Task.saveRecording output recording studio.formats)
    sayPath studio.screen "[green]Rendered:[/green]" output
  | .exportMidi source output choice => do
    Run.guarded studio.screen do
      let l : Layout F ← Run.work choice.layout
      let song : Song R ← songOf l source
      let piece ← Run.work
        (Midi.ofSong l Midi.songInstrument Midi.songProgram Midi.songVelocity song)
      Run.task (Task.savePiece output piece studio.formats)
    sayPath studio.screen "[green]Exported:[/green]" output

/-! ## Outcomes -/

/-- The outcome of a line of arguments: what was printed, with the code that the command ends with;
a fault that escaped; or no command at all. -/
inductive Outcome where
  | finished (code : Nat) (printed : List Printed)
  | escaped (fault : Fault)
  | misused
deriving DecidableEq, Inhabited

/-- Runs the command of a line of arguments at a desk. -/
def run (studio : Studio F R S) (args : List Text) (desk : Desk S) : Outcome × Desk S :=
  match studio.command? args with
  | none => (.misused, desk)
  | some command =>
    let (result, console) := (perform studio command).run ⟨desk, []⟩
    let outcome := match result with
      | .ok () => .finished 0 console.printed.reverse
      | .error .reported => .finished 1 console.printed.reverse
      | .error (.fault f) => .escaped f
    (outcome, console.desk)

end Command

end

end Lamella
