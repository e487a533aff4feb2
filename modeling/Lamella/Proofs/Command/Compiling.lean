import Lamella.Proofs.Command.Sayings
import Lamella.Proofs.Song.Composed

/-!
# Compiling and formatting

A run that compiles goes well just if the song can be composed and saved and all that is said of it
can be said. A run that formats goes well if the song can be loaded and all its notes have labels.

## Main definitions

- `Command.sheetOf`: what a song is composed of that is compiled.
- `Command.Composed`, `Command.Compiled`: a song is composed, and compiled.

## Main statements

- `Command.compiled_of_leads`: what compiling does when it goes well.
- `Command.leads_compile`: when that is.
- `Command.exists_format`: when formatting goes well.
-/

namespace Lamella

namespace Command

/-! ## §1 What is said of compiled songs -/

/-- What is said of a song that was compiled. -/
def countMarkup {R : Type} [Scalar R] (song : Song R) : Text :=
  "  Compiled " ++ toString song.notes.length ++ " notes, " ++
    Scalar.fixed 2 (Song.durationOf song.notes) ++ "s"

theorem isPlain_countMarkup {R : Type} [Scalar R] (song : Song R) : (countMarkup song).IsPlain :=
  Text.isPlain_compiled song.notes.length (Song.durationOf song.notes)

/-- What is said of a place where something was saved. -/
def placeMarkup (output : Path) : Text := "[green]Saved:[/green]" ++ " " ++ output.text

/-! ## §2 Runs that compile -/

/-- A file is demanded that is there. -/
theorem leads_demand {S : Type} {screen : Screen} {file : Path} {console console' : Console S}
    {u : Unit} : Leads (demand screen file) console u console' ↔
      console.desk.files.contains file = .ok true ∧ console = console' := by
  unfold demand endMissing
  simp only [leads_bind, Run.leads_task, Task.leads_contains]
  constructor
  · rintro ⟨there, _, ⟨_, ⟨hthere, rfl⟩, rfl⟩, hrest⟩
    cases there with
    | false => simp [leads_bind] at hrest
    | true =>
      obtain ⟨-, rfl⟩ := leads_pure.mp hrest
      exact ⟨hthere, rfl⟩
  · rintro ⟨hthere, rfl⟩
    exact ⟨true, _, ⟨_, ⟨hthere, rfl⟩, rfl⟩, leads_pure.mpr ⟨rfl, rfl⟩⟩

section

variable {F R S : Type}

/-- What a song is composed of that is compiled. -/
def sheetOf (file : Path) (saving : Saving) (artist : Text) (tempo : R) (metre difficulty : Text)
    (choice : Choice) (text : Text) : Song.Sheet R where
  tab := text
  title := saving.titleFor file
  tempo := .measured tempo
  metre := .value (.str metre)
  artist := .str artist
  difficulty := .str difficulty
  tuning := choice.root.elim .null .str

theorem tuning_sheetOf (file : Path) (saving : Saving) (artist : Text) (tempo : R)
    (metre difficulty : Text) (choice : Choice) (text : Text) :
    (sheetOf file saving artist tempo metre difficulty choice text).tuning = .null ∨
      ∃ root, (sheetOf file saving artist tempo metre difficulty choice text).tuning = .str root := by
  unfold sheetOf
  cases choice.root with
  | none => exact .inl rfl
  | some root => exact .inr ⟨root, rfl⟩

variable [Analytic F] [Scalar R]

/-- The work of compiling that warnings and faults are printed of. -/
def compiling (F S : Type) [Analytic F] (file : Path) (saving : Saving) (artist : Text) (tempo : R)
    (metre difficulty : Text) (choice : Choice) (output : Path) : Run S (Song R) := do
  let l : Layout F ← Run.work choice.layout
  let text ← Run.of ((← Run.task Task.files).readText file)
  let song ← Run.work
    (Song.compose l (sheetOf file saving artist tempo metre difficulty choice text))
  Run.task (Task.saveSong output song)
  return song

/-- A song is composed of a sheet on an instrument that is asked for, and the warnings of both can be
said. -/
def Composed (screen : Screen) (choice : Choice) (sheet : Song.Sheet R) (journal : Journal)
    (layout : Layout F) (song : Song R) : Prop :=
  ∃ j k, choice.layout.Gives { journal with given := [] } layout j ∧
    (Song.compose layout sheet).Gives j song k ∧
    ∀ w ∈ k.warnings, screen.Sayable (Run.warningMarkup screen w)

/-- A song is compiled at a desk and saved, and what is said of it can be said. -/
structure Compiled (screen : Screen) (choice : Choice) (sheet : Song.Sheet R) (output : Path)
    (desk : Desk S) (layout : Layout F) (song : Song R) (files : Files S) : Prop where
  composed : Composed screen choice sheet desk.journal layout song
  whole : ∀ c ∈ song.toText, c.isHalf = false
  stored : desk.files.Stores output (.text song.toText) files
  named : screen.Sayable (placeMarkup output)

variable {screen : Screen} {file : Path} {saving : Saving} {artist : Text} {tempo : R}
  {metre difficulty : Text} {choice : Choice} {before after : Console S} {files : Files S}

/-- The work of compiling goes well, and its warnings are printed. -/
theorem exists_leads_compiling {output : Path} {text : Text} {layout : Layout F} {song : Song R}
    (htext : before.desk.files.readText file = .ok text)
    (hcomposed : Composed screen choice
      (sheetOf file saving artist tempo metre difficulty choice text) before.desk.journal layout song)
    (hwhole : ∀ c ∈ song.toText, c.isHalf = false)
    (hstored : before.desk.files.Stores output (.text song.toText) files) :
    ∃ said, Leads (Run.guarded screen
      (compiling F S file saving artist tempo metre difficulty choice output)) before song said ∧
      said.desk.files = files := by
  obtain ⟨j, k, hlayout, hsong, hwarned⟩ := hcomposed
  let done : Console S := ⟨⟨k, files⟩, before.printed⟩
  obtain ⟨said, hsaid, hdesk⟩ :=
    Run.exists_leads_sayAll hwarned (Run.withGiven before.desk.journal.given done)
  refine ⟨said, ?_, ?_⟩
  · unfold compiling
    simp only [leads_bind, Run.leads_of, Run.leads_guarded, Run.leads_task, Run.leads_work,
      Task.leads_saveSong, Task.leads_files, leads_pure]
    exact ⟨done, ⟨layout, _, ⟨j, hlayout, rfl⟩, _, _, ⟨_, ⟨rfl, rfl⟩, rfl⟩, text, _, ⟨htext, rfl⟩,
      song, _, ⟨k, hsong, rfl⟩, (), _, ⟨_, ⟨hwhole, files, hstored, rfl⟩, rfl⟩, rfl, rfl⟩, hsaid⟩
  · rw [hdesk]
    rfl

variable [Scalar S] [Sample F S] {studio : Studio F R S}

/-- A song is compiled before anything is said of it. -/
theorem perform_compile :
    perform studio (.compile file saving artist tempo metre difficulty choice) = (do
      demand studio.screen file
      let output ← Run.of (saving.pathFor file)
      let song ← Run.guarded studio.screen
        (compiling F S file saving artist tempo metre difficulty choice output)
      Run.say studio.screen (countMarkup song)
      Run.say studio.screen (placeMarkup output)) := rfl

/-- **What compiling does when it goes well**: the file of the tablature is read, the song of it is
compiled, and how many notes it has is said before the place of the song. -/
theorem compiled_of_leads (hscreen : studio.screen.Lawful)
    (h : Leads (perform studio (.compile file saving artist tempo metre difficulty choice)) before ()
      after) :
    ∃ output text, saving.pathFor file = .ok output ∧ before.desk.files.readText file = .ok text ∧
      ∃ (layout : Layout F) (song : Song R),
        Compiled studio.screen choice (sheetOf file saving artist tempo metre difficulty choice text)
          output before.desk layout song after.desk.files ∧
        ∃ said last, after.printed = .text last :: .text (countMarkup song) :: said := by
  rw [perform_compile] at h
  unfold compiling at h
  simp only [leads_bind, leads_demand, Run.leads_of, Run.leads_guarded, Run.leads_task,
    Run.leads_work, Task.leads_saveSong, Task.leads_files, Run.leads_say, leads_pure] at h
  obtain ⟨_, _, ⟨hthere, rfl⟩, output, _, ⟨hpath, rfl⟩, _, _, ⟨_, ⟨layout, _, ⟨j, hlayout, rfl⟩, _,
    _, ⟨_, ⟨rfl, rfl⟩, rfl⟩, text, _, ⟨htext, rfl⟩, song, _, ⟨k, hsong, rfl⟩, _, _, ⟨_, ⟨hwhole,
    stored, hstored, rfl⟩, rfl⟩, rfl, rfl⟩, hsaid⟩, _, _, ⟨counted, ⟨hcounted, -⟩, rfl⟩, named, hnamed, rfl⟩ :=
    h
  obtain ⟨hwarned, hdesk⟩ := Run.sayable_of_leads_sayAll hsaid
  obtain rfl : countMarkup song = counted :=
    Except.ok.inj ((hscreen.shown_plain _ (isPlain_countMarkup song)).symm.trans hcounted)
  refine ⟨output, text, hpath, htext, layout, song,
    ⟨⟨j, k, hlayout, hsong, hwarned⟩, hwhole, ?_, named, hnamed⟩, _, named, rfl⟩
  rw [hdesk]
  exact hstored

/-- **Compiling goes well** just if the file of the tablature can be read and the song of it is
compiled. -/
theorem leads_compile (hscreen : studio.screen.Lawful) : (∃ after, Leads (perform studio
      (.compile file saving artist tempo metre difficulty choice)) before () after ∧
      after.desk.files = files) ↔
    ∃ output text, saving.pathFor file = .ok output ∧ before.desk.files.readText file = .ok text ∧
      ∃ (layout : Layout F) (song : Song R),
        Compiled studio.screen choice (sheetOf file saving artist tempo metre difficulty choice text)
          output before.desk layout song files := by
  constructor
  · rintro ⟨after, h, rfl⟩
    obtain ⟨output, text, hpath, htext, layout, song, hcompiled, -⟩ := compiled_of_leads hscreen h
    exact ⟨output, text, hpath, htext, layout, song, hcompiled⟩
  · rintro ⟨output, text, hpath, htext, layout, song, hcomposed, hwhole, hstored, named, hnamed⟩
    obtain ⟨said, hsaid, hfiles⟩ := exists_leads_compiling htext hcomposed hwhole hstored
    obtain ⟨counted, hcounted⟩ := hscreen.sayable_plain (isPlain_countMarkup song)
    rw [perform_compile]
    simp only [leads_bind, leads_demand, Run.leads_of, Run.leads_say]
    exact ⟨_, ⟨(), _, ⟨Task.contains_of_readText htext, rfl⟩, output, _, ⟨hpath, rfl⟩, song, said,
      hsaid, (), _, ⟨counted, hcounted, rfl⟩, named, hnamed, rfl⟩, hfiles⟩

/-! ## §3 Runs that format -/

/-- **Formatting goes well** if the song can be loaded, all its notes can be written and all that is
printed can be. The tablature is printed last, and the files stay as they are. -/
theorem exists_format {source : Text} {console : Console S} {layout : Layout F} {text : Text}
    {song : Song R} {grid : Grid R} {writing : Tab.Writing} {j : Journal}
    (hsource : Songbook.find? source = none)
    (hlayout : choice.layout.Gives { console.desk.journal with given := [] } layout j)
    (htext : console.desk.files.readText (Path.ofText source) = .ok text)
    (hsong : (Song.ofText text).Gives j song j)
    (hwarned : ∀ w ∈ j.warnings, studio.screen.Sayable (Run.warningMarkup studio.screen w))
    (hgrid : Grid.make song.tempo.scalar (.metre song.metre) = .ok grid)
    (hwriting : Tab.write layout grid song.notes = .ok writing) (hall : writing.unlabelled = [])
    (haccept : studio.screen.accept (.text writing.text) = .ok ()) :
    ∃ formatted, Leads (perform studio (.format source choice)) console () formatted ∧
      formatted.printed.head? = some (.text writing.text) ∧
      formatted.desk.files = console.desk.files := by
  let done : Console S := ⟨⟨j, console.desk.files⟩, console.printed⟩
  obtain ⟨said, hsaid, hdesk⟩ :=
    Run.exists_leads_sayAll hwarned (Run.withGiven console.desk.journal.given done)
  have hnone : writing.warnings = [] := by rw [Tab.Writing.warnings, if_pos hall]
  simp only [perform, songOf, hsource, Tab.writeWarning, leads_bind, Run.leads_of,
    Run.leads_guarded, Run.leads_task, Run.leads_work, Task.leads_loadSong, Run.leads_print,
    Work.gives_bind, Work.gives_of, Work.gives_pure, Work.gives_warnAll]
  refine ⟨_, ⟨writing.text, said, ⟨done, ⟨layout, _, ⟨j, hlayout, rfl⟩, song, _, ⟨_, ⟨text, j, htext,
    hsong, rfl⟩, rfl⟩, grid, _, ⟨hgrid, rfl⟩, j, ⟨writing, j, ⟨hwriting, rfl⟩, (), _, ?_, rfl, rfl⟩,
    rfl⟩, hsaid⟩, haccept, rfl⟩, rfl, ?_⟩
  · rw [hnone]
    rfl
  · show said.desk.files = console.desk.files
    rw [hdesk]
    rfl

end

end Command

end Lamella
