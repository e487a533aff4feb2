import Lamella.Proofs.Command.Compiling
import Lamella.Proofs.Command.Sparing
import Lamella.Proofs.Song.Reread

/-!
# Commands that fail

A command does all that can fail before it writes, and then writes and says where. So a command that
fails has changed no file, if its files can be written at all and what it says last can be said. The
path in what it says last is not escaped, and may have no bytes: a path that reads as a closing tag,
or that cannot be printed, makes a command fail after it has written.

## Main definitions

- `Command.outputs`, `Command.words`: the files that a command writes, and the texts that it puts
  into them and into warnings.
- `Command.closing?`: what a command says last.
- `Command.Writes`: the files of a command can be written.

## Main statements

- `Command.spares_saveNotes`: the song of new notes is saved, or the files are spared.
- `Command.spares_perform`: a command that fails spares the files.
- `Command.sayable_of_leads`: a command that goes well has said what it says last.
-/

namespace Lamella

/-! ## §1 What commands write -/

namespace Command

variable {F R : Type}

/-- The files that a command writes, in order. -/
def outputs : Command F R → List Path
  | .compile file saving .. | .transcribe file saving .. | .importMidi file saving .. =>
    (saving.pathFor file).toOption.toList
  | .songs (some folder) _ => Songbook.entries.map fun e => folder.child (e.id ++ ".json")
  | .render _ output _ | .exportMidi _ output _ => [output]
  | _ => []

/-- The texts of a command that go into the song that it saves, or into what it warns of when it has
written. -/
def words : Command F R → List Text
  | .compile file saving artist _ _ _ choice => saving.titleFor file :: artist :: choice.root.toList
  | .transcribe file saving _ choice .. | .importMidi file saving _ choice _ =>
    saving.titleFor file :: choice.root.toList
  | .render _ _ choice | .exportMidi _ _ choice => choice.root.toList
  | _ => []

/-- What is said of a folder where the songs of the book were saved. -/
def songsMarkup (folder : Path) : Text :=
  "[green]Exported " ++ toString Songbook.entries.length ++ " songs to:[/green]" ++ " " ++ folder.text

/-- What a command says last, if it says where it has written. -/
def closing? : Command F R → Option Text
  | .compile file saving .. | .transcribe file saving .. | .importMidi file saving .. =>
    (saving.pathFor file).toOption.map placeMarkup
  | .songs (some folder) _ => some (songsMarkup folder)
  | .render _ output _ => some ("[green]Rendered:[/green]" ++ " " ++ output.text)
  | .exportMidi _ output _ => some ("[green]Exported:[/green]" ++ " " ++ output.text)
  | _ => none

/-- **The files of a command can be written**: no text of them has a half, which has no bytes, and
there is room for every file after the first, those of a recording included. -/
structure Writes {S : Type} [Scalar R] (studio : Studio F R S) (command : Command F R)
    (files : Files S) : Prop where
  words : ∀ s ∈ command.words, ∀ p ∈ s, p.isHalf = false
  texts : ∀ p s, files.readText p = .ok s → ∀ q ∈ s, q.isHalf = false
  outputs : ∀ p ∈ command.outputs.tail, files.Accepts p
  sounds : ∀ source output choice, command = .render source output choice →
    ∀ recording kept, studio.formats.filesOf output recording = .ok kept →
      ∀ file ∈ kept.tail, file.1.parent = output.parent ∧ files.Accepts file.1

end Command

/-! ## §2 Runs that spare the files -/

namespace Run

variable {S : Type} {console console' : Console S}

theorem leads_files {files : Files S} : Leads (task Task.files) console files console' ↔
    console.desk.files = files ∧ console = console' := by
  simp only [leads_task, Task.leads_files]
  constructor
  · rintro ⟨desk, ⟨rfl, rfl⟩, rfl⟩
    exact ⟨rfl, rfl⟩
  · rintro ⟨rfl, rfl⟩
    exact ⟨_, ⟨rfl, rfl⟩, rfl⟩

theorem files_of_leads_work {α : Type} {w : Work α} {a : α}
    (h : Leads (work w : Run S α) console a console') : console'.desk.files = console.desk.files := by
  obtain ⟨j, -, rfl⟩ := leads_work.mp h
  rfl

end Run

namespace Command

/-! ## §3 Commands that write nothing -/

section

variable {F R S : Type} [Scalar R]

theorem leaves_demand (screen : Screen) (p : Path) (console : Console S) :
    Leaves (demand screen p : Run S Unit) console := by
  unfold demand endMissing
  refine (Run.leaves_task (Task.leaves_contains p console.desk)).bind fun there console' _ => ?_
  cases there with
  | true => exact leaves_pure _ _
  | false => exact (Run.leaves_say _ _ _).bind fun _ _ _ => leaves_throw _ _

theorem leaves_songOf (l : Layout F) (source : Text) (console : Console S) :
    Leaves (songOf l source : Run S (Song R)) console := by
  unfold songOf
  cases Songbook.find? source with
  | some entry => exact Run.leaves_work _ _
  | none => exact Run.leaves_task (Task.leaves_loadSong _ _)

theorem files_of_leads_songOf {l : Layout F} {source : Text} {song : Song R}
    {console console' : Console S} (h : Leads (songOf l source) console song console') :
    console'.desk.files = console.desk.files := by
  unfold songOf at h
  cases hfound : Songbook.find? source with
  | some entry =>
    rw [hfound] at h
    exact Run.files_of_leads_work h
  | none =>
    rw [hfound] at h
    obtain ⟨_, hload, rfl⟩ := Run.leads_task.mp h
    obtain ⟨text, j, -, -, rfl⟩ := Task.leads_loadSong.mp hload
    rfl

theorem addsWhole_songOf (l : Layout F) (source : Text) :
    AddsWhole (songOf l source : Run S (Song R)) := by
  unfold songOf
  cases Songbook.find? source with
  | some entry => exact Run.addsWhole_work (Song.addsWhole_compose _ _)
  | none => exact Run.addsWhole_task (Task.addsWhole_loadSong _)

theorem leaves_sayPath (screen : Screen) (what : Text) (p : Path) (console : Console S) :
    Leaves (sayPath screen what p : Run S Unit) console := Run.leaves_say _ _ _

/-- What is said after notes were saved can be said if the path can. -/
theorem exists_leads_sayNotes {screen : Screen} (hscreen : screen.Lawful) {what : Text}
    (hwhat : what.IsPlain) (count : Nat) {output : Path}
    (houtput : screen.Sayable (placeMarkup output)) (console : Console S) :
    ∃ console', Leads (sayNotes screen what count output : Run S Unit) console () console' := by
  obtain ⟨counted, hcounted, -⟩ :=
    Run.exists_leads_say (hscreen.sayable_plain (Text.isPlain_counted hwhat count)) console
  obtain ⟨last, hlast, -⟩ := Run.exists_leads_say houtput counted
  exact ⟨last, leads_bind.mpr ⟨(), counted, hcounted, hlast⟩⟩

theorem addsWhole_saveNotes [Analytic F] (t : Transcription F R) (notes : List (Note R))
    (title : Text) (output : Path) : AddsWhole (saveNotes t notes title output : Run S Unit) :=
  (Run.addsWhole_work (Transcription.addsWhole_song _ _ _ _)).bind fun _ =>
    Run.addsWhole_task (Task.addsWhole_saveSong _ _)

/-- The song of new notes is saved, or the files are spared. -/
theorem spares_saveNotes [Analytic F] {t : Transcription F R} {notes : List (Note R)} {title : Text}
    (hnotes : ∀ n ∈ notes, n.IsNew t.layout) (htitle : ∀ p ∈ title, p.isHalf = false) (output : Path)
    (console : Console S) : Spares (saveNotes t notes title output) console := by
  refine (Run.leaves_work _ _).bind_spares fun song _ hmade => ?_
  obtain ⟨j, hsong, rfl⟩ := Run.leads_work.mp hmade
  have hname : ∀ p ∈ Text.ofString "Unknown", p.isHalf = false := Value.not_half_ofString "Unknown"
  exact Run.spares_task
    (Task.spares_saveSong (Transcription.not_half_song hnotes hsong htitle hname) _ _)

end

section

variable {F R S : Type} [Analytic F] [Scalar R] [Scalar S] [Sample F S] (studio : Studio F R S)
  (console : Console S)

theorem leaves_layout (choice : Choice) (scale : Text) (tines : Option Int) :
    Leaves (perform studio (.layout choice scale tines)) console :=
  (Run.leaves_guarded (fun _ => Run.leaves_work _ _) _).bind fun _ _ _ => Run.leaves_print _ _ _

theorem leaves_format (source : Text) (choice : Choice) :
    Leaves (perform studio (.format source choice)) console := by
  refine (Run.leaves_guarded (fun console => ?_) _).bind fun _ _ _ => Run.leaves_print _ _ _
  exact (Run.leaves_work _ _).bind fun l _ _ => (leaves_songOf l source _).bind fun _ _ _ =>
    (Run.leaves_of _ _).bind fun _ _ _ => Run.leaves_work _ _

theorem leaves_tune (frequencies : List F) (choice : Choice) (tolerance : F) :
    Leaves (perform studio (.tune frequencies choice tolerance)) console :=
  (Run.leaves_guarded (fun _ => Run.leaves_work _ _) _).bind fun _ _ _ =>
    (Run.leaves_of _ _).bind fun _ _ _ => Run.leaves_print _ _ _

theorem leaves_detect (file : Path) (choice : Choice) (tolerance : F) (block : Int) :
    Leaves (perform studio (.detect file choice tolerance block)) console := by
  refine (Run.leaves_guarded (fun console => ?_) _).bind fun _ _ _ => ?_
  · exact (Run.leaves_work _ _).bind fun l _ _ =>
      (Run.leaves_task (Task.leaves_loadRecording _ _ _)).bind fun _ _ _ =>
        (Run.leaves_of _ _).bind fun _ _ _ => leaves_pure _ _
  · exact (Run.leaves_of _ _).bind fun _ _ _ => (Run.leaves_of _ _).bind fun _ _ _ =>
      (Run.leaves_print _ _ _).bind fun _ _ _ => Run.leaves_say _ _ _

theorem leaves_songs (choice : Choice) :
    Leaves (perform studio (.songs none choice)) console := by
  refine (Run.leaves_guarded (fun console => ?_) _).bind fun _ _ _ => ?_
  · exact (Run.leaves_work _ _).bind fun l _ _ => Run.leaves_work _ _
  · exact (Run.leaves_print _ _ _).bind fun _ _ _ => leaves_pure _ _

/-! ## §4 Commands that save a song of a file -/

variable {studio console} {file : Path} {saving : Saving} {tempo : R} {choice : Choice}

theorem spares_compile {artist metre difficulty : Text} (hscreen : studio.screen.Lawful)
    (hwords : ∀ s ∈ saving.titleFor file :: artist :: choice.root.toList,
      ∀ p ∈ s, p.isHalf = false)
    (htexts : ∀ p s, console.desk.files.readText p = .ok s → ∀ q ∈ s, q.isHalf = false)
    (hclosing : ∀ output, saving.pathFor file = .ok output →
      studio.screen.Sayable (placeMarkup output)) :
    Spares (perform studio (.compile file saving artist tempo metre difficulty choice)) console := by
  obtain ⟨htitle, hwords⟩ := List.forall_mem_cons.mp hwords
  obtain ⟨hartist, hroot⟩ := List.forall_mem_cons.mp hwords
  have hroot : ∀ root ∈ choice.root, ∀ p ∈ root, p.isHalf = false :=
    fun root h => hroot root (Option.mem_toList.mpr h)
  refine (leaves_demand _ _ _).bind_spares fun _ _ hdemanded =>
    (Run.leaves_of _ _).bind_spares fun output _ houtput => ?_
  obtain ⟨-, rfl⟩ := leads_demand.mp hdemanded
  obtain ⟨hpath, rfl⟩ := Run.leads_of.mp houtput
  refine (Run.spares_guarded hscreen ?_ ?_).bind fun song said _ => ?_
  · exact (Run.addsWhole_work (Choice.addsWhole_layout hroot)).bind fun _ =>
      (Run.addsWhole_task Task.addsWhole_files).bind fun _ => (Run.addsWhole_of _).bind fun _ =>
        (Run.addsWhole_work (Song.addsWhole_compose _ _)).bind fun _ =>
          (Run.addsWhole_task (Task.addsWhole_saveSong _ _)).bind fun _ => addsWhole_pure _
  · -- The song is saved last, and its text can be made bytes since all that went into it can
    refine (Run.leaves_work _ _).bind_spares fun l _ hlayout =>
      (Run.leaves_task (Task.leaves_files _)).bind_spares fun files _ hfiles =>
        (Run.leaves_of _ _).bind_spares fun text _ hread =>
          (Run.leaves_work _ _).bind_spares fun song _ hcomposed => ?_
    obtain ⟨rfl, rfl⟩ := Run.leads_files.mp hfiles
    obtain ⟨htext, rfl⟩ := Run.leads_of.mp hread
    obtain ⟨j, hsong, rfl⟩ := Run.leads_work.mp hcomposed
    rw [Run.files_of_leads_work hlayout] at htext
    have hwhole : ∀ p ∈ song.toText, p.isHalf = false := by
      have htuning : ∀ p ∈ Value.write 1 (choice.root.elim .null .str : Value R),
          p.isHalf = false := by
        cases hchoice : choice.root with
        | none => exact Song.not_half_write_null 1
        | some root => exact (Song.not_half_write_str 1 root).mpr (hroot root hchoice)
      exact (Song.not_half_compose ⟨artist, rfl⟩
        (tuning_sheetOf file saving artist tempo metre difficulty choice text) rfl hsong).mpr
        ⟨htitle, (Song.not_half_write_str 1 artist).mpr hartist, htexts _ _ htext, htuning⟩
    exact (Run.spares_task (Task.spares_saveSong hwhole _ _)).bind fun _ _ _ =>
      ⟨song, _, leads_pure.mpr ⟨rfl, rfl⟩⟩
  · obtain ⟨counted, hcounted, -⟩ :=
      Run.exists_leads_say (hscreen.sayable_plain (isPlain_countMarkup song)) said
    obtain ⟨last, hlast, -⟩ := Run.exists_leads_say (hclosing output hpath) counted
    exact ⟨(), last, leads_bind.mpr ⟨(), counted, hcounted, hlast⟩⟩

theorem spares_importMidi {transpose : Int} (hscreen : studio.screen.Lawful)
    (hwords : ∀ s ∈ saving.titleFor file :: choice.root.toList, ∀ p ∈ s, p.isHalf = false)
    (hclosing : ∀ output, saving.pathFor file = .ok output →
      studio.screen.Sayable (placeMarkup output)) :
    Spares (perform studio (.importMidi file saving tempo choice transpose)) console := by
  obtain ⟨htitle, hroot⟩ := List.forall_mem_cons.mp hwords
  refine (Run.leaves_of _ _).bind_spares fun output _ houtput => ?_
  obtain ⟨hpath, rfl⟩ := Run.leads_of.mp houtput
  refine (Run.spares_guarded hscreen ?_ ?_).bind fun notes said _ => ?_
  · exact (Run.addsWhole_work (Choice.addsWhole_layout fun root h =>
      hroot root (Option.mem_toList.mpr h))).bind fun _ => (Run.addsWhole_of _).bind fun _ =>
        (Run.addsWhole_of _).bind fun _ =>
          (Run.addsWhole_task (Task.addsWhole_loadParts _ _)).bind fun _ =>
            (Run.addsWhole_of _).bind fun _ => (addsWhole_saveNotes _ _ _ _).bind fun _ =>
              addsWhole_pure _
  · refine (Run.leaves_work _ _).bind_spares fun l _ _ => (Run.leaves_of _ _).bind_spares
      fun thresholds _ _ => (Run.leaves_of _ _).bind_spares fun _ _ _ =>
        (Run.leaves_task (Task.leaves_loadParts _ _ _)).bind_spares fun parts _ _ =>
          (Run.leaves_of _ _).bind_spares fun notes _ hmapped => ?_
    obtain ⟨hmapped, -⟩ := Run.leads_of.mp hmapped
    obtain ⟨heard, -, hnotes⟩ := Except.bind_eq_ok.mp hmapped
    exact (spares_saveNotes (Transcription.isNew_of_notesOf hnotes) htitle output _).bind
      fun _ _ _ => ⟨notes, _, leads_pure.mpr ⟨rfl, rfl⟩⟩
  · have hwhat : (Text.ofString "Mapped").IsPlain := Text.isPlain_ofString (by decide)
    exact ⟨(), exists_leads_sayNotes hscreen hwhat notes.length (hclosing output hpath) said⟩

theorem spares_transcribe {onset frame : F} {frames transpose : Int}
    (hscreen : studio.screen.Lawful)
    (hwords : ∀ s ∈ saving.titleFor file :: choice.root.toList, ∀ p ∈ s, p.isHalf = false)
    (hclosing : ∀ output, saving.pathFor file = .ok output →
      studio.screen.Sayable (placeMarkup output)) :
    Spares (perform studio (.transcribe file saving tempo choice onset frame frames transpose))
      console := by
  obtain ⟨htitle, hroot⟩ := List.forall_mem_cons.mp hwords
  refine (leaves_demand _ _ _).bind_spares fun _ _ _ =>
    (Run.leaves_of _ _).bind_spares fun output _ houtput => ?_
  obtain ⟨hpath, -⟩ := Run.leads_of.mp houtput
  refine (Run.spares_guarded hscreen ?_ ?_).bind fun notes said _ => ?_
  · exact (Run.addsWhole_of _).bind fun _ => (Run.addsWhole_work (Choice.addsWhole_layout
      fun root h => hroot root (Option.mem_toList.mpr h))).bind fun _ =>
        (Run.addsWhole_say _ _).bind fun _ =>
          (Run.addsWhole_task (Task.addsWhole_loadRecording _ _)).bind fun _ =>
            (Run.addsWhole_of _).bind fun _ =>
              (Run.addsWhole_work (Transcription.addsWhole_listen _ _)).bind fun _ =>
                (Run.addsWhole_of _).bind fun _ => (addsWhole_saveNotes _ _ _ _).bind fun _ =>
                  addsWhole_pure _
  · refine (Run.leaves_of _ _).bind_spares fun thresholds _ _ => (Run.leaves_work _ _).bind_spares
      fun l _ _ => (leaves_sayPath _ _ _ _).bind_spares fun _ _ _ =>
        (Run.leaves_task (Task.leaves_loadRecording _ _ _)).bind_spares fun loaded _ _ =>
          (Run.leaves_of _ _).bind_spares fun recording _ _ => (Run.leaves_work _ _).bind_spares
            fun passes _ hlistened => (Run.leaves_of _ _).bind_spares fun notes _ hheard => ?_
    obtain ⟨j, hpasses, -⟩ := Run.leads_work.mp hlistened
    obtain ⟨hresult, -⟩ := Run.leads_of.mp hheard
    exact (spares_saveNotes (Transcription.isNew_of_listen hpasses hresult) htitle output _).bind
      fun _ _ _ => ⟨notes, _, leads_pure.mpr ⟨rfl, rfl⟩⟩
  · have hwhat : (Text.ofString "Detected").IsPlain := Text.isPlain_ofString (by decide)
    exact ⟨(), exists_leads_sayNotes hscreen hwhat notes.length (hclosing output hpath) said⟩

/-! ## §5 Commands that write other files -/

omit [Scalar S] [Sample F S] in
/-- The songs of the book are listed as its entries are called and without halves, and the files stay
as they are. -/
theorem listed_of_leads {screen : Screen} {songs : List (Song R)} {listed : Console S}
    (h : Leads (Run.guarded screen do
      let l : Layout F ← Run.work choice.layout
      Run.work (Songbook.songs l)) console songs listed) :
    listed.desk.files = console.desk.files ∧
      List.Forall₂ (fun e s => e ∈ Songbook.entries ∧ e.Names s) Songbook.entries songs ∧
      ∀ s ∈ songs, ∀ p ∈ s.toText, p.isHalf = false := by
  obtain ⟨after, hafter, hwarned⟩ := Run.leads_guarded.mp h
  obtain ⟨l, _, hlayout, hsongs⟩ := leads_bind.mp hafter
  obtain ⟨-, hdesk⟩ := Run.sayable_of_leads_sayAll hwarned
  obtain ⟨j, hgives, -⟩ := Run.leads_work.mp hsongs
  have hkept := Run.files_of_leads_work hlayout
  refine ⟨?_, Songbook.names_songs hgives⟩
  rw [hdesk]
  exact (Run.files_of_leads_work hsongs).trans hkept

omit [Analytic F] [Scalar S] [Sample F S] in
/-- The row of a song of the book is plain text. -/
theorem isPlain_songRow {e : Songbook.Entry} (he : e ∈ Songbook.entries) {s : Song R}
    (hs : e.Names s) : ∀ cell ∈ songRow s, cell.IsPlain := by
  have hall : ∀ e ∈ Songbook.entries, ∀ word ∈ [e.id, e.title, e.artist],
      (word.toList.all fun c => c ≠ '[' ∧ c ≠ '\\' ∧ c ≠ ':') = true := by decide +kernel
  have hword : ∀ word ∈ [e.id, e.title, e.artist], (Text.ofString word).IsPlain :=
    fun word hw => Text.isPlain_ofString (hall e he word hw)
  have hlevel : (Text.ofString s.difficulty.text).IsPlain := by
    cases s.difficulty <;> exact Text.isPlain_ofString (by decide)
  unfold songRow
  rw [hs.id, hs.title, hs.artist]
  simp only [List.forall_mem_cons]
  exact ⟨hword _ (by simp), hword _ (by simp), hword _ (by simp), Text.isPlain_general 6 _, hlevel,
    Text.isPlain_toString _, nofun⟩

omit [Analytic F] [Scalar S] [Sample F S] in
/-- So is the table of all of them. -/
theorem isPlain_songTable {songs : List (Song R)}
    (h : List.Forall₂ (fun e s => e ∈ Songbook.entries ∧ e.Names s) Songbook.entries songs)
    (title : String) (header : List String) (hwords : ∀ word ∈ title :: header,
      (word.toList.all fun c => c ≠ '[' ∧ c ≠ '\\' ∧ c ≠ ':') = true) :
    (Printed.table ⟨title, header.map Text.ofString, songs.map songRow⟩).points.IsPlain := by
  obtain ⟨htitle, hheader⟩ :=
    List.forall_mem_cons.mp fun word hw => Text.isPlain_ofString (hwords word hw)
  refine htitle.append (.flatten (List.forall_mem_append.mpr
    ⟨List.forall_mem_map.mpr hheader, fun cell hcell => ?_⟩))
  obtain ⟨row, hrow, hcell⟩ := List.mem_flatten.mp hcell
  obtain ⟨s, hs, rfl⟩ := List.mem_map.mp hrow
  obtain ⟨e, -, he, hnames⟩ := h.exists_left hs
  exact isPlain_songRow he hnames cell hcell

theorem spares_songs {folder : Path} (hscreen : studio.screen.Lawful)
    (haccepts : ∀ p ∈ (Command.songs (some folder) choice : Command F R).outputs.tail,
      console.desk.files.Accepts p)
    (hclosing : studio.screen.Sayable (songsMarkup folder)) :
    Spares (perform studio (.songs (some folder) choice)) console := by
  refine (Run.leaves_guarded (fun console => (Run.leaves_work _ _).bind fun _ _ _ =>
    Run.leaves_work _ _) _).bind_spares fun songs listed hlisted => ?_
  obtain ⟨hfiles, hnames, hwhole⟩ := listed_of_leads hlisted
  have hpaths : songs.map (fun s => folder.child (s.id ++ ".json")) =
      (Command.songs (some folder) choice : Command F R).outputs := by
    rw [← List.forall₂_eq_eq_eq, List.forall₂_map_left_iff]
    exact List.forall₂_map_right_iff.mpr (hnames.flip.imp fun s e h => by rw [h.2.id])
  -- The first song may not be saved, but then no other one was before
  have hsaved : Spares (Run.task (songs.forM fun s =>
      Task.saveSong (folder.child (s.id ++ ".json")) s)) listed := by
    refine Run.spares_task (Task.spares_saveAll hwhole _ fun song hsong => ?_)
    rw [hfiles]
    refine haccepts _ ?_
    rw [← hpaths, ← List.map_tail]
    exact List.mem_map_of_mem hsong
  refine hsaved.bind fun _ saved _ => ?_
  have htable := hscreen.accept_table _ (isPlain_songTable hnames "Built-in Songs"
    ["Id", "Title", "Artist", "BPM", "Difficulty", "Notes"] (by decide +kernel))
  -- As many songs are said to be there as the book has entries
  unfold songsMarkup at hclosing
  rw [hnames.length_eq] at hclosing
  obtain ⟨last, hlast, -⟩ :=
    Run.exists_leads_say hclosing { saved with printed := _ :: saved.printed }
  exact ⟨(), last, leads_bind.mpr ⟨(), _, Run.leads_print.mpr ⟨htable, rfl⟩, hlast⟩⟩

theorem spares_render {source : Text} {output : Path} (hscreen : studio.screen.Lawful)
    (hroot : ∀ s ∈ choice.root.toList, ∀ p ∈ s, p.isHalf = false)
    (haccepts : ∀ recording kept, studio.formats.filesOf output recording = .ok kept →
      ∀ file ∈ kept.tail, file.1.parent = output.parent ∧ console.desk.files.Accepts file.1)
    (hclosing : studio.screen.Sayable ("[green]Rendered:[/green]" ++ " " ++ output.text)) :
    Spares (perform studio (.render source output choice)) console := by
  refine (Run.spares_guarded hscreen ?_ ?_).bind fun _ said _ => ?_
  · exact (Run.addsWhole_work (Choice.addsWhole_layout fun root h =>
      hroot root (Option.mem_toList.mpr h))).bind fun _ => (addsWhole_songOf _ _).bind fun _ =>
        (Run.addsWhole_of _).bind fun _ => Run.addsWhole_task (Task.addsWhole_saveRecording _ _ _)
  · refine (Run.leaves_work _ _).bind_spares fun l _ hlayout =>
      (leaves_songOf l source _).bind_spares fun song _ hsong =>
        (Run.leaves_of _ _).bind_spares fun recording _ hrendered => ?_
    obtain ⟨-, rfl⟩ := Run.leads_of.mp hrendered
    -- There is room for what goes with the recording, as nothing was written yet
    have hfiles := (files_of_leads_songOf hsong).trans (Run.files_of_leads_work hlayout)
    refine Run.spares_task (Task.spares_saveRecording recording _ _ ?_)
    rw [hfiles]
    exact haccepts recording
  · obtain ⟨last, hlast, -⟩ := Run.exists_leads_say hclosing said
    exact ⟨(), last, hlast⟩

theorem spares_exportMidi {source : Text} {output : Path} (hscreen : studio.screen.Lawful)
    (hroot : ∀ s ∈ choice.root.toList, ∀ p ∈ s, p.isHalf = false)
    (hclosing : studio.screen.Sayable ("[green]Exported:[/green]" ++ " " ++ output.text)) :
    Spares (perform studio (.exportMidi source output choice)) console := by
  refine (Run.spares_guarded hscreen ?_ ?_).bind fun _ said _ => ?_
  · refine (Run.addsWhole_work (Choice.addsWhole_layout fun root h =>
      hroot root (Option.mem_toList.mpr h))).bind_of_leads fun _ l _ hlayout => ?_
    obtain ⟨j, hgives, -⟩ := Run.leads_work.mp hlayout
    exact (addsWhole_songOf _ _).bind fun _ => (Run.addsWhole_work
      (Midi.addsWhole_ofSong (Choice.not_half_name hgives) _ _ _ _)).bind fun _ =>
        Run.addsWhole_task (Task.addsWhole_savePiece _ _ _)
  · exact (Run.leaves_work _ _).bind_spares fun l _ _ =>
      (leaves_songOf l source _).bind_spares fun song _ _ => (Run.leaves_work _ _).bind_spares
        fun piece _ _ => Run.spares_task (Task.spares_savePiece output piece _ _)
  · obtain ⟨last, hlast, -⟩ := Run.exists_leads_say hclosing said
    exact ⟨(), last, hlast⟩

/-! ## §6 All commands -/

/-- **A command that fails spares the files**, if its files can be written and what it says last can be
said. -/
theorem spares_perform {command : Command F R} (hscreen : studio.screen.Lawful)
    (hwrites : command.Writes studio console.desk.files)
    (hclosing : ∀ markup ∈ command.closing?, studio.screen.Sayable markup) :
    Spares (perform studio command) console := by
  -- Where a song of a file is saved is what is said last
  have hsaved {file : Path} {saving : Saving}
      (h : command.closing? = (saving.pathFor file).toOption.map placeMarkup) :
      ∀ output, saving.pathFor file = .ok output →
        studio.screen.Sayable (placeMarkup output) := by
    intro output hpath
    refine hclosing _ ?_
    rw [h, hpath]
    rfl
  cases command with
  | help => exact (Run.leaves_forM (fun _ _ => Run.leaves_say _ _ _) _ _).spares
  | layout choice scale tines => exact (leaves_layout studio console choice scale tines).spares
  | presets => exact (Run.leaves_print _ _ _).spares
  | compile file saving artist tempo metre difficulty choice =>
    exact spares_compile hscreen hwrites.words hwrites.texts (hsaved rfl)
  | format source choice => exact (leaves_format studio console source choice).spares
  | tune frequencies choice tolerance =>
    exact (leaves_tune studio console frequencies choice tolerance).spares
  | detect file choice tolerance block =>
    exact (leaves_detect studio console file choice tolerance block).spares
  | songs folder choice =>
    cases folder with
    | none => exact (leaves_songs studio console choice).spares
    | some folder => exact spares_songs hscreen hwrites.outputs (hclosing _ rfl)
  | transcribe file saving tempo choice onset frame frames transpose =>
    exact spares_transcribe hscreen hwrites.words (hsaved rfl)
  | importMidi file saving tempo choice transpose =>
    exact spares_importMidi hscreen hwrites.words (hsaved rfl)
  | render source output choice =>
    exact spares_render hscreen hwrites.words (hwrites.sounds _ _ _ rfl) (hclosing _ rfl)
  | exportMidi source output choice => 
    exact spares_exportMidi hscreen hwrites.words (hclosing _ rfl)

/-! ## §7 What is said last -/

variable {before after : Console S}

omit [Scalar S] [Sample F S] [Analytic F] [Scalar R] in
/-- Where a song was saved was said. -/
theorem sayable_of_leads_sayNotes {screen : Screen} {what : Text} {count : Nat} {output : Path}
    (h : Leads (sayNotes screen what count output) before () after) :
    screen.Sayable (placeMarkup output) := by
  obtain ⟨_, _, -, hplace⟩ := leads_bind.mp h
  exact Run.sayable_of_leads_say hplace

/-- **A command that goes well has said what it says last.** -/
theorem sayable_of_leads {command : Command F R} (hscreen : studio.screen.Lawful)
    (h : Leads (perform studio command) before () after) :
    ∀ markup ∈ command.closing?, studio.screen.Sayable markup := by
  have hplace {file output : Path} {saving : Saving} (hpath : saving.pathFor file = .ok output)
      (hsayable : studio.screen.Sayable (placeMarkup output)) :
      ∀ markup ∈ (saving.pathFor file).toOption.map placeMarkup,
        studio.screen.Sayable markup := by
    rw [hpath]
    rintro markup ⟨⟩
    exact hsayable
  cases command with
  | compile file saving artist tempo metre difficulty choice =>
    obtain ⟨output, text, hpath, -, layout, song, hcompiled, -⟩ := compiled_of_leads hscreen h
    exact hplace hpath hcompiled.named
  | transcribe file saving tempo choice onset frame frames transpose =>
    obtain ⟨_, _, -, h⟩ := leads_bind.mp h
    obtain ⟨output, _, hfound, h⟩ := leads_bind.mp h
    obtain ⟨notes, _, -, h⟩ := leads_bind.mp h
    exact hplace (Run.leads_of.mp hfound).1 (sayable_of_leads_sayNotes h)
  | importMidi file saving tempo choice transpose =>
    obtain ⟨output, _, hfound, h⟩ := leads_bind.mp h
    obtain ⟨notes, _, -, h⟩ := leads_bind.mp h
    exact hplace (Run.leads_of.mp hfound).1 (sayable_of_leads_sayNotes h)
  | songs folder choice =>
    cases folder with
    | none => exact nofun
    | some folder =>
      obtain ⟨songs, _, hlisted, h⟩ := leads_bind.mp h
      obtain ⟨_, _, -, h⟩ := leads_bind.mp h
      obtain ⟨_, _, -, h⟩ := leads_bind.mp h
      obtain ⟨-, hnames, -⟩ := listed_of_leads hlisted
      rintro markup ⟨⟩
      unfold songsMarkup
      rw [hnames.length_eq]
      exact Run.sayable_of_leads_say h
  | render source output choice =>
    obtain ⟨_, _, -, h⟩ := leads_bind.mp h
    rintro markup ⟨⟩
    exact Run.sayable_of_leads_say h
  | exportMidi source output choice =>
    obtain ⟨_, _, -, h⟩ := leads_bind.mp h
    rintro markup ⟨⟩
    exact Run.sayable_of_leads_say h
  | _ => exact nofun

end

end Command

end Lamella
