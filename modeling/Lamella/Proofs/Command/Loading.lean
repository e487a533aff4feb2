import Lamella.Proofs.Command.Formatting
import Lamella.Proofs.Song.Reread

/-!
# Songs that can be loaded

A command that makes a song of a file saves it so that it can be loaded, with as many notes as the
command says. It does not matter which tempo was asked for: a tempo that is no finite number is
written by name and read back.

## Main definitions

- `Files.HoldsSong`: a file holds a song of so many notes.
- `Command.Counts`: what was printed says how many notes there are.

## Main statements

- `Song.Draft.IsNew.holdsSong`: a saved song of new notes can be loaded.
- `Command.holdsSong_of_compile`, `Command.holdsSong_of_importMidi`,
  `Command.holdsSong_of_transcribe`: so can the songs that commands make of files.
-/

namespace Lamella

variable {F R S : Type} [Scalar R]

/-! ## §1 Files of songs -/

/-- A file holds a song of so many notes: it is loaded, whatever the journal. -/
def Files.HoldsSong (R : Type) [Scalar R] (files : Files S) (p : Path) (count : Nat) : Prop :=
  ∀ journal : Journal, ∃ (song : Song R) (desk : Desk S),
    Leads (Task.loadSong p) ⟨journal, files⟩ song desk ∧ song.notes.length = count

/-- The last but one of what was printed says how many notes there are. -/
def Command.Counts (what : Text) (count : Nat) (printed : List Printed) : Prop :=
  ∃ said rest last, printed =
    said ++ [.text ("  " ++ what ++ " " ++ toString count ++ " notes" ++ rest), .text last]

section

variable [Scalar.Legible R] [Scalar.Named R] [Scalar.Comparable R]

/-- **A saved song of new notes can be loaded.** -/
theorem Song.Draft.IsNew.holdsSong {l : Layout F} {d : Song.Draft R} {s : Song R} {j j' : Journal}
    (hd : d.IsNew l) (h : (Song.make d).Gives j s j') (htempo : ∃ x, d.tempo = .measured x)
    (htitle : d.title ≠ []) (hid : d.id ≠ some [])
    (hmetre : ∀ m, d.metre.resolve = .ok m → (toString m.numerator).length ≤ Decimal.digitLimit)
    (hsize : l.size < 10 ^ Decimal.digitLimit)
    (hnow : (Nat.toDigits 10 j.now.natAbs).length ≤ Decimal.digitLimit) {files files' : Files S}
    {output : Path} (hstored : files.Stores output (.text s.toText) files') :
    files'.HoldsSong R output d.notes.length := by
  intro journal
  obtain ⟨t, k, hgives, hlength⟩ :=
    hd.exists_ofText h htempo htitle hid hmetre hsize hnow journal
  exact ⟨t, _, Task.leads_loadSong.mpr ⟨_, k, hstored.readText_song, hgives, rfl⟩, hlength⟩

end

namespace Command

variable [Analytic F] [Scalar.Legible R] [Scalar.Named R] [Scalar.Comparable R]

/-- So can the song of notes that were heard. -/
theorem holdsSong_of_leads_saveNotes {t : Transcription F R} {notes : List (Note R)} {title : Text}
    {output : Path} {console console' : Console S} {u : Unit}
    (h : Leads (saveNotes t notes title output) console u console')
    (hnotes : ∀ n ∈ notes, n.IsNew t.layout) (htitle : title ≠ [])
    (hmetre : (toString t.metre.numerator).length ≤ Decimal.digitLimit)
    (hsize : t.layout.size < 10 ^ Decimal.digitLimit)
    (hnow : (Nat.toDigits 10 console.desk.journal.now.natAbs).length ≤ Decimal.digitLimit) :
    console'.desk.files.HoldsSong R output notes.length := by
  obtain ⟨song, _, hmade, hsaved⟩ := leads_bind.mp h
  obtain ⟨j, hsong, rfl⟩ := Run.leads_work.mp hmade
  obtain ⟨_, hleads, rfl⟩ := Run.leads_task.mp hsaved
  obtain ⟨-, files, hstored, rfl⟩ := Task.leads_saveSong.mp hleads
  obtain ⟨tab, k, -, hclock, hnew, hmake⟩ := Transcription.made_of_song hnotes ⟨_, rfl⟩ hsong
  refine hnew.holdsSong hmake ⟨_, rfl⟩ htitle nofun ?_ hsize (hclock ▸ hnow) hstored
  intro m hm
  cases hm
  exact hmetre

end Command

/-! ## §2 What commands read -/

/-- An instrument is laid out in no time. -/
theorem Choice.now_of_layout [Analytic F] {choice : Choice} {l : Layout F} {j j' : Journal}
    (h : choice.layout.Gives j l j') : j'.now = j.now := by
  obtain ⟨ws, honly, -⟩ := Preset.exists_generate h
  obtain ⟨-, rfl⟩ := h.unique (honly j)
  rfl

/-- The numbers of its keys can be read. -/
theorem Choice.size_lt_of_layout [Analytic F] {choice : Choice} {l : Layout F} {j j' : Journal}
    (h : choice.layout.Gives j l j') : l.size < 10 ^ Decimal.digitLimit :=
  lt_of_le_of_lt (Preset.size_le h) (by decide +kernel)

/-- Parts are loaded from a file, and nothing else is done. -/
theorem Task.names_of_leads_loadParts [Scalar S] {p : Path} {formats : Formats R S}
    {parts : List (Midi.Part R)} {desk desk' : Desk S}
    (h : Leads (Task.loadParts p formats) desk parts desk') : p.names ≠ [] ∧ desk' = desk := by
  unfold Task.loadParts at h
  obtain ⟨there, _, hthere, h⟩ := leads_bind.mp h
  obtain ⟨-, rfl⟩ := Task.leads_contains.mp hthere
  cases there with
  | false => exact absurd h not_leads_throw
  | true =>
    simp only [if_true, leads_bind, Task.leads_files, Task.leads_of] at h
    obtain ⟨_, _, ⟨rfl, rfl⟩, content, _, ⟨hread, rfl⟩, -, rfl⟩ := h
    exact ⟨Files.names_ne_nil_of_read hread, rfl⟩

omit [Scalar R] in
/-- So is a recording. -/
theorem Task.names_of_leads_loadRecording {p : Path} {formats : Formats R S}
    {recording : Recording S} {desk desk' : Desk S}
    (h : Leads (Task.loadRecording p formats) desk recording desk') :
    p.names ≠ [] ∧ desk' = desk := by
  unfold Task.loadRecording at h
  simp only [leads_bind, Task.leads_files, Task.leads_of] at h
  obtain ⟨_, _, ⟨rfl, rfl⟩, q, _, ⟨hchecked, rfl⟩, content, _, ⟨hread, rfl⟩, -, rfl⟩ := h
  have hsame : p = q := by
    obtain ⟨there, -, hcheck⟩ := Except.bind_eq_ok.mp hchecked
    split at hcheck
    · split at hcheck
      · exact Except.ok.inj hcheck
      · cases hcheck
    · cases hcheck
  subst hsame
  exact ⟨Files.names_ne_nil_of_read hread, rfl⟩

/-- Listening takes no time. -/
theorem Transcription.now_of_listen [Analytic F] {t : Transcription F R}
    {ear : Nat → Thresholds F → Except Fault (List (HeardNote F R))} {passes : Passes F R}
    {j j' : Journal} (h : (t.listen ear).Gives j passes j') : j'.now = j.now := by
  unfold listen at h
  split at h
  · obtain ⟨-, rfl⟩ := Work.gives_pure.mp h
    rfl
  · split at h
    · obtain ⟨_, k, hwarned, h⟩ := Work.gives_bind.mp h
      obtain ⟨-, rfl⟩ := Work.gives_pure.mp h
      rw [← Work.gives_warn.mp hwarned]
    · obtain ⟨-, rfl⟩ := Work.gives_pure.mp h
      rfl

/-! ## §3 Songs that commands save -/

namespace Command

/-- How many notes there are is said last but one. -/
theorem counts_of_leads_sayNotes {screen : Screen} (hscreen : screen.Lawful) {what : Text}
    (hwhat : what.IsPlain) {count : Nat} {output : Path} {console console' : Console S}
    (h : Leads (sayNotes screen what count output) console () console') :
    Counts what count console'.printed.reverse ∧ console'.desk = console.desk := by
  obtain ⟨_, _, hcount, hplace⟩ := leads_bind.mp h
  obtain ⟨counted, ⟨hcounted, -⟩, rfl⟩ := Run.leads_say.mp hcount
  obtain ⟨placed, -, rfl⟩ := Run.leads_say.mp hplace
  cases (hscreen.shown_plain _ (Text.isPlain_counted hwhat count)).symm.trans hcounted
  refine ⟨⟨console.printed.reverse, Text.ofString "", placed, ?_⟩, rfl⟩
  have hnothing : Text.ofString "" = [] := rfl
  rw [hnothing, List.append_nil, List.reverse_cons, List.reverse_cons, List.append_assoc]
  rfl

/-- So it is of a song that was compiled. -/
theorem counts_of_compiled {song : Song R} {printed said : List Printed} {last : Text}
    (h : printed = .text last :: .text (countMarkup song) :: said) :
    Counts "Compiled" song.notes.length printed.reverse := by
  refine ⟨said.reverse, ", " ++ Scalar.fixed 2 (Song.durationOf song.notes) ++ "s", last, ?_⟩
  have hmarkup : countMarkup song = Text.ofString "  " ++ Text.ofString "Compiled" ++
      Text.ofString " " ++ toString song.notes.length ++ Text.ofString " notes" ++
      (Text.ofString ", " ++ Text.ofString (Scalar.fixed 2 (Song.durationOf song.notes)) ++
        Text.ofString "s") := by
    have hword : Text.ofString "  Compiled " = Text.ofString "  " ++ Text.ofString "Compiled" ++
      Text.ofString " " := by decide
    have hnotes : Text.ofString " notes, " = Text.ofString " notes" ++ Text.ofString ", " := by decide
    unfold countMarkup
    rw [hword, hnotes]
    simp only [List.append_assoc]
  rw [h, hmarkup, List.reverse_cons, List.reverse_cons, List.append_assoc]
  rfl

/-- Notes that are saved and counted: the file of their song holds as many. -/
theorem holdsSong_of_counted {screen : Screen} (hscreen : screen.Lawful)
    {body : Run S (List (Note R))} {what : Text} {output : Path} {before after : Console S}
    (hwhat : what.IsPlain)
    (hbody : ∀ notes saved, Leads body (Run.withGiven [] before) notes saved →
      saved.desk.files.HoldsSong R output notes.length)
    (h : Leads (do sayNotes screen what (← Run.guarded screen body).length output) before ()
      after) :
    ∃ count, after.desk.files.HoldsSong R output count ∧ Counts what count after.printed.reverse := by
  obtain ⟨notes, said, hguarded, hsaid⟩ := leads_bind.mp h
  obtain ⟨saved, hsaved, hwarned⟩ := Run.leads_guarded.mp hguarded
  obtain ⟨-, hdesk⟩ := Run.sayable_of_leads_sayAll hwarned
  obtain ⟨hcounts, hkept⟩ := counts_of_leads_sayNotes hscreen hwhat hsaid
  refine ⟨notes.length, ?_, hcounts⟩
  rw [hkept, hdesk]
  exact hbody notes saved hsaved

/-- The metre of heard songs can be read. -/
theorem length_transcriptMetre_le :
    (toString transcriptMetre.numerator).length ≤ Decimal.digitLimit := by decide +kernel

section

variable [Analytic F] [Scalar S] [Sample F S] [Scalar.Legible R] [Scalar.Named R]
  [Scalar.Comparable R] {studio : Studio F R S} {file : Text} {saving : Saving} {tempo : R}
  {choice : Choice} {before after : Console S}

/-- **A file of tablature is compiled to a song that can be loaded.** -/
theorem holdsSong_of_compile (hscreen : studio.screen.Lawful) {artist metre difficulty : Text}
    (hnow : (Nat.toDigits 10 before.desk.journal.now.natAbs).length ≤ Decimal.digitLimit)
    (h : Leads (perform studio
      (.compile (Path.ofText file) saving artist tempo metre difficulty choice)) before () after) :
    ∃ output count, saving.pathFor (Path.ofText file) = .ok output ∧
      after.desk.files.HoldsSong R output count ∧ Counts "Compiled" count after.printed.reverse := by
  obtain ⟨output, text, hpath, htext, layout, song, hcompiled, said, last, hprinted⟩ :=
    compiled_of_leads hscreen h
  obtain ⟨⟨j, k, hlayout, hsong, -⟩, -, hstored, -⟩ := hcompiled
  obtain ⟨g, reading, i, hgrid, -, hclock, hnew, hmake⟩ :=
    Song.made_of_compose ⟨artist, rfl⟩ (tuning_sheetOf _ _ _ _ _ _ _ _) hsong
  refine ⟨output, song.notes.length, hpath, ?_, counts_of_compiled hprinted⟩
  rw [(Song.madeOf_of_null hnew.null hmake).length_notes]
  refine hnew.holdsSong hmake ⟨tempo, rfl⟩ ?_ nofun ?_ (Choice.size_lt_of_layout hlayout) ?_ hstored
  · exact saving.titleFor_ne_nil (Files.names_ne_nil_of_readText htext)
  · intro m hm
    cases hm
    exact Metre.length_numerator_le (Grid.resolve_of_make hgrid)
  · rw [hclock, Choice.now_of_layout hlayout]
    exact hnow

/-- **So is a MIDI file.** -/
theorem holdsSong_of_importMidi (hscreen : studio.screen.Lawful) {transpose : Int}
    (hnow : (Nat.toDigits 10 before.desk.journal.now.natAbs).length ≤ Decimal.digitLimit)
    (h : Leads (perform studio (.importMidi (Path.ofText file) saving tempo choice transpose)) before ()
      after) :
    ∃ output count, saving.pathFor (Path.ofText file) = .ok output ∧
      after.desk.files.HoldsSong R output count ∧ Counts "Mapped" count after.printed.reverse := by
  obtain ⟨output, _, hfound, hrest⟩ := leads_bind.mp h
  obtain ⟨hpath, rfl⟩ := Run.leads_of.mp hfound
  have hwhat : (Text.ofString "Mapped").IsPlain := Text.isPlain_ofString (by decide)
  have hcounted : ∃ count, after.desk.files.HoldsSong R output count ∧
      Counts "Mapped" count after.printed.reverse := by
    refine holdsSong_of_counted hscreen hwhat (fun notes saved hsaved => ?_) hrest
    simp only [leads_bind, Run.leads_of, Run.leads_work, Run.leads_task, leads_pure] at hsaved
    obtain ⟨l, _, ⟨j, hlayout, rfl⟩, thresholds, _, ⟨-, rfl⟩, _, _, ⟨-, rfl⟩, parts, _,
      ⟨_, hparts, rfl⟩, notes, _, ⟨hmapped, rfl⟩, _, _, hsaved, rfl, rfl⟩ := hsaved
    obtain ⟨heard, -, hnotes⟩ := Except.bind_eq_ok.mp hmapped
    obtain ⟨hnames, rfl⟩ := Task.names_of_leads_loadParts hparts
    refine holdsSong_of_leads_saveNotes hsaved (Transcription.isNew_of_notesOf hnotes)
      (saving.titleFor_ne_nil hnames) length_transcriptMetre_le
      (Choice.size_lt_of_layout hlayout) ?_
    exact (Choice.now_of_layout hlayout) ▸ hnow
  obtain ⟨count, hholds⟩ := hcounted
  exact ⟨output, count, hpath, hholds⟩

/-- **And a recording.** -/
theorem holdsSong_of_transcribe (hscreen : studio.screen.Lawful) {onset frame : F}
    {frames transpose : Int}
    (hnow : (Nat.toDigits 10 before.desk.journal.now.natAbs).length ≤ Decimal.digitLimit)
    (h : Leads (perform studio (.transcribe (Path.ofText file) saving tempo choice onset frame frames
      transpose)) before () after) :
    ∃ output count, saving.pathFor (Path.ofText file) = .ok output ∧
      after.desk.files.HoldsSong R output count ∧ Counts "Detected" count after.printed.reverse := by
  obtain ⟨_, _, hdemanded, h⟩ := leads_bind.mp h
  obtain ⟨-, rfl⟩ := leads_demand.mp hdemanded
  obtain ⟨output, _, hfound, hrest⟩ := leads_bind.mp h
  obtain ⟨hpath, rfl⟩ := Run.leads_of.mp hfound
  have hwhat : (Text.ofString "Detected").IsPlain := Text.isPlain_ofString (by decide)
  have hcounted : ∃ count, after.desk.files.HoldsSong R output count ∧
      Counts "Detected" count after.printed.reverse := by
    refine holdsSong_of_counted hscreen hwhat (fun notes saved hsaved => ?_) hrest
    simp only [leads_bind, Run.leads_of, Run.leads_work, Run.leads_task, leads_pure] at hsaved
    obtain ⟨thresholds, _, ⟨-, rfl⟩, l, _, ⟨j, hlayout, rfl⟩, _, _, hsaid, loaded, _,
      ⟨_, hloaded, rfl⟩, recording, _, ⟨-, rfl⟩, passes, _, ⟨k, hpasses, rfl⟩, notes, _,
      ⟨hheard, rfl⟩, _, _, hsaved, rfl, rfl⟩ := hsaved
    obtain ⟨shown, -, rfl⟩ := Run.leads_say.mp hsaid
    obtain ⟨hnames, rfl⟩ := Task.names_of_leads_loadRecording hloaded
    refine holdsSong_of_leads_saveNotes hsaved (Transcription.isNew_of_listen hpasses hheard)
      (saving.titleFor_ne_nil hnames) length_transcriptMetre_le
      (Choice.size_lt_of_layout hlayout) ?_
    exact ((Transcription.now_of_listen hpasses).trans (Choice.now_of_layout hlayout)) ▸ hnow
  obtain ⟨count, hholds⟩ := hcounted
  exact ⟨output, count, hpath, hholds⟩

end

end Command

end Lamella
