import Lamella.Proofs.Command.Compiling
import Lamella.Proofs.Command.Terminal
import Lamella.Proofs.Command.Warnings
import Lamella.Proofs.Layout.Presets
import Lamella.Proofs.Scalar.Octaves
import Lamella.Proofs.Song.Reprinted
import Lamella.Proofs.Song.Reread

/-!
# Compiling what is printed

A song that was compiled can be formatted, and the tablature that is printed can be compiled in place
of the one it was compiled from. Printed lines are folded at the width of the screen, though, and a
chord that is wider is torn there. If none is, the second song has the same notes as the first; if
one is, notes are lost.

## Main definitions

- `Command.Recompiled`: what becomes of the tablature that is printed of a compiled song.
- `Command.chordText`, `Command.chordDesk`: a tablature of one chord, and a desk with it.

## Main statements

- `Command.recompiled_of_compiled`: a compiled song is formatted and compiled again so.
- `Command.exists_compiled_chord`: a tablature of one chord is compiled.
- `Command.printed_tab_compiles_again`: whatever is compiled is formatted and compiled again.
-/

namespace Lamella

/-! ## §1 Titles -/

theorem Path.stem_ne_nil {s : Text} (h : (ofText s).names ≠ []) : (ofText s).stem ≠ [] := by
  have hname : (ofText s).name ≠ [] := by
    obtain ⟨n, hn⟩ := Option.ne_none_iff_exists'.mp (mt List.getLast?_eq_none_iff.mp h)
    have hmem : n ∈ (ofText s).names := List.mem_of_getLast? hn
    have hgiven : n ≠ [] := by
      have hkept := (List.mem_filter.mp hmem).2
      exact (of_decide_eq_true hkept).1
    rw [name, List.getLastD_eq_getLast?, hn]
    exact hgiven
  unfold stem cutName
  dsimp only
  split
  · exact hname
  · rename_i hcut
    exact fun hstem => hcut (.inr hstem)

/-- Only paths with names lead to files. -/
theorem Files.names_ne_nil_of_read {S : Type} {files : Files S} {p : Path} {content : Content S}
    (h : files.read p = .ok content) : p.names ≠ [] := by
  intro hnames
  obtain ⟨entry, hentry, hread⟩ := Except.bind_eq_ok.mp h
  unfold entry? at hentry
  split at hentry
  · rename_i place hlocate
    obtain ⟨u, -, hwalk⟩ := Except.bind_eq_ok.mp hlocate
    rw [hnames] at hwalk
    cases hwalk
    have hgiven : IsGiven (start p) := by
      unfold start
      split
      · exact .inr rfl
      · exact .inl rfl
    rw [at?_of_isGiven hgiven] at hentry
    cases hentry
    cases hread
  · cases hentry
  · cases hentry
    cases hread

theorem Files.names_ne_nil_of_readText {S : Type} {files : Files S} {p : Path} {text : Text}
    (h : files.readText p = .ok text) : p.names ≠ [] := by
  obtain ⟨content, hread, -⟩ := Except.bind_eq_ok.mp h
  exact names_ne_nil_of_read hread

/-- A song of a file has a title. -/
theorem Saving.titleFor_ne_nil (saving : Saving) {file : Text} (h : (Path.ofText file).names ≠ []) :
    saving.titleFor (Path.ofText file) ≠ [] := by
  unfold titleFor
  cases htitle : saving.title.bind Text.given? with
  | none => exact Path.stem_ne_nil h
  | some title =>
    obtain ⟨s, -, hs⟩ := Option.bind_eq_some_iff.mp htitle
    unfold Text.given? at hs
    split at hs
    · cases hs
    · cases hs
      assumption

/-- A saved song is read as it was written. -/
theorem Files.Stores.readText_song {R S : Type} [Scalar R] [Scalar.Legible R] {files files' : Files S}
    {output : Path} {song : Song R} (h : files.Stores output (.text song.toText) files') :
    files'.readText output = .ok song.toText := by
  rw [h.readText]
  exact congrArg _ (Value.unifyLineEnds_toText song.toValue)

namespace Command

variable {F S : Type} [Analytic F] [Scalar S] [Sample F S]

/-! ## §2 Compiling again -/

/-- What becomes of the tablature that is printed of a song that was compiled: the song is saved,
the tablature is printed of it last and can be saved in place of the first one, and when it is
compiled as before, the notes are the same if no chord was torn, and else fewer. -/
structure Recompiled (studio : Studio F Rat S) (compile format : Command F Rat) (file output : Path)
    (width : Nat) (after : Console S) (first : Song Rat) (tab : Text) (files : Files S) : Prop where
  saved : after.desk.files.readText output = .ok first.toText
  printed : ∀ console : Console S, console.desk.files = after.desk.files →
    ∃ formatted, Leads (perform studio format) console () formatted ∧
      formatted.printed.head? = some (.text tab) ∧ formatted.desk.files = after.desk.files
  written : after.desk.files.write file (.text (Screen.transcript width tab)) = .ok files
  whole : (∀ line ∈ Screen.lines width tab, Tab.IsClosed line) →
    ∀ console : Console S, console.desk.files = files → ∃ (again : Console S) (second : Song Rat),
      Leads (perform studio compile) console () again ∧
      again.desk.files.readText output = .ok second.toText ∧
      (second.notes.map Note.signature).Perm (first.notes.map Note.signature)
  torn : (∃ line ∈ Screen.lines width tab, ¬ Tab.IsClosed line) →
    ∀ console again : Console S, console.desk.files = files →
      Leads (perform studio compile) console () again → ∃ second : Song Rat,
        again.desk.files.readText output = .ok second.toText ∧
        second.notes.length < first.notes.length

variable {studio : Studio F Rat S} {file source : Text} {saving : Saving} {artist : Text}
  {tempo : Rat} {metre difficulty : Text} {choice : Choice} {before after : Console S} {width : Nat}

theorem legible_sheetOf (text : Text) :
    (sheetOf (Path.ofText file) saving artist tempo metre difficulty choice text).Legible :=
  ⟨⟨tempo, rfl⟩, ⟨artist, rfl⟩, tuning_sheetOf _ _ _ _ _ _ _ _⟩

/-- **A compiled song is formatted and compiled again.** -/
theorem recompiled_of_compiled {studio : Studio F Rat S} (hscreen : studio.screen.Lawful)
    {desk : Desk S} {layout : Layout F} {text : Text} {first : Song Rat}
    (hsource : Songbook.find? source = none)
    (hpath : saving.pathFor (Path.ofText file) = .ok (Path.ofText source)) (hwidth : 10 ≤ width)
    (hnow : (Nat.toDigits 10 desk.journal.now.natAbs).length ≤ Decimal.digitLimit)
    (htext : desk.files.readText (Path.ofText file) = .ok text)
    (hcompiled : Compiled studio.screen choice
      (sheetOf (Path.ofText file) saving artist tempo metre difficulty choice text)
      (Path.ofText source) desk layout first after.desk.files) :
    ∃ grid notes writing files, Tab.write layout grid notes = .ok writing ∧
      notes.map Note.signature = first.notes.map Note.signature ∧
      Recompiled studio
        (.compile (Path.ofText file) saving artist tempo metre difficulty choice)
        (.format source choice) (Path.ofText file) (Path.ofText source) width after first
        writing.text files := by
  obtain ⟨⟨j, k, hlayout, hsong, hwarned⟩, hwhole, hstored, named⟩ := hcompiled
  obtain ⟨ws, honly, -⟩ := Preset.exists_generate hlayout
  obtain ⟨-, rfl⟩ := hlayout.unique (honly _)
  -- The warnings of the layout were printed the first time, so they can be printed again
  have hsaid : ∀ w ∈ (ws ++ []).reverse,
      studio.screen.Sayable (Run.warningMarkup studio.screen w) := by
    obtain ⟨vs, hgiven, -⟩ := Song.addsWhole_compose _ _ _ _ _ hsong
    intro w hw
    refine hwarned w (List.mem_reverse.mpr ?_)
    have hadded : k.given = vs ++ (ws ++ []) := hgiven
    rw [hadded]
    exact List.mem_append_right vs (List.mem_reverse.mp hw)
  have hsize : layout.size < 10 ^ Decimal.digitLimit :=
    lt_of_le_of_lt (Preset.size_le hlayout) (by decide +kernel)
  have hfits : Tab.FitsOn layout width := fun index s hs =>
    lt_of_le_of_lt (Preset.length_label_le hlayout hs) hwidth
  have htitle : (sheetOf (Path.ofText file) saving artist tempo metre difficulty choice text).title ≠
      [] := saving.titleFor_ne_nil (Files.names_ne_nil_of_readText htext)
  obtain ⟨grid, writing, hall, hagain, hloaded⟩ := Song.exists_reprinted hsong rfl
    (legible_sheetOf text) ⟨metre, rfl⟩ htitle hsize hnow hfits (by omega)
  -- What was printed is put where the first tablature was
  obtain ⟨place, s, hlocate, hfile, -⟩ := Files.readText_eq_ok.mp htext
  obtain ⟨files, hwrite⟩ := Files.exists_write_of_file hlocate hfile hstored.keeps
    (.text (Screen.transcript width writing.text))
  have hread : files.readText (Path.ofText file) = .ok (Screen.transcript width writing.text) := by
    rw [Files.readText_of_write hwrite,
      Value.unifyLineEnds_eq_self fun p hp => (hagain.points p hp).2]
  obtain ⟨loaded, -, -, hwriting, hnotes⟩ := hloaded {}
  refine ⟨grid, loaded.notes, writing, files, hwriting, hnotes,
    ⟨hstored.readText_song, ?_, hwrite, ?_, ?_⟩⟩
  · -- The saved song is formatted
    rintro console hfiles
    obtain ⟨loaded, hsong', hgrid, hwriting, -⟩ :=
      hloaded { console.desk.journal with given := ws ++ [] }
    obtain ⟨formatted, hleads, hprinted, hkept⟩ := exists_format hsource (honly _)
      (hfiles ▸ hstored.readText_song) hsong' hsaid hgrid hwriting hall
      (hscreen.accept_text _ (Tab.not_half_write hwriting))
    exact ⟨formatted, hleads, hprinted, hkept.trans hfiles⟩
  · -- No line was torn: what was printed is compiled, and saved over the first song
    rintro hlines console hfiles
    obtain ⟨second, drawn, hsecond, hperm, hhalf⟩ :=
      hagain.whole hlines { console.desk.journal with given := ws ++ [] }
    obtain ⟨last, hlast⟩ :=
      hstored.exists_again (Files.keeps_of_write hwrite) (.text second.toText)
    obtain ⟨again, hleads, rfl⟩ := (leads_compile hscreen).mpr ⟨_, _, hpath, hfiles ▸ hread, layout,
      second, ⟨_, _, honly _, hsecond, hsaid⟩, hhalf hwhole, hfiles ▸ hlast, named⟩
    exact ⟨again, second, hleads, hlast.readText_song, hperm⟩
  · -- A line was torn: whatever is compiled of what was printed has fewer notes
    rintro hline console again hfiles hleads
    obtain ⟨output, text', hpath', htext', layout', second, ⟨j', k', hlayout', hsecond, -⟩, -, hlast,
      -⟩ := (leads_compile hscreen).mp ⟨again, hleads, rfl⟩
    obtain rfl : Path.ofText source = output := Except.ok.inj (hpath.symm.trans hpath')
    obtain rfl : Screen.transcript width writing.text = text' :=
      Except.ok.inj (hread.symm.trans (hfiles ▸ htext'))
    obtain ⟨rfl, -⟩ := hlayout'.unique (honly _)
    exact ⟨second, hlast.readText_song, hagain.torn hline _ _ second hsecond⟩

/-! ## §3 Tablature of one chord -/

/-- A tablature of one chord, in which the first key is struck so many times. -/
def chordText (count : Nat) : Text := Tab.stepText (List.replicate count "1")

/-- A desk with this tablature on it. -/
def chordDesk (count : Nat) : Desk S where
  files := ⟨[([↑"tab.txt"], .file (.text (chordText count)))]⟩

/-- The tablature is compiled as it is meant where nothing else is asked for. -/
def compileChord : Command F Rat :=
  .compile (Path.ofText "tab.txt") ⟨none, none⟩ "Unknown" 100 "4/4" "medium" ⟨Preset.usual, none⟩

theorem locate_chordDesk {S : Type} (files : Files S) :
    files.locate (Path.ofText "tab.txt") = .ok [↑"tab.txt"] ∧
      files.locate (Path.ofText "tab.json") = .ok [↑"tab.json"] := by
  have htab : Text.settle "tab.txt" = (↑"tab.txt" : Text) := by decide +kernel
  have hsong : Text.settle "tab.json" = (↑"tab.json" : Text) := by decide +kernel
  have hnames : (Path.ofText "tab.txt").names = [↑"tab.txt"] := by decide +kernel
  have hnames' : (Path.ofText "tab.json").names = [↑"tab.json"] := by decide +kernel
  constructor
  · rw [files.locate_name (by decide +kernel) (by decide +kernel) hnames (by decide +kernel)
      (by decide +kernel), htab]
  · rw [files.locate_name (by decide +kernel) (by decide +kernel) hnames' (by decide +kernel)
      (by decide +kernel), hsong]

theorem points_chordText (count : Nat) :
    ∀ p ∈ chordText count, p.isHalf = false ∧ p ≠ .char '\r' := by
  have hlabel : ∀ s ∈ List.replicate count (Text.ofString "1"), Tab.IsLabelText s := by
    intro s hs
    rw [List.eq_of_mem_replicate hs]
    exact ⟨⟨1, 0⟩, ⟨by decide, by decide, by decide⟩, by decide⟩
  intro p hp
  rcases Tab.isTabPoint_stepText hlabel hp with rfl | hp
  · decide
  · refine ⟨hp.isHalf_eq, ?_⟩
    rintro rfl
    exact absurd hp.isBlank_eq (by decide)

theorem readText_chordDesk {S : Type} (count : Nat) :
    (chordDesk count : Desk S).files.readText (Path.ofText "tab.txt") = .ok (chordText count) := by
  refine Files.readText_eq_ok.mpr ⟨_, _, (locate_chordDesk _).1, ?_,
    Value.unifyLineEnds_eq_self fun p hp => (points_chordText count p hp).2⟩
  rw [Files.at?_of_not_isGiven (by unfold Files.IsGiven; decide +kernel)]
  rfl

/-- The song can be saved next to it. -/
theorem exists_stores_chordDesk {S : Type} (count : Nat) (content : Content S) :
    ∃ files, (chordDesk count : Desk S).files.Stores (Path.ofText "tab.json") content files := by
  have hmade : (chordDesk count : Desk S).files.makeFolder (Path.ofText "tab.json").parent =
      (.ok (), (chordDesk count : Desk S).files) := by
    have hnames : (Path.ofText "tab.json").parent.names = [] := by decide +kernel
    have hcheck : (Path.ofText "tab.json").parent.check = .ok () := by decide +kernel
    rw [Files.makeFolder, hcheck, hnames]
    rfl
  refine ⟨_, _, hmade, Files.write_eq_ok.mpr ⟨_, (locate_chordDesk _).2, ?_, rfl⟩⟩
  have hother : (([↑"tab.json"] : Place) == [↑"tab.txt"]) = false := by decide +kernel
  rw [Files.at?_of_not_isGiven (by unfold Files.IsGiven; decide +kernel)]
  rw [chordDesk, List.lookup_cons, hother]
  nofun

/-- What is composed of it. -/
def chordSheet (count : Nat) : Song.Sheet Rat :=
  sheetOf (Path.ofText "tab.txt") ⟨none, none⟩ "Unknown" 100 "4/4" "medium" ⟨Preset.usual, none⟩
    (chordText count)

/-- The label is that of a key of the usual layout. -/
theorem exists_label_one (hfrequency : ∀ n, ∃ f : F, Pitch.frequencyOfNumber n = .ok f) :
    ∃ (layout : Layout F) (index : Int), Preset.usualLayout.OnlyWarns layout [] ∧
      Layout.labelIn layout.addresses index = some ↑"1" := by
  obtain ⟨layout, honly, index, hindex⟩ := Preset.exists_usualLayout hfrequency
  have hread : Label.ofText? "1" = some ⟨1, 0⟩ := by decide
  have hresolve : Layout.resolveIn layout.addresses "1" = some index := by
    rw [Layout.resolveIn, hread, Option.bind_some, hindex]
  obtain ⟨label, -, hlabel, hback⟩ := Layout.labelIn_resolveIn layout.addresses_distinct hresolve
  refine ⟨layout, index, honly, ?_⟩
  rw [hback]
  cases hread.symm.trans hlabel
  decide

/-- The song of the chord: its key is struck at the start. -/
theorem gives_chord {F : Type} {layout : Layout F} {index : Int}
    (hlabel : Layout.labelIn layout.addresses index = some ↑"1") {count : Nat} (hcount : 0 < count)
    (j : Journal) : ∃ song drawn,
      (Song.compose layout (chordSheet count)).Gives j song { j with drawn } ∧
      (∀ c ∈ song.toText, c.isHalf = false) ∧ song.notes.length = count ∧
      ∀ n ∈ song.notes, n.key = index ∧ n.time = 0 := by
  have hpos : ¬ (100 : Rat) ≤ Scalar.ofInt 0 := by decide
  let grid : Grid Rat := ⟨100, .common, 1, hpos, Int.le_refl 1⟩
  have hgrid : Grid.make (100 : Rat) (.value (.str "4/4")) = .ok grid := by
    have hmetre : Metre.ofValue (.str "4/4" : Value Rat) = .ok .common := by decide +kernel
    unfold Grid.make
    rw [dif_neg hpos, dif_pos (Int.le_refl 1)]
    exact Except.bind_eq_ok.mpr ⟨.common, hmetre, rfl⟩
  have hlevel : Difficulty.ofValue (.str "medium" : Value Rat) = .ok .medium := by decide +kernel
  obtain ⟨steps, hread⟩ := Tab.read_chord hlabel grid hcount
  refine ⟨_, _, (Song.gives_compose rfl).mpr
    ⟨grid, _, .medium, hpos, hgrid, hread, hlevel, rfl, rfl⟩, ?_, ?_, fun n hn => ?_⟩
  · have htitle : ∀ p ∈ Saving.titleFor ⟨none, none⟩ (Path.ofText "tab.txt"), p.isHalf = false := by
      decide +kernel
    refine Song.not_half_composed.mpr ⟨htitle, ?_, fun p hp => (points_chordText count p hp).1, ?_⟩
    · exact (Song.not_half_write_str 1 _).mpr (by decide)
    · exact Song.not_half_write_null 1
  · exact Song.length_composed.trans List.length_replicate
  · have hmem := Song.signature_composed.mem_iff.mp (List.mem_map_of_mem (f := Note.signature) hn)
    rw [List.map_replicate] at hmem
    obtain ⟨hkey, hrest⟩ := Prod.ext_iff.mp (List.eq_of_mem_replicate hmem)
    exact ⟨hkey, (Prod.ext_iff.mp hrest).1.trans (zero_mul grid.step)⟩

/-- Where the song is saved can be said at a terminal, as can every path of whole characters that
opens no tag. -/
theorem sayable_placeMarkup {output : Path}
    (h : ∀ p ∈ output.text, p.isHalf = false ∧ p ≠ .char '[') :
    Screen.terminal.Sayable (placeMarkup output) := by
  have hword : ∀ p ∈ Text.ofString "Saved:", p ≠ .char '[' ∧ p ≠ .char '\\' := by decide
  have hspace : ∀ p ∈ Text.ofString " ", p ≠ .char '[' := by decide
  have hsaved : ∀ p ∈ Text.ofString "[green]Saved:[/green]" ++ Text.ofString " ",
      p.isHalf = false := by decide
  refine Screen.sayable_terminal ?_ (List.forall_mem_append.mpr ⟨hsaved, fun p hp => (h p hp).1⟩)
  have hmarkup : placeMarkup output = Text.ofString "[green]Saved:[/green]" ++
      (Text.ofString " " ++ output.text) := List.append_assoc _ _ _
  rw [hmarkup]
  exact Markup.reads_coloured (t := Text.ofString " " ++ output.text) Markup.isColour_green hword
    (List.forall_mem_append.mpr ⟨hspace, fun p hp => (h p hp).2⟩)

/-- **A tablature of one chord is compiled.** -/
theorem exists_compiled_chord (hfrequency : ∀ n, ∃ f : F, Pitch.frequencyOfNumber n = .ok f)
    {count : Nat} (hcount : 0 < count) (studio : Studio F Rat S) (hscreen : studio.screen.Lawful)
    (hplace : studio.screen.Sayable (placeMarkup (Path.ofText "tab.json"))) :
    ∃ (layout : Layout F) (first : Song Rat) (after : Console S) (index : Int),
      Leads (perform studio compileChord) ⟨chordDesk count, []⟩ () after ∧
      Compiled studio.screen ⟨Preset.usual, none⟩ (chordSheet count) (Path.ofText "tab.json")
        (chordDesk count) layout first after.desk.files ∧
      Layout.labelIn layout.addresses index = some ↑"1" ∧ first.notes.length = count ∧
      ∀ n ∈ first.notes, n.key = index ∧ n.time = 0 := by
  obtain ⟨layout, index, honly, hlabel⟩ := exists_label_one hfrequency
  let j : Journal := { (chordDesk count : Desk S).journal with given := [] }
  obtain ⟨first, drawn, hsong, hwhole, hlength, hnotes⟩ := gives_chord hlabel hcount j
  obtain ⟨files, hstored⟩ := exists_stores_chordDesk (S := S) count (.text first.toText)
  have hcompiled : Compiled studio.screen ⟨Preset.usual, none⟩ (chordSheet count)
      (Path.ofText "tab.json") (chordDesk count) layout first files :=
    ⟨⟨j, _, honly j, hsong, nofun⟩, hwhole, hstored, hplace⟩
  have hpath : Saving.pathFor ⟨none, none⟩ (Path.ofText "tab.txt") = .ok (Path.ofText "tab.json") := by
    decide +kernel
  have hleads : ∃ after, Leads (perform studio compileChord) ⟨chordDesk count, []⟩ () after ∧
      after.desk.files = files :=
    (leads_compile hscreen).mpr ⟨_, _, hpath, readText_chordDesk count, layout, first, hcompiled⟩
  obtain ⟨after, hleads, rfl⟩ := hleads
  exact ⟨layout, first, after, index, hleads, hcompiled, hlabel, hlength, hnotes⟩

/-! ## §4 Songs that are compiled -/

/-- **Whatever is compiled can be formatted and compiled again**, with the notes it had if no printed
line tears a chord. -/
theorem printed_tab_compiles_again (hscreen : studio.screen.Lawful)
    (hsource : Songbook.find? source = none)
    (hpath : saving.pathFor (Path.ofText file) = .ok (Path.ofText source)) (hwidth : 10 ≤ width)
    (hnow : (Nat.toDigits 10 before.desk.journal.now.natAbs).length ≤ Decimal.digitLimit)
    (h : Leads (perform studio
      (.compile (Path.ofText file) saving artist tempo metre difficulty choice)) before () after) :
    ∃ first tab files, Recompiled studio
      (.compile (Path.ofText file) saving artist tempo metre difficulty choice)
      (.format source choice) (Path.ofText file) (Path.ofText source) width after first tab files := by
  obtain ⟨output, text, hpath', htext, layout, first, hcompiled⟩ :=
    (leads_compile hscreen).mp ⟨after, h, rfl⟩
  obtain rfl : Path.ofText source = output := Except.ok.inj (hpath.symm.trans hpath')
  obtain ⟨-, -, writing, files, -, -, hagain⟩ :=
    recompiled_of_compiled hscreen hsource hpath hwidth hnow htext hcompiled
  exact ⟨first, writing.text, files, hagain⟩

open Octaves in
/-- A chord of two labels is compiled again. -/
theorem chord_compiles_again : ∃ (after : Console Rat) (first : Song Rat) (tab : Text)
    (files : Files Rat), Recompiled (F := Rat) (.ofDetector .deaf) compileChord
      (.format "tab.json" ⟨Preset.usual, none⟩) (Path.ofText "tab.txt") (Path.ofText "tab.json") 80
      after first tab files := by
  obtain ⟨-, -, after, -, hleads, -⟩ := exists_compiled_chord (F := Rat) (S := Rat)
    (fun n => ⟨_, frequencyOfNumber_eq n⟩) (Nat.succ_pos 1) (.ofDetector .deaf)
    Screen.terminal_lawful (sayable_placeMarkup (by decide +kernel))
  exact ⟨after, printed_tab_compiles_again Screen.terminal_lawful (by decide +kernel)
    (by decide +kernel) (by decide) (by decide +kernel) hleads⟩

open Octaves in
/-- A chord of 41 labels is torn after 80 columns, and the song of what is printed of it does not have
the notes that it had. -/
theorem torn_chord_not_compiled_again : ∃ (after formatted : Console Rat) (first : Song Rat)
    (tab : Text) (files : Files Rat),
    Leads (perform (.ofDetector .deaf : Studio Rat Rat Rat) compileChord) ⟨chordDesk 41, []⟩ () after ∧
    after.desk.files.readText (Path.ofText "tab.json") = .ok first.toText ∧
    Leads (perform (.ofDetector .deaf : Studio Rat Rat Rat)
      (.format "tab.json" ⟨Preset.usual, none⟩)) after () formatted ∧
    formatted.printed.head? = some (.text tab) ∧
    formatted.desk.files.write (Path.ofText "tab.txt") (.text (Screen.transcript 80 tab)) =
      .ok files ∧
    ∀ again : Console Rat, Leads (perform (.ofDetector .deaf : Studio Rat Rat Rat) compileChord)
        { formatted with desk := { formatted.desk with files := files } } () again →
      ∃ second : Song Rat,
        again.desk.files.readText (Path.ofText "tab.json") = .ok second.toText ∧
        ¬ (second.notes.map Note.signature).Perm (first.notes.map Note.signature) := by
  let studio : Studio Rat Rat Rat := .ofDetector .deaf
  obtain ⟨layout, first, after, index, hleads, hcompiled, hlabel, hlength, hnotes⟩ :=
    exists_compiled_chord (F := Rat) (S := Rat) (fun n => ⟨_, frequencyOfNumber_eq n⟩)
      (Nat.succ_pos 40) studio Screen.terminal_lawful
      (sayable_placeMarkup (by decide +kernel))
  have hsource : Songbook.find? "tab.json" = none := by decide +kernel
  have hpath : Saving.pathFor ⟨none, none⟩ (Path.ofText "tab.txt") = .ok (Path.ofText "tab.json") := by
    decide +kernel
  have hnow : (Nat.toDigits 10 (chordDesk 41 : Desk Rat).journal.now.natAbs).length ≤
      Decimal.digitLimit := by decide +kernel
  obtain ⟨grid, notes, writing, files, hwriting, hsame, hagain⟩ :
      ∃ grid notes writing files, Tab.write layout grid notes = .ok writing ∧
        notes.map Note.signature = first.notes.map Note.signature ∧
        Recompiled studio compileChord (.format "tab.json" ⟨Preset.usual, none⟩) (Path.ofText "tab.txt")
          (Path.ofText "tab.json") 80 after first writing.text files :=
    recompiled_of_compiled Screen.terminal_lawful hsource hpath (by decide) hnow
      (readText_chordDesk 41) hcompiled
  obtain ⟨formatted, hformatted, hprinted, hkept⟩ := hagain.printed after rfl
  have hsize : notes.length = 41 := by
    have := congrArg List.length hsame
    rwa [List.length_map, List.length_map, hlength] at this
  have hplayed : ∀ n ∈ notes, n.key = index ∧ n.time = 0 := by
    intro n hn
    obtain ⟨m, hm, hsignature⟩ := List.mem_map.mp (hsame ▸ List.mem_map_of_mem (f := Note.signature) hn)
    obtain ⟨hkey, htime⟩ := hnotes m hm
    exact ⟨(congrArg (·.1) hsignature).symm.trans hkey,
      (congrArg (·.2.1) hsignature).symm.trans htime⟩
  have hne : notes ≠ [] := fun hnil => by simp [hnil] at hsize
  have htab : writing.text = chordText 41 := by
    rw [Tab.text_of_chord hlabel hne hplayed hwriting, hsize]
    rfl
  have hline : ∃ line ∈ Screen.lines 80 (chordText 41), ¬ Tab.IsClosed line := by decide +kernel
  refine ⟨after, formatted, first, writing.text, files, hleads, hagain.saved, hformatted, hprinted,
    hkept ▸ hagain.written, fun again hsecond => ?_⟩
  obtain ⟨second, hread, hless⟩ := hagain.torn (htab ▸ hline) _ again rfl hsecond
  refine ⟨second, hread, fun hperm => ?_⟩
  have hlength' := hperm.length_eq
  rw [List.length_map, List.length_map] at hlength'
  omega

end Command

end Lamella
