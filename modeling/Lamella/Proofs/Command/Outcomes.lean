import Lamella.Proofs.Command.Failing
import Lamella.Proofs.Command.Loading

/-!
# Outcomes of lines

A line of arguments that ends with anything but 0 has changed no file, if the paths of its files can be
said; and one that makes a song of a file and ends with 0 has left a file that can be loaded. This
holds in every studio that is lawful. A path that closes a tag cannot be said at a terminal, and then
a command fails that has written.

## Main definitions

- `Command.source?`: the file that a command makes a song of.
- `Studio.Lawful`: what is relied on of studios.
- `Command.Outcome.of`: what a command ends with.

## Main statements

- `Studio.ofDetector_lawful`: a studio with a terminal is lawful, whatever it hears.
- `Command.failures_spare_files`: what a line of arguments does to the files.
- `Command.exists_run_compile`: a song is left behind by compiling if its place cannot be said.
- `Command.failure_leaves_song`: so a failure may leave a song in a new file.
-/

namespace Lamella

variable {F R S : Type} [Scalar R]

namespace Command

/-! ## §1 Lines of arguments -/

/-- What a command has made of a file when it saved a song of it, the file, and where the song goes. -/
def source? : Command F R → Option (String × Path × Saving)
  | .compile file saving .. => some ("Compiled", file, saving)
  | .transcribe file saving .. => some ("Detected", file, saving)
  | .importMidi file saving .. => some ("Mapped", file, saving)
  | _ => none

theorem exists_ofText_of_file {a : Arguments} {p : Path} (h : file? a = some p) :
    ∃ s, p = Path.ofText s := by
  obtain ⟨s, -, hs⟩ := Option.bind_eq_some_iff.mp h
  obtain ⟨hp, -⟩ := Option.filter_eq_some_iff.mp hs
  exact ⟨s, (Option.some.inj hp).symm⟩

theorem exists_ofText_of_name [Analytic F] {name : String} {a : Arguments} {command : Command F R}
    (h : ofName? name a = some command) {what : String} {file : Path} {saving : Saving}
    (hsource : command.source? = some (what, file, saving)) : ∃ s, file = Path.ofText s := by
  unfold ofName? at h
  simp only [Option.bind_eq_bind, Option.bind_eq_some_iff, Option.pure_def] at h
  obtain ⟨_, -, h⟩ := h
  -- Three commands have a source, and take it from their operand
  split at h
  case h_12 => cases h
  all_goals simp only [Option.bind_eq_some_iff, Option.some.injEq] at h
  case h_1 =>
    obtain ⟨_, -, h⟩ := h
    split at h
    · cases h
      cases hsource
    · obtain ⟨_, -, hlayout⟩ := Option.bind_eq_some_iff.mp h
      cases hlayout
      cases hsource
  case h_3 =>
    obtain ⟨_, hfile, _, -, rfl⟩ := h
    cases hsource
    exact exists_ofText_of_file hfile
  case h_8 =>
    obtain ⟨_, hfile, _, -, _, -, _, -, _, -, _, -, rfl⟩ := h
    cases hsource
    exact exists_ofText_of_file hfile
  case h_9 =>
    obtain ⟨_, hfile, _, -, _, -, rfl⟩ := h
    cases hsource
    exact exists_ofText_of_file hfile
  all_goals grind [source?]

/-- The source of a command of a line is the path that a text writes. -/
theorem exists_ofText_of_arguments [Analytic F] {args : List Text} {command : Command F R}
    (h : ofArguments? args = some command) {what : String} {file : Path} {saving : Saving}
    (hsource : command.source? = some (what, file, saving)) : ∃ s, file = Path.ofText s := by
  have hnamed {args : List Text} (h : ofNamed? args = some command) : ∃ s, file = Path.ofText s := by
    cases args with
    | nil => cases h
    | cons name rest =>
      obtain ⟨⟨name, flags⟩, -, h⟩ := Option.bind_eq_some_iff.mp h
      obtain ⟨a, -, h⟩ := Option.bind_eq_some_iff.mp h
      split at h
      · cases h
        cases hsource
      · exact exists_ofText_of_name h hsource
  cases args with
  | nil => cases h
  | cons arg rest =>
    rw [ofArguments?] at h
    split at h
    · exact hnamed h
    split at h
    · cases h
      cases hsource
    split at h
    · cases h
    · exact hnamed h

end Command

/-- **What is relied on of a studio**: its screen is lawful, and the songs of files are made of files
with written paths. -/
structure Studio.Lawful (studio : Studio F R S) : Prop where
  screen : studio.screen.Lawful
  source : ∀ args command, studio.command? args = some command →
    ∀ what file saving, command.source? = some (what, file, saving) → ∃ s, file = Path.ofText s

/-- **A studio with a terminal is lawful**, whatever it hears. -/
theorem Studio.ofDetector_lawful [Analytic F] [Scalar S] [Sample F S] (detector : Detector F F S) :
    (ofDetector detector).Lawful where
  screen := Screen.terminal_lawful
  source _ _ h _ _ _ hsource := Command.exists_ofText_of_arguments h hsource

namespace Command

/-! ## §2 A desk with a chord -/

/-- What is read at the desk has no halves. -/
theorem texts_of_chordDesk {count : Nat} {p : Path} {text : Text}
    (h : (chordDesk count : Desk S).files.readText p = .ok text) : ∀ q ∈ text, q.isHalf = false := by
  obtain ⟨place, s, -, hfile, rfl⟩ := Files.readText_eq_ok.mp h
  have hgiven : ¬ Files.IsGiven place := by
    intro hgiven
    rw [Files.at?_of_isGiven hgiven] at hfile
    cases hfile
  have hentries : (chordDesk count : Desk S).files.entries =
      [([↑"tab.txt"], .file (.text (chordText count)))] := rfl
  rw [Files.at?_of_not_isGiven hgiven, hentries, List.lookup_cons] at hfile
  split at hfile
  · cases hfile
    rw [Value.unifyLineEnds_eq_self fun q hq => (points_chordText count q hq).2]
    exact fun q hq => (points_chordText count q hq).1
  · cases hfile

/-- What is asked for by a line that only names a tablature to compile. -/
def compileOf (file : Text) (output : Option Path) : Command F Rat :=
  .compile (Path.ofText file) ⟨output, none⟩ "Unknown" 100 "4/4" "medium" ⟨Preset.usual, none⟩

theorem defaultTempo_rat : (defaultTempo : Rat) = 100 := by decide +kernel

/-- A song of a tablature can be written to a desk with a chord. -/
theorem writes_compileOf {studio : Studio F Rat S} {file : Text} {output : Option Path} {count : Nat}
    (htitle : ∀ p ∈ (Path.ofText file).stem, p.isHalf = false) :
    (compileOf file output : Command F Rat).Writes studio (chordDesk count : Desk S).files where
  words := by
    refine List.forall_mem_cons.mpr ⟨htitle, List.forall_mem_cons.mpr ⟨?_, nofun⟩⟩
    exact Value.not_half_ofString "Unknown"
  texts p s h := texts_of_chordDesk h
  outputs p hp := by
    have hnone : (compileOf file output : Command F Rat).outputs.tail = [] := by
      show ((Saving.pathFor ⟨output, none⟩ (Path.ofText file)).toOption.toList).tail = []
      cases (Saving.pathFor ⟨output, none⟩ (Path.ofText file)).toOption <;> rfl
    rw [hnone] at hp
    cases hp
  sounds := nofun

open Octaves in
/-- A studio that hears nothing. -/
def deafStudio : Studio Rat Rat Rat := .ofDetector .deaf

open Octaves in
theorem deafStudio_lawful : deafStudio.Lawful := Studio.ofDetector_lawful .deaf

/-! ## §3 Outcomes -/

/-- What a command ends with that has printed so far. -/
def Outcome.of (printed : List Printed) : Except Stop Unit → Outcome
  | .ok () => .finished 0 printed
  | .error .reported => .finished 1 printed
  | .error (.fault f) => .escaped f

section

variable [Analytic F] [Scalar S] [Sample F S] {studio : Studio F R S} {args : List Text} {desk : Desk S}
  {command : Command F R}

/-- The outcome of a line is what comes of its command. -/
theorem run_eq (hargs : studio.command? args = some command) {result : Except Stop Unit}
    {after : Console S} (h : (perform studio command).run.run ⟨desk, []⟩ = (result, after)) :
    run studio args desk = (.of after.printed.reverse result, after.desk) := by
  have hrun : (perform studio command).run ⟨desk, []⟩ = (result, after) := h
  unfold run
  rw [hargs]
  dsimp only
  rw [hrun]
  unfold Outcome.of
  rfl

/-- A command that ends with 0 has gone well. -/
theorem exists_leads_of_run (hargs : studio.command? args = some command) {printed : List Printed}
    (h : (run studio args desk).1 = .finished 0 printed) :
    ∃ after, Leads (perform studio command) ⟨desk, []⟩ () after ∧ after.printed.reverse = printed ∧
      after.desk = (run studio args desk).2 := by
  rcases hrun : (perform studio command).run.run ⟨desk, []⟩ with ⟨result, after⟩
  rw [run_eq hargs hrun] at h ⊢
  cases result with
  | ok u => exact ⟨after, hrun, (Outcome.finished.inj h).2, rfl⟩
  | error stop =>
    cases stop with
    | reported => cases h
    | fault f => cases h

variable [Scalar.Legible R] [Scalar.Named R] [Scalar.Comparable R]

/-- **A command that fails changes no file**, if its files can be written and what it says last can be
said. **A command that ends with 0** has said it, and if it has made a song of a file, the song can be
loaded with as many notes as were counted. -/
theorem failures_spare_files {studio : Studio F R S} (hstudio : studio.Lawful) (args : List Text)
    (desk : Desk S)
    (hnow : (Nat.toDigits 10 desk.journal.now.natAbs).length ≤ Decimal.digitLimit)
    (hwrites : ∀ command, studio.command? args = some command →
      command.Writes studio desk.files) :
    ((∀ command, studio.command? args = some command →
        ∀ markup ∈ command.closing?, studio.screen.Sayable markup) →
      (∀ printed, (run studio args desk).1 ≠ .finished 0 printed) →
      desk.files.SameFiles (run studio args desk).2.files) ∧
    ∀ printed, (run studio args desk).1 = .finished 0 printed →
      ∀ command, studio.command? args = some command →
        (∀ markup ∈ command.closing?, studio.screen.Sayable markup) ∧
        ∀ what file saving, command.source? = some (what, file, saving) →
          ∃ output count, saving.pathFor file = .ok output ∧
            (run studio args desk).2.files.HoldsSong R output count ∧ Counts what count printed := by
  constructor
  · intro hclosing hfails
    cases hargs : studio.command? args with
    | none =>
      unfold run
      rw [hargs]
      exact .refl desk.files
    | some command =>
      rcases hrun : (perform studio command).run.run ⟨desk, []⟩ with ⟨result, after⟩
      rw [run_eq hargs hrun] at hfails ⊢
      cases result with
      | ok u => exact absurd rfl (hfails _)
      | error stop =>
        exact spares_perform hstudio.screen (hwrites command hargs) (hclosing command hargs) stop
          after hrun
  · rintro printed hfinished command hargs
    obtain ⟨after, hleads, rfl, hdesk⟩ := exists_leads_of_run hargs hfinished
    refine ⟨sayable_of_leads hstudio.screen hleads, fun what file saving hsource => ?_⟩
    obtain ⟨s, rfl⟩ := hstudio.source args command hargs what file saving hsource
    rw [← hdesk]
    cases command with
    | compile =>
      cases hsource
      exact holdsSong_of_compile hstudio.screen hnow hleads
    | transcribe =>
      cases hsource
      exact holdsSong_of_transcribe hstudio.screen hnow hleads
    | importMidi =>
      cases hsource
      exact holdsSong_of_importMidi hstudio.screen hnow hleads
    | _ => cases hsource

end

open Octaves in
/-- A tablature of a chord is compiled to a song that can be loaded, and one that is missing changes no
file. -/
theorem failures_spare_files_of_chord :
    (∃ printed count, (run deafStudio ["compile", "tab.txt"] (chordDesk 2)).1 = .finished 0 printed ∧
      (run deafStudio ["compile", "tab.txt"] (chordDesk 2)).2.files.HoldsSong Rat
        (Path.ofText "tab.json") count ∧
      Counts "Compiled" count printed) ∧
    (∀ printed, (run deafStudio ["compile", "none.txt"] (chordDesk 2)).1 ≠ .finished 0 printed) ∧
    (chordDesk 2 : Desk Rat).files.SameFiles
      (run deafStudio ["compile", "none.txt"] (chordDesk 2)).2.files := by
  have hargs (file : Text) (h : (ofArguments? ["compile", file] : Option (Command Rat Rat)) =
      some (.compile (Path.ofText file) ⟨none, none⟩ "Unknown" defaultTempo "4/4" "medium"
        ⟨Preset.usual, none⟩)) :
      deafStudio.command? ["compile", file] = some (compileOf file none) := by
    show (ofArguments? ["compile", file] : Option (Command Rat Rat)) = _
    rw [h, defaultTempo_rat]
    rfl
  have hmain {file : Text}
      (hcommand : deafStudio.command? ["compile", file] = some (compileOf file none))
      (hstem : ∀ p ∈ (Path.ofText file).stem, p.isHalf = false) :=
    failures_spare_files deafStudio_lawful ["compile", file] (chordDesk 2)
      (by decide +kernel) fun command h => by
        cases hcommand.symm.trans h
        exact writes_compileOf hstem
  have htab := hargs "tab.txt" (by rfl)
  have hmissing := hargs "none.txt" (by rfl)
  have hpath : Saving.pathFor ⟨none, none⟩ (Path.ofText "tab.txt") = .ok (Path.ofText "tab.json") := by
    decide +kernel
  have hpath' : Saving.pathFor ⟨none, none⟩ (Path.ofText "none.txt") =
      .ok (Path.ofText "none.json") := by
    decide +kernel
  have hfails : ∀ printed, (run deafStudio ["compile", "none.txt"] (chordDesk 2)).1 ≠
      .finished 0 printed := by
    intro printed hfinished
    obtain ⟨after, hleads, -⟩ := exists_leads_of_run hmissing hfinished
    obtain ⟨output, text, -, htext, -⟩ := compiled_of_leads Screen.terminal_lawful hleads
    cases htext
  have hclosing : ∀ command : Command Rat Rat, deafStudio.command? ["compile", "none.txt"] =
      some command → ∀ markup ∈ command.closing?, Screen.terminal.Sayable markup := by
    intro command h markup hmarkup
    cases hmissing.symm.trans h
    have hlast : (compileOf "none.txt" none : Command Rat Rat).closing? =
        some (placeMarkup (Path.ofText "none.json")) :=
      congrArg (fun found => (Except.toOption found).map placeMarkup) hpath'
    rw [hlast] at hmarkup
    cases hmarkup
    exact sayable_placeMarkup (by decide +kernel)
  refine ⟨?_, hfails, (hmain hmissing (by decide +kernel)).1 hclosing hfails⟩
  obtain ⟨-, -, after, -, hleads, -⟩ := exists_compiled_chord (F := Rat) (S := Rat)
    (fun n => ⟨_, frequencyOfNumber_eq n⟩) (Nat.succ_pos 1) deafStudio Screen.terminal_lawful
    (sayable_placeMarkup (by decide +kernel))
  have hrun : (run deafStudio ["compile", "tab.txt"] (chordDesk 2)).1 =
      .finished 0 after.printed.reverse := congrArg Prod.fst (run_eq htab hleads)
  obtain ⟨output, count, hfound, hholds, hcounts⟩ :=
    ((hmain htab (by decide +kernel)).2 _ hrun _ htab).2 "Compiled" (Path.ofText "tab.txt")
      ⟨none, none⟩ rfl
  have houtput : output = Path.ofText "tab.json" := Except.ok.inj (hfound.symm.trans hpath)
  subst houtput
  exact ⟨_, count, hrun, hholds, hcounts⟩

/-! ## §4 Songs that failures leave -/

theorem exists_run_say {screen : Screen} {markup : Text} (h : ¬ screen.Sayable markup)
    (console : Console S) : ∃ fault,
      (Run.say screen markup : Run S Unit).run.run console = (.error (.fault fault), console) := by
  cases hshown : screen.shown markup with
  | error fault =>
    refine ⟨fault, ?_⟩
    unfold Run.say
    rw [hshown]
    rfl
  | ok text =>
    cases haccept : screen.accept (.text text) with
    | error fault =>
      refine ⟨fault, ?_⟩
      unfold Run.say Run.print
      rw [(Run.leads_of.mpr ⟨hshown, rfl⟩).run_bind, haccept]
      rfl
    | ok u => exact absurd ⟨text, hshown, haccept⟩ h

/-- **A song is left behind** by compiling if its place cannot be said. -/
theorem exists_run_compile [Analytic F] [Scalar S] [Sample F S] {studio : Studio F R S}
    (hscreen : studio.screen.Lawful) {file output : Path} {saving : Saving}
    {artist metre difficulty text : Text} {tempo : R} {choice : Choice} {before : Console S}
    {layout : Layout F} {song : Song R} {files : Files S}
    (hpath : saving.pathFor file = .ok output) (htext : before.desk.files.readText file = .ok text)
    (hcomposed : Composed studio.screen choice
      (sheetOf file saving artist tempo metre difficulty choice text) before.desk.journal layout song)
    (hwhole : ∀ c ∈ song.toText, c.isHalf = false)
    (hstored : before.desk.files.Stores output (.text song.toText) files)
    (hplace : ¬ studio.screen.Sayable (placeMarkup output)) :
    ∃ fault after,
      (perform studio (.compile file saving artist tempo metre difficulty choice)).run.run before =
        (.error (.fault fault), after) ∧ after.desk.files = files := by
  obtain ⟨said, hsaid, hfiles⟩ := exists_leads_compiling htext hcomposed hwhole hstored
  obtain ⟨counted, hcounted, hkept⟩ :=
    Run.exists_leads_say (hscreen.sayable_plain (isPlain_countMarkup song)) said
  obtain ⟨fault, hfault⟩ := exists_run_say hplace counted
  have hdemanded : Leads (demand studio.screen file) before () before :=
    leads_demand.mpr ⟨Task.contains_of_readText htext, rfl⟩
  refine ⟨fault, counted, ?_, (congrArg Desk.files hkept).trans hfiles⟩
  rw [perform_compile, hdemanded.run_bind, (Run.leads_of.mpr ⟨hpath, rfl⟩).run_bind, hsaid.run_bind,
    hcounted.run_bind, hfault]

/-- A path that closes a tag cannot be said at a terminal. -/
theorem not_sayable_closing :
    ¬ Screen.terminal.Sayable (placeMarkup (Path.ofText "[/x].json")) := by
  have hchunks : Markup.chunks (placeMarkup (Path.ofText "[/x].json")) =
      .tag 0 (Text.ofString "green") :: ((Text.ofString "Saved:").map (Markup.Chunk.plain 0) ++
        .tag 0 (.char '/' :: Text.ofString "green") :: ([.plain 0 ' '] ++
          .tag 0 (.char '/' :: Text.ofString "x") ::
            ((Text.ofString ".json").map (Markup.Chunk.plain 0) ++ [.final 0]))) := by
    decide +kernel
  rintro ⟨text, hshown, -⟩
  refine Markup.not_reads_of_chunks Markup.isColour_green ?_ ?_ hchunks ⟨text, hshown⟩
  · exact List.forall_mem_map.mpr fun _ _ => trivial
  · exact List.forall_mem_singleton.mpr trivial

theorem stores_chordDesk_closing {count : Nat} (content : Content S) :
    ∃ files, (chordDesk count : Desk S).files.Stores (Path.ofText "[/x].json") content files ∧
      ¬ (chordDesk count : Desk S).files.SameFiles files := by
  let room : Files S := (chordDesk count : Desk S).files.put [↑"["] .folder
  have hmade : (chordDesk count : Desk S).files.makeFolder (Path.ofText "[/x].json").parent =
      (.ok (), room) := by rfl
  have hlocate : room.locate (Path.ofText "[/x].json") = .ok [↑"[", ↑"x].json"] := by rfl
  have hfree : room.at? [↑"[", ↑"x].json"] = none := by rfl
  have hwrite : room.write (Path.ofText "[/x].json") content =
      .ok (room.put [↑"[", ↑"x].json"] (.file content)) :=
    Files.write_eq_ok.mpr ⟨_, hlocate, by rw [hfree]; nofun, rfl⟩
  refine ⟨_, ⟨room, hmade, hwrite⟩, fun hsame => ?_⟩
  have hnew := (hsame [↑"[", ↑"x].json"] content).mp
    (Files.at?_put_self (Files.not_isGiven_of_none hfree) room _)
  cases hnew

/-- What is composed of the chord does not depend on where its song is saved. -/
theorem sheetOf_chordText (output : Option Path) (count : Nat) :
    sheetOf (Path.ofText "tab.txt") ⟨output, none⟩ "Unknown" (100 : Rat) "4/4" "medium"
      ⟨Preset.usual, none⟩ (chordText count) = chordSheet count := rfl

open Octaves in
/-- A failure leaves a song in a new file, if the path of the file closes a tag. -/
theorem failure_leaves_song : (∃ fault,
      (run deafStudio ["compile", "tab.txt", "-o", "[/x].json"] (chordDesk 1)).1 = .escaped fault) ∧
    ¬ (chordDesk 1 : Desk Rat).files.SameFiles
      (run deafStudio ["compile", "tab.txt", "-o", "[/x].json"] (chordDesk 1)).2.files := by
  obtain ⟨layout, index, honly, hlabel⟩ := exists_label_one (F := Rat)
    (fun n => ⟨_, frequencyOfNumber_eq n⟩)
  obtain ⟨song, drawn, hsong, hwhole, -⟩ := gives_chord hlabel (Nat.succ_pos 0) {}
  rw [← sheetOf_chordText (some (Path.ofText "[/x].json"))] at hsong
  obtain ⟨files, hstored, hnew⟩ := stores_chordDesk_closing (S := Rat) (.text song.toText)
  have hpath : Saving.pathFor ⟨some (Path.ofText "[/x].json"), none⟩ (Path.ofText "tab.txt") =
      .ok (Path.ofText "[/x].json") := by rfl
  have hcommand : deafStudio.command? ["compile", "tab.txt", "-o", "[/x].json"] =
      some (compileOf "tab.txt" (some (Path.ofText "[/x].json"))) := by
    show (ofArguments? ["compile", "tab.txt", "-o", "[/x].json"] : Option (Command Rat Rat)) = _
    have hread : (ofArguments? ["compile", "tab.txt", "-o", "[/x].json"] :
        Option (Command Rat Rat)) = some (.compile (Path.ofText "tab.txt")
          ⟨some (Path.ofText "[/x].json"), none⟩ "Unknown" defaultTempo "4/4" "medium"
          ⟨Preset.usual, none⟩) := by rfl
    rw [hread, defaultTempo_rat]
    rfl
  have hleft : ∃ fault after, (perform deafStudio
      (compileOf "tab.txt" (some (Path.ofText "[/x].json")))).run.run ⟨chordDesk 1, []⟩ =
        (.error (.fault fault), after) ∧ after.desk.files = files := by
    unfold compileOf
    exact exists_run_compile Screen.terminal_lawful hpath (readText_chordDesk 1)
      ⟨_, _, honly _, hsong, nofun⟩ hwhole hstored not_sayable_closing
  obtain ⟨fault, after, hrun, rfl⟩ := hleft
  have hran : run deafStudio ["compile", "tab.txt", "-o", "[/x].json"] (chordDesk 1) =
      (.escaped fault, after.desk) := run_eq hcommand hrun
  rw [hran]
  exact ⟨⟨fault, rfl⟩, hnew⟩

end Command

end Lamella
