import Lamella.Proofs.Command.Sayings
import Lamella.Proofs.Command.Warnings

/-!
# Work that spares files

Much work leaves the files as they are: it reads them, and makes folders at most. Other work writes a
file, but if it fails the files are as they were. Work of the second kind is put together of work of
the first kind, then a piece that writes, and then work that cannot fail.

## Main definitions

- `Files.SameFiles`: two trees hold the same files.
- `Leaves`: work that leaves the files as they are, whatever comes of it.
- `Spares`: work that leaves the files as they are if it fails.

## Main statements

- `Leaves.bind`, `Leaves.bind_spares`, `Spares.bind`: one piece of work after another.
- `Task.spares_write`: a file is written or spared, if its text can be made bytes.
-/

namespace Lamella

/-! ## §1 The same files -/

namespace Files

variable {S : Type} {files files' files'' : Files S}

/-- Two trees hold the same files. They need not have the same folders. -/
def SameFiles (files files' : Files S) : Prop := ∀ place content,
  files'.at? place = some (.file content) ↔ files.at? place = some (.file content)

theorem SameFiles.refl (files : Files S) : files.SameFiles files := fun _ _ => Iff.rfl

theorem SameFiles.trans (h : files.SameFiles files') (h' : files'.SameFiles files'') :
    files.SameFiles files'' :=
  fun place content => (h' place content).trans (h place content)

/-- A new folder is no file. -/
theorem sameFiles_put_folder {place : Place} (h : files.at? place = none) :
    files.SameFiles (files.put place .folder) := by
  intro other content
  by_cases hplace : other = place
  · subst hplace
    rw [at?_put_self (not_isGiven_of_none h), h]
    simp
  · rw [at?_put_of_ne hplace]

theorem sameFiles_makeFrom (files : Files S) (place : Place) (names : List Text) :
    files.SameFiles (files.makeFrom place names).2 := by
  induction names generalizing files place with
  | nil => exact .refl files
  | cons name names ih =>
    rw [makeFrom]
    cases Path.checkName name with
    | error fault => exact .refl files
    | ok u =>
      dsimp only
      cases hentry : files.at? (step place name) with
      | none => exact (sameFiles_put_folder hentry).trans (ih _ _)
      | some entry =>
        cases entry with
        | file content => exact .refl files
        | folder => exact ih files _

/-- Making folders changes no file, not even if it fails on the way. -/
theorem sameFiles_makeFolder (files : Files S) (p : Path) :
    files.SameFiles (files.makeFolder p).2 := by
  unfold makeFolder
  cases p.check with
  | error fault => exact .refl files
  | ok u => exact sameFiles_makeFrom files _ _

end Files

/-! ## §2 Work on a state with files -/

/-- A state with files at hand. -/
class HasFiles (σ : Type) (S : outParam Type) where
  filesOf : σ → Files S

open HasFiles

instance {S : Type} : HasFiles (Desk S) S := ⟨Desk.files⟩

instance {S : Type} : HasFiles (Console S) S := ⟨fun console => console.desk.files⟩

section

variable {ε σ S α β : Type} [HasFiles σ S] {w : ExceptT ε (StateM σ) α} {s s' : σ}
  {f : α → ExceptT ε (StateM σ) β}

/-- Work leaves the files as they are, whatever comes of it. -/
def Leaves (w : ExceptT ε (StateM σ) α) (s : σ) : Prop :=
  (filesOf s).SameFiles (filesOf (w.run.run s).2)

/-- Work leaves the files as they are if it fails. -/
def Spares (w : ExceptT ε (StateM σ) α) (s : σ) : Prop :=
  ∀ e s', w.run.run s = (.error e, s') → (filesOf s).SameFiles (filesOf s')

theorem Leaves.spares (h : Leaves w s) : Spares w s := by
  intro e s' hrun
  unfold Leaves at h
  rwa [hrun] at h

omit [HasFiles σ S] in
/-- What comes of one piece of work after another. -/
theorem run_bind_cases (w : ExceptT ε (StateM σ) α) (f : α → ExceptT ε (StateM σ) β) (s : σ) :
    (∃ e s', w.run.run s = (.error e, s') ∧ (w >>= f).run.run s = (.error e, s')) ∨
      ∃ a s', Leads w s a s' ∧ (w >>= f).run.run s = (f a).run.run s' := by
  rcases hw : w.run.run s with ⟨e | a, s'⟩
  · refine .inl ⟨e, s', rfl, ?_⟩
    rw [ExceptT.run_bind, StateT.run_bind, hw]
    rfl
  · exact .inr ⟨a, s', hw, Leads.run_bind hw f⟩

theorem leaves_pure (a : α) (s : σ) : Leaves (pure a : ExceptT ε (StateM σ) α) s :=
  Files.SameFiles.refl _

theorem leaves_throw (e : ε) (s : σ) : Leaves (throw e : ExceptT ε (StateM σ) α) s :=
  Files.SameFiles.refl _

/-- The files are left by work of which every piece leaves them. -/
theorem Leaves.bind (hw : Leaves w s) (hf : ∀ a s', Leads w s a s' → Leaves (f a) s') :
    Leaves (w >>= f) s := by
  unfold Leaves at hw ⊢
  obtain ⟨e, s', hfails, hrun⟩ | ⟨a, s', hleads, hrun⟩ := run_bind_cases w f s
  · rw [hfails] at hw
    rw [hrun]
    exact hw
  · have hrest := hf a s' hleads
    unfold Leaves at hrest
    unfold Leads at hleads
    rw [hleads] at hw
    rw [hrun]
    exact hw.trans hrest

/-- The files are spared by work that leaves them first. -/
theorem Leaves.bind_spares (hw : Leaves w s) (hf : ∀ a s', Leads w s a s' → Spares (f a) s') :
    Spares (w >>= f) s := by
  intro e last hlast
  obtain ⟨e', s', hfails, hrun⟩ | ⟨a, s', hleads, hrun⟩ := run_bind_cases w f s
  · rw [hrun] at hlast
    cases hlast
    exact hw.spares _ _ hfails
  · have hfirst : (filesOf s).SameFiles (filesOf s') := by
      unfold Leaves at hw
      unfold Leads at hleads
      rwa [hleads] at hw
    rw [hrun] at hlast
    exact hfirst.trans (hf a s' hleads e last hlast)

/-- The files are spared by work that does nothing after writing that can fail. -/
theorem Spares.bind (hw : Spares w s) (hf : ∀ a s', Leads w s a s' → ∃ b t, Leads (f a) s' b t) :
    Spares (w >>= f) s := by
  intro e last hlast
  obtain ⟨e', s', hfails, hrun⟩ | ⟨a, s', hleads, hrun⟩ := run_bind_cases w f s
  · rw [hrun] at hlast
    cases hlast
    exact hw _ _ hfails
  · obtain ⟨b, t, hrest⟩ := hf a s' hleads
    unfold Leads at hrest
    rw [hrun, hrest] at hlast
    cases hlast

end

/-! ## §3 Tasks -/

namespace Task

variable {S R α : Type} {desk : Desk S} {p : Path}

theorem leaves_ofWork (w : Work α) (desk : Desk S) : Leaves (ofWork w : Task S α) desk :=
  Files.SameFiles.refl desk.files

theorem leaves_of (result : Except Fault α) (desk : Desk S) :
    Leaves (of result : Task S α) desk :=
  Files.SameFiles.refl desk.files

theorem leaves_files (desk : Desk S) : Leaves (Task.files : Task S (Files S)) desk :=
  Files.SameFiles.refl desk.files

theorem leaves_contains (p : Path) (desk : Desk S) : Leaves (contains p : Task S Bool) desk := by
  unfold contains
  exact (leaves_files desk).bind fun _ _ _ => leaves_of _ _

theorem leaves_makeRoom (p : Path) (desk : Desk S) : Leaves (makeRoom p : Task S Unit) desk :=
  Files.sameFiles_makeFolder desk.files p.parent

theorem leaves_songText (p : Path) (desk : Desk S) : Leaves (songText p : Task S Text) desk := by
  unfold songText
  refine (leaves_contains p desk).bind fun there desk' _ => ?_
  cases there with
  | false => exact leaves_throw _ _
  | true => exact (leaves_files desk').bind fun _ _ _ => leaves_of _ _

theorem leaves_loadSong [Scalar R] (p : Path) (desk : Desk S) :
    Leaves (loadSong p : Task S (Song R)) desk := by
  unfold loadSong
  exact (leaves_songText p desk).bind fun _ _ _ => leaves_ofWork _ _

theorem leaves_loadParts [Scalar R] [Scalar S] (p : Path) (formats : Formats R S) (desk : Desk S) :
    Leaves (loadParts p formats) desk := by
  unfold loadParts
  refine (leaves_contains p desk).bind fun there desk' _ => ?_
  cases there with
  | false => exact leaves_throw _ _
  | true => exact (leaves_files desk').bind fun _ _ _ => (leaves_of _ _).bind fun _ _ _ => leaves_of _ _

theorem leaves_loadRecording (p : Path) (formats : Formats R S) (desk : Desk S) :
    Leaves (loadRecording p formats) desk := by
  unfold loadRecording
  exact (leaves_files desk).bind fun _ _ _ => (leaves_of _ _).bind fun _ _ _ =>
    (leaves_of _ _).bind fun _ _ _ => leaves_of _ _

theorem spares_put (p : Path) (content : Content S) (desk : Desk S) : Spares (put p content) desk := by
  unfold put
  refine (leaves_files desk).bind_spares fun _ _ _ => (leaves_of _ _).bind_spares fun files desk' _ => ?_
  -- A new tree of files is taken over only when it is there, and that does not fail
  intro e s' hrun
  cases hrun

/-- A file is written or spared, if it is a text that can be made bytes or no text at all. -/
theorem spares_write {content : Content S}
    (hwhole : ∀ s, content = .text s → ∀ c ∈ s, c.isHalf = false) (p : Path) (desk : Desk S) :
    Spares (write p content) desk := by
  unfold write
  cases content with
  | text s =>
    dsimp only
    rw [firstRun?_isHalf_eq_none.mpr (hwhole s rfl)]
    exact spares_put p _ desk
  | _ => exact spares_put p _ desk

theorem spares_save {content : Content S}
    (hwhole : ∀ s, content = .text s → ∀ c ∈ s, c.isHalf = false) (p : Path) (desk : Desk S) :
    Spares (save p content) desk := by
  unfold save
  exact (leaves_makeRoom p desk).bind_spares fun _ _ _ => spares_write hwhole p _

theorem spares_saveSong [Scalar R] {song : Song R} (hwhole : ∀ c ∈ song.toText, c.isHalf = false)
    (p : Path) (desk : Desk S) : Spares (saveSong p song : Task S Unit) desk := by
  refine spares_save ?_ p desk
  rintro s hs
  cases hs
  exact hwhole

theorem spares_savePiece [Scalar R] (p : Path) (piece : Midi.Piece R) (formats : Formats R S)
    (desk : Desk S) : Spares (savePiece p piece formats) desk := by
  unfold savePiece
  exact (leaves_makeRoom p desk).bind_spares fun _ _ _ => (leaves_of _ _).bind_spares fun _ _ _ =>
    spares_put p _ _

end Task

/-! ## §4 Several files -/

namespace Files

variable {S : Type} {files files' : Files S} {p q : Path}

/-- A file can be saved at a path, with the folders on the way to it. -/
def Accepts (files : Files S) (p : Path) : Prop := ∀ content, ∃ files', files.Stores p content files'

/-- Where a file can be written, it can be after another one was. -/
theorem exists_write_after_write {content content' : Content S} {other : Files S}
    (h : files.write p content = .ok files') (h' : files.write q content' = .ok other) :
    ∃ last, files'.write q content' = .ok last := by
  have hkeeps := keeps_of_write h
  obtain ⟨place, -, hplace, rfl⟩ := write_eq_ok.mp h
  obtain ⟨place', hlocate, hfolder, -⟩ := write_eq_ok.mp h'
  refine ⟨_, write_eq_ok.mpr ⟨place', locate_of_keeps hkeeps hlocate, ?_, rfl⟩⟩
  by_cases hsame : place' = place
  · subst hsame
    have hgiven : ¬ IsGiven place' := fun hgiven => hfolder (at?_of_isGiven hgiven files)
    rw [at?_put_self hgiven]
    nofun
  · rw [at?_put_of_ne hsame]
    exact hfolder

/-- In the folder of a file that was saved another one can be written that could be saved before. -/
theorem Accepts.exists_write {content : Content S} (h : files.Accepts q)
    (hstores : files.Stores p content files') (hparent : q.parent = p.parent) (content' : Content S) :
    ∃ last, files'.write q content' = .ok last := by
  obtain ⟨other, room', hmade', hwrite'⟩ := h content'
  obtain ⟨room, hmade, hwrite⟩ := hstores
  rw [hparent, hmade] at hmade'
  obtain ⟨-, rfl⟩ := Prod.mk.inj hmade'
  exact exists_write_after_write hwrite hwrite'

/-- A file that can be saved can be after another one was saved in the same folder. -/
theorem Accepts.of_stores {content : Content S} (h : files.Accepts q)
    (hstores : files.Stores p content files') (hparent : q.parent = p.parent) : files'.Accepts q := by
  intro content'
  obtain ⟨last, hlast⟩ := h.exists_write hstores hparent content'
  obtain ⟨room, hmade, hwrite⟩ := hstores
  refine ⟨last, files', ?_, hlast⟩
  rw [hparent]
  exact (makeFolder_spec hmade).2 files' (keeps_of_write hwrite)

theorem parent_child (folder : Path) (name : Text) : (folder.child name).parent = folder := by
  simp [Path.parent, Path.child]

end Files

namespace Task

variable {S R α : Type} {desk : Desk S} {p : Path}

/-- Songs are saved in a folder that accepts all of them. -/
theorem exists_leads_saveAll [Scalar R] {folder : Path} {name : Song R → Text} {songs : List (Song R)}
    (hwhole : ∀ song ∈ songs, ∀ c ∈ song.toText, c.isHalf = false) (desk : Desk S)
    (haccepts : ∀ song ∈ songs, desk.files.Accepts (folder.child (name song))) :
    ∃ desk', Leads (songs.forM fun song => saveSong (folder.child (name song)) song) desk () desk' := by
  induction songs generalizing desk with
  | nil => exact ⟨desk, leads_pure.mpr ⟨rfl, rfl⟩⟩
  | cons song songs ih =>
    obtain ⟨hsong, hsongs⟩ := List.forall_mem_cons.mp hwhole
    obtain ⟨haccept, hrest⟩ := List.forall_mem_cons.mp haccepts
    obtain ⟨files, hstores⟩ := haccept (.text song.toText)
    -- All songs go into one folder, so there is still room for the others
    obtain ⟨desk', hleads⟩ := ih hsongs { desk with files } fun other hother =>
      (hrest other hother).of_stores hstores (by rw [Files.parent_child, Files.parent_child])
    exact ⟨desk', leads_bind.mpr ⟨(), _, leads_saveSong.mpr ⟨hsong, files, hstores, rfl⟩, hleads⟩⟩

/-- The files are spared by saving songs in a folder, if it accepts all of them but the first. -/
theorem spares_saveAll [Scalar R] {folder : Path} {name : Song R → Text} {songs : List (Song R)}
    (hwhole : ∀ song ∈ songs, ∀ c ∈ song.toText, c.isHalf = false) (desk : Desk S)
    (haccepts : ∀ song ∈ songs.tail, desk.files.Accepts (folder.child (name song))) :
    Spares (songs.forM fun song => saveSong (folder.child (name song)) song) desk := by
  cases songs with
  | nil => exact (leaves_pure _ _).spares
  | cons song songs =>
    obtain ⟨hsong, hsongs⟩ := List.forall_mem_cons.mp hwhole
    refine (spares_saveSong hsong _ desk).bind fun u desk' hleads => ?_
    obtain ⟨-, files, hstores, rfl⟩ := leads_saveSong.mp hleads
    obtain ⟨desk', hrest⟩ := exists_leads_saveAll hsongs { desk with files } fun other hother =>
      (haccepts other hother).of_stores hstores (by rw [Files.parent_child, Files.parent_child])
    exact ⟨(), desk', hrest⟩

theorem spares_tryCatch {w : Task S α} (h : Spares w desk) (fault : Fault) :
    Spares (tryCatch w fun _ => throw fault) desk := by
  intro e desk' hrun
  rw [run_tryCatch] at hrun
  obtain ⟨hresult, rfl⟩ := Prod.mk.inj hrun
  obtain ⟨e', hfails, -⟩ := Except.mapError_eq_error.mp hresult
  exact h e' _ (Prod.ext hfails rfl)

/-- Files that can be written are put into their places one after another. -/
theorem exists_leads_putAll {kept : List (Path × Content S)} (desk : Desk S)
    (hwrites : ∀ file ∈ kept, ∀ content, ∃ last, desk.files.write file.1 content = .ok last) :
    ∃ desk', Leads (kept.forM fun (place, content) => put place content) desk () desk' := by
  induction kept generalizing desk with
  | nil => exact ⟨desk, leads_pure.mpr ⟨rfl, rfl⟩⟩
  | cons file kept ih =>
    obtain ⟨hfile, hrest⟩ := List.forall_mem_cons.mp hwrites
    obtain ⟨files, hwrite⟩ := hfile file.2
    -- What was written is in the way of nothing
    obtain ⟨desk', hleads⟩ := ih { desk with files } fun other hother content => by
      obtain ⟨last, hlast⟩ := hrest other hother content
      exact Files.exists_write_after_write hwrite hlast
    exact ⟨desk', leads_bind.mpr ⟨(), _, leads_put.mpr ⟨files, hwrite, rfl⟩, hleads⟩⟩

/-- The files are spared by putting files into their places, if all but the first can be written. -/
theorem spares_putAll {kept : List (Path × Content S)}
    (hwrites : ∀ file ∈ kept.tail, ∀ content, ∃ last, desk.files.write file.1 content = .ok last) :
    Spares (kept.forM fun (place, content) => put place content) desk := by
  cases kept with
  | nil => exact (leaves_pure _ _).spares
  | cons file kept =>
    refine (spares_put file.1 file.2 desk).bind fun _ desk' hleads => ?_
    obtain ⟨files, hwrite, rfl⟩ := leads_put.mp hleads
    obtain ⟨last, hrest⟩ := exists_leads_putAll { desk with files } fun other hother content => by
      obtain ⟨last, hlast⟩ := hwrites other hother content
      exact Files.exists_write_after_write hwrite hlast
    exact ⟨(), last, hrest⟩

/-- The files are spared by saving a recording, if there is room in its folder for every file of it
after the first. -/
theorem spares_saveRecording (recording : Recording S) (formats : Formats R S) (desk : Desk S)
    (haccepts : ∀ kept, formats.filesOf p recording = .ok kept →
      ∀ file ∈ kept.tail, file.1.parent = p.parent ∧ desk.files.Accepts file.1) :
    Spares (saveRecording p recording formats) desk := by
  unfold saveRecording
  refine (leaves_makeRoom p desk).bind_spares fun _ desk' hroom =>
    (leaves_of _ _).bind_spares fun kept _ hleads => ?_
  obtain ⟨hkept, rfl⟩ := leads_of.mp hleads
  obtain ⟨room, hmade, rfl⟩ := leads_makeRoom.mp hroom
  refine spares_tryCatch (spares_putAll fun file hfile => ?_) _
  obtain ⟨hparent, haccept⟩ := haccepts kept hkept file hfile
  intro content
  obtain ⟨last, room', hmade', hwrite⟩ := haccept content
  rw [hparent, hmade] at hmade'
  obtain ⟨-, rfl⟩ := Prod.mk.inj hmade'
  exact ⟨last, hwrite⟩

end Task

/-! ## §5 Runs -/

namespace Run

variable {S α β : Type} {console : Console S}

theorem leaves_task {t : Task S α} (h : Leaves t console.desk) : Leaves (task t) console := h

theorem spares_task {t : Task S α} (h : Spares t console.desk) : Spares (task t) console := by
  intro stop console' hrun
  have hrun' : ((t.run.run console.desk).1.mapError Stop.fault,
      { console with desk := (t.run.run console.desk).2 }) = (.error stop, console') := hrun
  obtain ⟨hresult, rfl⟩ := Prod.mk.inj hrun'
  obtain ⟨fault, hfails, -⟩ := Except.mapError_eq_error.mp hresult
  exact h fault _ (Prod.ext hfails rfl)

theorem leaves_work (w : Work α) (console : Console S) : Leaves (work w : Run S α) console :=
  leaves_task (Task.leaves_ofWork w console.desk)

theorem leaves_of (result : Except Fault α) (console : Console S) :
    Leaves (of result : Run S α) console :=
  Files.SameFiles.refl _

theorem leaves_print (screen : Screen) (p : Printed) (console : Console S) :
    Leaves (print screen p : Run S Unit) console := by
  unfold print
  exact (leaves_of _ _).bind fun _ _ _ => Files.SameFiles.refl _

theorem leaves_say (screen : Screen) (markup : Text) (console : Console S) :
    Leaves (say screen markup : Run S Unit) console := by
  unfold say
  exact (leaves_of _ _).bind fun _ _ _ => leaves_print _ _ _

theorem leaves_forM {f : α → Run S Unit} (h : ∀ x console, Leaves (f x) console) (xs : List α)
    (console : Console S) : Leaves (xs.forM f) console := by
  induction xs generalizing console with
  | nil => exact leaves_pure _ _
  | cons x xs ih => exact (h x console).bind fun _ _ _ => ih _

/-- Printing the warnings and the fault of a piece of work changes no file. -/
theorem leaves_settle (screen : Screen) (warnings : List Warning) (result : Except Stop α)
    (console : Console S) : Leaves (settle screen warnings result) console := by
  have hwarnings (console : Console S) : Leaves (warnings.forM (sayWarning screen)) console :=
    leaves_forM (fun _ _ => leaves_say _ _ _) warnings console
  cases result with
  | ok x => exact (hwarnings console).bind fun _ _ _ => leaves_pure _ _
  | error stop =>
    cases stop with
    | reported => exact leaves_throw _ _
    | fault f =>
      rw [settle]
      split
      · exact (hwarnings console).bind fun _ _ _ => (leaves_say _ _ _).bind fun _ _ _ =>
          leaves_throw _ _
      · exact leaves_throw _ _

variable {screen : Screen}

theorem leaves_guarded {body : Run S α} (h : ∀ console, Leaves body console) (console : Console S) :
    Leaves (guarded screen body) console := by
  have hbody := h (withGiven [] console)
  have hsettle := leaves_settle screen (body.run.run (withGiven [] console)).2.desk.journal.warnings
    (body.run.run (withGiven [] console)).1
    (withGiven console.desk.journal.given (body.run.run (withGiven [] console)).2)
  unfold Leaves at hbody hsettle ⊢
  rw [run_guarded]
  exact hbody.trans hsettle

/-- **A guarded piece of work spares the files if the work does**, and gives only warnings that can
be made bytes: they can be printed whatever they name, so nothing fails after it went well. -/
theorem spares_guarded {body : Run S α} (hscreen : screen.Lawful) (hadds : AddsWhole body)
    (h : Spares body (withGiven [] console)) : Spares (guarded screen body) console := by
  intro stop console' hrun
  rw [run_guarded] at hrun
  rcases hbody : body.run.run (withGiven [] console) with ⟨result, after⟩
  rw [hbody] at hrun
  cases result with
  | ok x =>
    -- The work may have written, but then only its warnings are left to print
    obtain ⟨ws, hgiven, hwhole⟩ := hadds _ x after hbody
    obtain ⟨said, hsaid, -⟩ := exists_leads_sayAll (hscreen.sayable_warnings hgiven hwhole)
      (withGiven console.desk.journal.given after)
    have hsettled : Leads (settle screen after.desk.journal.warnings (.ok x))
        (withGiven console.desk.journal.given after) x said :=
      leads_bind.mpr ⟨(), said, hsaid, leads_pure.mpr ⟨rfl, rfl⟩⟩
    unfold Leads at hsettled
    rw [hsettled] at hrun
    cases hrun
  | error stop' =>
    have hsettle := leaves_settle screen after.desk.journal.warnings (.error stop' : Except Stop α)
      (withGiven console.desk.journal.given after)
    unfold Leaves at hsettle
    rw [hrun] at hsettle
    exact (h stop' after hbody).trans hsettle

end Run

end Lamella
