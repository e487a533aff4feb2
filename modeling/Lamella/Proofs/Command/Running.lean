import Lamella.Command.Perform
import Lamella.Proofs.Files.Kept
import Lamella.Proofs.Song.Owning
import Mathlib.Data.List.TakeWhile

/-!
# Runs that go well

A run of a command goes well if all its parts do, one after another. What they say is printed only if
its markup can be read and the screen takes what it shows, so this too is a condition; that something
was said changes nothing else.

## Main definitions

- `Leads`: work on a state that goes well.
- `Screen.Sayable`: markup that can be shown and printed.

## Main statements

- `leads_bind`: one piece of work after another.
- `Task.leads_saveSong`, `Task.leads_loadSong`: when songs are saved and loaded.
- `Run.leads_guarded`, `Run.exists_leads_sayAll`: when warnings can be printed after a piece of work.
-/

namespace Lamella

/-! ## §1 Work on a state -/

section

variable {ε σ α β : Type} {w : ExceptT ε (StateM σ) α} {s s' : σ} {a : α} {b : β}

/-- Work on a state goes well: it returns a result and leaves another state. -/
def Leads (w : ExceptT ε (StateM σ) α) (s : σ) (a : α) (s' : σ) : Prop := w.run.run s = (.ok a, s')

theorem leads_iff : Leads w s a s' ↔ (w.run.run s).1 = .ok a ∧ (w.run.run s).2 = s' := Prod.ext_iff

@[simp] theorem leads_pure {a' : α} :
    Leads (pure a : ExceptT ε (StateM σ) α) s a' s' ↔ a = a' ∧ s = s' := by
  constructor
  · intro h
    cases h
    exact ⟨rfl, rfl⟩
  · rintro ⟨rfl, rfl⟩
    rfl

/-- One piece of work after another goes well just if both do. -/
theorem leads_bind {f : α → ExceptT ε (StateM σ) β} :
    Leads (w >>= f) s b s' ↔ ∃ a t, Leads w s a t ∧ Leads (f a) t b s' := by
  unfold Leads
  rw [ExceptT.run_bind, StateT.run_bind]
  constructor
  · intro h
    rcases hw : w.run.run s with ⟨fault | a, t⟩
    · rw [hw] at h
      cases h
    · rw [hw] at h
      exact ⟨a, t, rfl, h⟩
  · rintro ⟨a, t, hw, hf⟩
    rw [hw]
    exact hf

/-- After work that goes well, what comes of a piece of work is what comes of it next. -/
theorem Leads.run_bind (h : Leads w s a s') (f : α → ExceptT ε (StateM σ) β) :
    (w >>= f).run.run s = (f a).run.run s' := by
  unfold Leads at h
  rw [ExceptT.run_bind, StateT.run_bind, h]
  rfl

@[simp] theorem not_leads_throw {e : ε} : ¬ Leads (throw e : ExceptT ε (StateM σ) α) s a s' := nofun

end

/-! ## §2 Tasks -/

namespace Task

variable {S α : Type} {desk desk' : Desk S} {a : α} {u : Unit} {p : Path}

theorem leads_ofWork {w : Work α} : Leads (ofWork w : Task S α) desk a desk' ↔
    ∃ j, w.Gives desk.journal a j ∧ { desk with journal := j } = desk' := by
  have hrun : Leads (ofWork w : Task S α) desk a desk' ↔ (w.run.run desk.journal).1 = .ok a ∧
      { desk with journal := (w.run.run desk.journal).2 } = desk' := leads_iff
  rw [hrun]
  constructor
  · rintro ⟨hresult, hdesk⟩
    exact ⟨_, Prod.ext hresult rfl, hdesk⟩
  · rintro ⟨j, hgives, hdesk⟩
    obtain ⟨hresult, rfl⟩ := Prod.ext_iff.mp hgives
    exact ⟨hresult, hdesk⟩

@[simp] theorem leads_of {result : Except Fault α} :
    Leads (of result : Task S α) desk a desk' ↔ result = .ok a ∧ desk = desk' :=
  Prod.ext_iff

@[simp] theorem leads_files {found : Files S} :
    Leads (Task.files : Task S (Files S)) desk found desk' ↔ desk.files = found ∧ desk = desk' := by
  constructor
  · intro h
    cases h
    exact ⟨rfl, rfl⟩
  · rintro ⟨rfl, rfl⟩
    rfl

theorem leads_contains {there : Bool} : Leads (contains p : Task S Bool) desk there desk' ↔
    desk.files.contains p = .ok there ∧ desk = desk' := by
  unfold contains
  rw [leads_bind]
  simp only [leads_files, leads_of]
  constructor
  · rintro ⟨_, _, ⟨rfl, rfl⟩, h⟩
    exact h
  · exact fun h => ⟨_, _, ⟨rfl, rfl⟩, h⟩

theorem leads_makeRoom : Leads (makeRoom p : Task S Unit) desk u desk' ↔
    ∃ room, desk.files.makeFolder p.parent = (.ok (), room) ∧ { desk with files := room } = desk' := by
  have hrun : Leads (makeRoom p : Task S Unit) desk u desk' ↔
      (desk.files.makeFolder p.parent).1 = .ok u ∧
        { desk with files := (desk.files.makeFolder p.parent).2 } = desk' := leads_iff
  rw [hrun]
  constructor
  · rintro ⟨hmade, hdesk⟩
    exact ⟨_, Prod.ext hmade rfl, hdesk⟩
  · rintro ⟨room, hmakes, hdesk⟩
    obtain ⟨hmade, rfl⟩ := Prod.ext_iff.mp hmakes
    exact ⟨hmade, hdesk⟩

theorem leads_put {content : Content S} : Leads (put p content) desk u desk' ↔
    ∃ files, desk.files.write p content = .ok files ∧ { desk with files } = desk' := by
  have hmodify {files : Files S} {desk : Desk S} :
      Leads (modifyThe (Desk S) fun desk => { desk with files } : Task S Unit) desk u desk' ↔
        { desk with files } = desk' := by
    constructor
    · intro h
      cases h
      rfl
    · rintro rfl
      rfl
  unfold put
  simp only [leads_bind, leads_files, leads_of, hmodify]
  constructor
  · rintro ⟨_, _, ⟨rfl, rfl⟩, files, _, ⟨hwrite, rfl⟩, hdesk⟩
    exact ⟨files, hwrite, hdesk⟩
  · rintro ⟨files, hwrite, hdesk⟩
    exact ⟨_, _, ⟨rfl, rfl⟩, files, _, ⟨hwrite, rfl⟩, hdesk⟩

/-- What comes of work whose faults are all called by one name. -/
theorem run_tryCatch (w : Task S α) (fault : Fault) (desk : Desk S) :
    (tryCatch w fun _ => throw fault).run.run desk =
      ((w.run.run desk).1.mapError fun _ => fault, (w.run.run desk).2) := by
  rw [ExceptT.run_tryCatch, StateT.run_bind]
  rcases w.run.run desk with ⟨_ | _, _⟩ <;> rfl

theorem leads_tryCatch {w : Task S α} {fault : Fault} :
    Leads (tryCatch w fun _ => throw fault) desk a desk' ↔ Leads w desk a desk' := by
  unfold Leads
  rw [run_tryCatch]
  rcases w.run.run desk with ⟨_ | _, _⟩
  · exact iff_of_false nofun nofun
  · exact Iff.rfl

theorem firstRun?_isHalf_eq_none {s : Text} :
    Text.firstRun? Point.isHalf s = none ↔ ∀ c ∈ s, c.isHalf = false := by
  have hdropped : s.dropWhile (!Point.isHalf ·) = [] ↔ ∀ c ∈ s, c.isHalf = false := by
    simp [List.dropWhile_eq_nil_iff]
  rw [← hdropped]
  unfold Text.firstRun?
  cases s.dropWhile (!Point.isHalf ·) <;> simp

/-- A text is written just if it has no halves and its file can be written. -/
theorem leads_write_text {s : Text} : Leads (write p (.text s) : Task S Unit) desk u desk' ↔
    (∀ c ∈ s, c.isHalf = false) ∧
      ∃ files, desk.files.write p (.text s) = .ok files ∧ { desk with files } = desk' := by
  rw [← firstRun?_isHalf_eq_none]
  unfold write
  dsimp only
  rcases Text.firstRun? Point.isHalf s with _ | ⟨place, count, unit⟩
  · simp only [leads_put, true_and]
  · simp [leads_bind]

end Task

/-- A file is saved, with the folders on the way to it. -/
def Files.Stores {S : Type} (files : Files S) (p : Path) (content : Content S) (files' : Files S) :
    Prop :=
  ∃ room, files.makeFolder p.parent = (.ok (), room) ∧ room.write p content = .ok files'

namespace Files.Stores

variable {S : Type} {files files' : Files S} {p : Path} {content : Content S}

theorem keeps (h : files.Stores p content files') : files.Keeps files' := by
  obtain ⟨room, hmade, hwrite⟩ := h
  exact (makeFolder_spec hmade).1.trans (keeps_of_write hwrite)

theorem readText {s : Text} (h : files.Stores p (.text s) files') :
    files'.readText p = .ok (Text.unifyLineEnds s) := by
  obtain ⟨room, -, hwrite⟩ := h
  exact readText_of_write hwrite

/-- What was saved once can be saved again. -/
theorem exists_again (h : files.Stores p content files') {later : Files S}
    (hkeeps : files'.Keeps later) (content' : Content S) :
    ∃ last, later.Stores p content' last := by
  obtain ⟨room, hmade, hwrite⟩ := h
  obtain ⟨last, hlast⟩ := exists_write_again hwrite hkeeps content'
  exact ⟨last, later, (makeFolder_spec hmade).2 later ((keeps_of_write hwrite).trans hkeeps), hlast⟩

end Files.Stores

namespace Task

variable {S R : Type} [Scalar R] {desk desk' : Desk S} {u : Unit} {p : Path} {song : Song R}

/-- **A song is saved** just if its text has no halves and its file can be saved. -/
theorem leads_saveSong : Leads (saveSong p song : Task S Unit) desk u desk' ↔
    (∀ c ∈ song.toText, c.isHalf = false) ∧
      ∃ files, desk.files.Stores p (.text song.toText) files ∧ { desk with files } = desk' := by
  unfold saveSong save
  simp only [leads_bind, leads_makeRoom, leads_write_text]
  constructor
  · rintro ⟨_, _, ⟨room, hmade, rfl⟩, hhalf, files, hwrite, rfl⟩
    exact ⟨hhalf, files, ⟨room, hmade, hwrite⟩, rfl⟩
  · rintro ⟨hhalf, files, ⟨room, hmade, hwrite⟩, rfl⟩
    exact ⟨(), _, ⟨room, hmade, rfl⟩, hhalf, files, hwrite, rfl⟩

theorem contains_of_readText {files : Files S} {text : Text} (h : files.readText p = .ok text) :
    files.contains p = .ok true := by
  obtain ⟨place, s, hlocate, hfile, -⟩ := Files.readText_eq_ok.mp h
  exact Files.contains_eq_true.mpr ⟨place, _, hlocate, hfile⟩

theorem leads_songText {text : Text} : Leads (songText p : Task S Text) desk text desk' ↔
    desk.files.readText p = .ok text ∧ desk = desk' := by
  unfold songText
  rw [leads_bind]
  simp only [leads_contains]
  constructor
  · rintro ⟨there, _, ⟨-, rfl⟩, h⟩
    cases there with
    | false => simp at h
    | true =>
      simp only [if_true, leads_bind, leads_files, leads_of] at h
      obtain ⟨_, _, ⟨rfl, rfl⟩, hread⟩ := h
      exact hread
  · -- A file that can be read is there, so it is not asked for in vain
    rintro ⟨hread, rfl⟩
    refine ⟨true, desk, ⟨contains_of_readText hread, rfl⟩, ?_⟩
    simp only [if_true, leads_bind, leads_files, leads_of]
    exact ⟨_, _, ⟨rfl, rfl⟩, hread, rfl⟩

/-- **A song is loaded** just if its file holds a text that gives it. -/
theorem leads_loadSong : Leads (loadSong p : Task S (Song R)) desk song desk' ↔
    ∃ text j, desk.files.readText p = .ok text ∧ (Song.ofText text).Gives desk.journal song j ∧
      { desk with journal := j } = desk' := by
  unfold loadSong
  simp only [leads_bind, leads_songText, leads_ofWork]
  constructor
  · rintro ⟨text, _, ⟨hread, rfl⟩, j, hsong, hdesk⟩
    exact ⟨text, j, hread, hsong, hdesk⟩
  · rintro ⟨text, j, hread, hsong, hdesk⟩
    exact ⟨text, _, ⟨hread, rfl⟩, j, hsong, hdesk⟩

end Task

/-! ## §3 Runs -/

namespace Run

variable {S α : Type} {console console' : Console S} {a : α} {u : Unit}

theorem leads_task {t : Task S α} : Leads (task t) console a console' ↔
    ∃ desk, Leads t console.desk a desk ∧ { console with desk } = console' := by
  have hrun : Leads (task t) console a console' ↔
      (t.run.run console.desk).1.mapError Stop.fault = .ok a ∧
        { console with desk := (t.run.run console.desk).2 } = console' := leads_iff
  rw [hrun, Except.mapError_eq_ok]
  constructor
  · rintro ⟨hresult, hconsole⟩
    exact ⟨_, Prod.ext hresult rfl, hconsole⟩
  · rintro ⟨desk, hleads, hconsole⟩
    obtain ⟨hresult, rfl⟩ := leads_iff.mp hleads
    exact ⟨hresult, hconsole⟩

theorem leads_work {w : Work α} : Leads (work w : Run S α) console a console' ↔
    ∃ j, w.Gives console.desk.journal a j ∧
      { console with desk := { console.desk with journal := j } } = console' := by
  unfold work
  simp only [leads_task, Task.leads_ofWork]
  constructor
  · rintro ⟨_, ⟨j, hw, rfl⟩, hconsole⟩
    exact ⟨j, hw, hconsole⟩
  · rintro ⟨j, hw, hconsole⟩
    exact ⟨_, ⟨j, hw, rfl⟩, hconsole⟩

@[simp] theorem leads_of {result : Except Fault α} :
    Leads (of result : Run S α) console a console' ↔ result = .ok a ∧ console = console' :=
  Prod.ext_iff.trans (and_congr_left fun _ => Except.mapError_eq_ok)

@[simp] theorem leads_print {screen : Screen} {p : Printed} :
    Leads (print screen p : Run S Unit) console u console' ↔
      screen.accept p = .ok () ∧ { console with printed := p :: console.printed } = console' := by
  have hmodify {console : Console S} : Leads (modifyThe (Console S) fun console =>
      { console with printed := p :: console.printed } : Run S Unit) console u console' ↔
        { console with printed := p :: console.printed } = console' := by
    constructor
    · intro h
      cases h
      rfl
    · rintro rfl
      rfl
  unfold print
  simp only [leads_bind, leads_of, hmodify]
  constructor
  · rintro ⟨_, _, ⟨haccept, rfl⟩, hconsole⟩
    exact ⟨haccept, hconsole⟩
  · rintro ⟨haccept, hconsole⟩
    exact ⟨_, _, ⟨haccept, rfl⟩, hconsole⟩

end Run

/-- Markup that can be shown and printed. -/
def Screen.Sayable (screen : Screen) (markup : Text) : Prop :=
  ∃ shown, screen.shown markup = .ok shown ∧ screen.accept (.text shown) = .ok ()

namespace Run

variable {S α : Type} {screen : Screen} {console console' : Console S} {a : α} {u : Unit}

theorem leads_say {markup : Text} : Leads (say screen markup : Run S Unit) console u console' ↔
    ∃ shown, (screen.shown markup = .ok shown ∧ screen.accept (.text shown) = .ok ()) ∧
      { console with printed := .text shown :: console.printed } = console' := by
  unfold say
  simp only [leads_bind, leads_of, leads_print]
  constructor
  · rintro ⟨shown, _, ⟨hshown, rfl⟩, haccept, hconsole⟩
    exact ⟨shown, ⟨hshown, haccept⟩, hconsole⟩
  · rintro ⟨shown, ⟨hshown, haccept⟩, hconsole⟩
    exact ⟨shown, _, ⟨hshown, rfl⟩, haccept, hconsole⟩

/-- What was said could be said. -/
theorem sayable_of_leads_say {markup : Text}
    (h : Leads (say screen markup : Run S Unit) console u console') : screen.Sayable markup := by
  obtain ⟨shown, hshown, -⟩ := leads_say.mp h
  exact ⟨shown, hshown⟩

theorem exists_leads_say {markup : Text} (h : screen.Sayable markup) (console : Console S) :
    ∃ console', Leads (say screen markup : Run S Unit) console () console' ∧
      console'.desk = console.desk := by
  obtain ⟨shown, hshown⟩ := h
  exact ⟨_, leads_say.mpr ⟨shown, hshown, rfl⟩, rfl⟩

/-- What is said when a warning is printed. -/
def warningMarkup (screen : Screen) (w : Warning) : Text :=
  "[yellow]Warning: " ++ screen.escape w.message ++ "[/yellow]"

/-- Warnings are printed just if all of them can be said. -/
theorem sayable_of_leads_sayAll {ws : List Warning}
    (h : Leads (ws.forM (sayWarning screen)) console u console') :
    (∀ w ∈ ws, screen.Sayable (warningMarkup screen w)) ∧ console'.desk = console.desk := by
  induction ws generalizing console with
  | nil =>
    obtain ⟨-, rfl⟩ := leads_pure.mp h
    exact ⟨nofun, rfl⟩
  | cons w ws ih =>
    obtain ⟨⟨⟩, _, hw, hrest⟩ := leads_bind.mp h
    have hsayable := sayable_of_leads_say hw
    obtain ⟨shown, -, rfl⟩ := leads_say.mp hw
    obtain ⟨hws, hdesk⟩ := ih hrest
    exact ⟨List.forall_mem_cons.mpr ⟨hsayable, hws⟩, hdesk⟩

theorem exists_leads_sayAll {ws : List Warning}
    (h : ∀ w ∈ ws, screen.Sayable (warningMarkup screen w)) (console : Console S) :
    ∃ console', Leads (ws.forM (sayWarning screen)) console () console' ∧
      console'.desk = console.desk := by
  induction ws generalizing console with
  | nil => exact ⟨console, leads_pure.mpr ⟨rfl, rfl⟩, rfl⟩
  | cons w ws ih =>
    obtain ⟨hw, hws⟩ := List.forall_mem_cons.mp h
    obtain ⟨said, hsaid, hdesk⟩ := exists_leads_say hw console
    obtain ⟨console', hrest, hdesk'⟩ := ih hws said
    exact ⟨console', leads_bind.mpr ⟨(), said, hsaid, hrest⟩, hdesk'.trans hdesk⟩

/-- What comes of a guarded piece of work: what is printed of the work, from where that left off. -/
theorem run_guarded (body : Run S α) (console : Console S) : (guarded screen body).run.run console =
    (settle screen (body.run.run (withGiven [] console)).2.desk.journal.warnings
      (body.run.run (withGiven [] console)).1).run.run
      (withGiven console.desk.journal.given (body.run.run (withGiven [] console)).2) := rfl

/-- **A guarded piece of work goes well** just if it does from a journal without warnings and those
that it leaves can be printed. -/
theorem leads_guarded {body : Run S α} : Leads (guarded screen body) console a console' ↔
    ∃ after, Leads body (withGiven [] console) a after ∧
      Leads (after.desk.journal.warnings.forM (sayWarning screen))
        (withGiven console.desk.journal.given after) () console' := by
  have hleads : Leads (guarded screen body) console a console' ↔
      Leads (settle screen (body.run.run (withGiven [] console)).2.desk.journal.warnings
        (body.run.run (withGiven [] console)).1)
        (withGiven console.desk.journal.given (body.run.run (withGiven [] console)).2) a
        console' := by
    unfold Leads
    rw [run_guarded]
  rw [hleads]
  rcases hbody : body.run.run (withGiven [] console) with ⟨result, after⟩
  have hbody' {x : α} {between : Console S} : Leads body (withGiven [] console) x between ↔
      result = .ok x ∧ after = between := by
    unfold Leads
    rw [hbody]
    exact Prod.ext_iff
  simp only [hbody']
  cases result with
  | ok x =>
    rw [settle, leads_bind]
    simp only [leads_pure]
    constructor
    · rintro ⟨⟨⟩, _, hsaid, rfl, rfl⟩
      exact ⟨after, ⟨rfl, rfl⟩, hsaid⟩
    · rintro ⟨_, ⟨hx, rfl⟩, hsaid⟩
      cases hx
      exact ⟨(), _, hsaid, rfl, rfl⟩
  | error stop =>
    -- What went wrong is raised again, be it printed before or not
    refine iff_of_false ?_ (by simp)
    cases stop with
    | reported => exact not_leads_throw
    | fault f =>
      rw [settle]
      split
      · simp [leads_bind]
      · exact not_leads_throw

end Run

end Lamella
