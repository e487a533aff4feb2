import Lamella.Files.Basic
import Lamella.Proofs.Result

/-!
# What work on files keeps

Folders that are made are new, and a file is written only where no folder is. So what is there stays
there, folders as folders and files as files, and a path that led somewhere leads there still. What
was written is read back, and what could be made or written once can be made or written again.

## Main definitions

- `Files.Keeps`: what is in one tree is of the same kind in another.

## Main statements

- `Files.makeFolder_spec`, `Files.keeps_of_write`: making folders and writing keep what is there.
- `Files.locate_of_keeps`: paths lead where they did.
- `Files.exists_write_again`: what was written can be written again.
- `Files.readText_of_write`: a text that was written is read.
-/

namespace Lamella.Files

variable {S : Type}

/-! ## §1 Places -/

/-- A place where a folder always is. -/
def IsGiven (place : Place) : Prop := place = root ∨ place.all isOutward = true

theorem at?_of_isGiven {place : Place} (h : IsGiven place) (files : Files S) :
    files.at? place = some .folder := if_pos h

theorem at?_of_not_isGiven {place : Place} (h : ¬ IsGiven place) (files : Files S) :
    files.at? place = files.entries.lookup place := if_neg h

theorem lookup_filter_ne {entries : List (Place × Entry S)} {place other : Place}
    (h : other ≠ place) :
    (entries.filter fun e => decide (e.1 ≠ place)).lookup other = entries.lookup other := by
  induction entries with
  | nil => rfl
  | cons e entries ih =>
    by_cases hplace : e.1 = place
    · have hne : (other == e.1) = false := beq_eq_false_iff_ne.mpr (hplace ▸ h)
      rw [List.filter_cons_of_neg (by simp [hplace]), ih, List.lookup_cons, hne]
    · rw [List.filter_cons_of_pos (by simp [hplace]), List.lookup_cons, List.lookup_cons, ih]

theorem at?_put_self {place : Place} (h : ¬ IsGiven place) (files : Files S) (entry : Entry S) :
    (files.put place entry).at? place = some entry := by
  rw [at?_of_not_isGiven h, put, List.lookup_cons, beq_self_eq_true]

theorem at?_put_of_ne {place other : Place} (h : other ≠ place) (files : Files S) (entry : Entry S) :
    (files.put place entry).at? other = files.at? other := by
  by_cases hgiven : IsGiven other
  · rw [at?_of_isGiven hgiven, at?_of_isGiven hgiven]
  · have hne : (other == place) = false := beq_eq_false_iff_ne.mpr h
    rw [at?_of_not_isGiven hgiven, at?_of_not_isGiven hgiven, put, List.lookup_cons, hne]
    exact lookup_filter_ne h

theorem not_isGiven_of_none {files : Files S} {place : Place} (h : files.at? place = none) :
    ¬ IsGiven place := by
  intro hgiven
  rw [at?_of_isGiven hgiven] at h
  cases h

/-! ## §2 What is kept -/

/-- What is in one tree is in another, folders as folders and files as files. -/
def Keeps (files files' : Files S) : Prop := ∀ place entry, files.at? place = some entry →
  ∃ entry', files'.at? place = some entry' ∧ (entry' = .folder ↔ entry = .folder)

theorem Keeps.refl (files : Files S) : files.Keeps files := fun _ entry h => ⟨entry, h, Iff.rfl⟩

theorem Keeps.trans {files files' files'' : Files S} (h : files.Keeps files')
    (h' : files'.Keeps files'') : files.Keeps files'' := by
  intro place entry hentry
  obtain ⟨entry', hentry', hkind⟩ := h place entry hentry
  obtain ⟨entry'', hentry'', hkind'⟩ := h' place entry' hentry'
  exact ⟨entry'', hentry'', hkind'.trans hkind⟩

theorem Keeps.folder {files files' : Files S} (h : files.Keeps files') {place : Place}
    (hfolder : files.at? place = some .folder) : files'.at? place = some .folder := by
  obtain ⟨entry, hentry, hkind⟩ := h place .folder hfolder
  rw [hentry, hkind.mpr rfl]

/-- Where a file is, no folder will be. -/
theorem Keeps.not_folder {files files' : Files S} (h : files.Keeps files') {place : Place}
    {content : Content S} (hfile : files.at? place = some (.file content)) :
    files'.at? place ≠ some .folder := by
  obtain ⟨entry, hentry, hkind⟩ := h place (.file content) hfile
  intro hfolder
  rw [hentry] at hfolder
  cases hkind.mp (Option.some.inj hfolder)

/-- Where nothing is, anything can be put. -/
theorem keeps_put_of_none {files : Files S} {place : Place} (h : files.at? place = none)
    (entry : Entry S) : files.Keeps (files.put place entry) := by
  intro other old hold
  have hne : other ≠ place := by
    rintro rfl
    rw [h] at hold
    cases hold
  exact ⟨old, by rw [at?_put_of_ne hne, hold], Iff.rfl⟩

/-- Where no folder is, a file can be put. -/
theorem keeps_put_file {files : Files S} {place : Place} (h : files.at? place ≠ some .folder)
    (content : Content S) : files.Keeps (files.put place (.file content)) := by
  intro other old hold
  by_cases hplace : other = place
  · subst hplace
    have hgiven : ¬ IsGiven other := fun hgiven => h (at?_of_isGiven hgiven files)
    have hfile : old ≠ .folder := by
      rintro rfl
      exact h hold
    exact ⟨_, at?_put_self hgiven files _, by simp [hfile]⟩
  · exact ⟨old, by rw [at?_put_of_ne hplace, hold], Iff.rfl⟩

/-- Names lead on through folders, so they lead where they did. -/
theorem walk_of_keeps {files files' : Files S} (h : files.Keeps files') {names : List Text}
    {place place' : Place} (hwalk : files.walk place names = .ok place') :
    files'.walk place names = .ok place' := by
  induction names generalizing place with
  | nil => exact hwalk
  | cons name names ih =>
    rw [walk] at hwalk ⊢
    cases hentry : files.at? place with
    | none => simp [hentry] at hwalk
    | some entry =>
      cases entry with
      | file content => simp [hentry] at hwalk
      | folder =>
        simp only [hentry] at hwalk
        simp only [h.folder hentry]
        obtain ⟨u, hname, hrest⟩ := Except.bind_eq_ok.mp hwalk
        exact Except.bind_eq_ok.mpr ⟨u, hname, ih hrest⟩

/-- **Paths lead where they did.** -/
theorem locate_of_keeps {files files' : Files S} (h : files.Keeps files') {p : Path} {place : Place}
    (hlocate : files.locate p = .ok place) : files'.locate p = .ok place := by
  obtain ⟨u, hcheck, hwalk⟩ := Except.bind_eq_ok.mp hlocate
  exact Except.bind_eq_ok.mpr ⟨u, hcheck, walk_of_keeps h hwalk⟩

/-! ## §3 Folders that are made -/

/-- What was made stays made: making the folders again changes nothing. -/
theorem makeFrom_spec {files files' : Files S} {place : Place} {names : List Text}
    (h : files.makeFrom place names = (.ok (), files')) :
    files.Keeps files' ∧
      ∀ later : Files S, files'.Keeps later → later.makeFrom place names = (.ok (), later) := by
  induction names generalizing files place with
  | nil =>
    obtain ⟨-, rfl⟩ := Prod.mk.inj h
    exact ⟨.refl files, fun _ _ => rfl⟩
  | cons name names ih =>
    rw [makeFrom] at h
    cases hname : Path.checkName name with
    | error fault => simp [hname] at h
    | ok u =>
      simp only [hname] at h
      -- Either way the folder is there when the others are made
      have hmade : ∀ between : Files S, between.at? (step place name) = some .folder →
          between.makeFrom (step place name) names = (.ok (), files') →
          between.Keeps files' ∧ ∀ later : Files S, files'.Keeps later →
            later.makeFrom place (name :: names) = (.ok (), later) := by
        intro between hfolder hrest
        obtain ⟨hkeeps, hagain⟩ := ih hrest
        refine ⟨hkeeps, fun later hlater => ?_⟩
        simp only [makeFrom, hname, hlater.folder (hkeeps.folder hfolder), hagain later hlater]
      cases hentry : files.at? (step place name) with
      | none =>
        simp only [hentry] at h
        obtain ⟨hkeeps, hagain⟩ :=
          hmade _ (at?_put_self (not_isGiven_of_none hentry) files .folder) h
        exact ⟨(keeps_put_of_none hentry .folder).trans hkeeps, hagain⟩
      | some entry =>
        cases entry with
        | file content => simp [hentry] at h
        | folder =>
          simp only [hentry] at h
          exact hmade files hentry h

theorem makeFolder_spec {files files' : Files S} {p : Path}
    (h : files.makeFolder p = (.ok (), files')) :
    files.Keeps files' ∧
      ∀ later : Files S, files'.Keeps later → later.makeFolder p = (.ok (), later) := by
  unfold makeFolder at h ⊢
  cases hcheck : p.check with
  | error fault => simp [hcheck] at h
  | ok u =>
    simp only [hcheck] at h ⊢
    exact makeFrom_spec h

/-! ## §4 Files that are written and read -/

/-- A path of one name leads to a place in the working folder. -/
theorem locate_name (files : Files S) {p : Path} {name : Text} (hcheck : p.check = .ok ())
    (hslashes : p.slashes = 0) (hnames : p.names = [name]) (hname : Path.checkName name = .ok ())
    (hinward : isOutward name = false) : files.locate p = .ok [name.settle] := by
  have hworking : IsGiven [] := .inr rfl
  have hstep : step [] name = [name.settle] := by simp [step, hinward]
  refine Except.bind_eq_ok.mpr ⟨(), hcheck, ?_⟩
  rw [start, if_pos hslashes, hnames, walk, at?_of_isGiven hworking]
  dsimp only
  rw [hname, hstep]
  rfl

variable {files files' : Files S} {p : Path} {content : Content S}

theorem write_eq_ok : files.write p content = .ok files' ↔ ∃ place, files.locate p = .ok place ∧
    files.at? place ≠ some .folder ∧ files' = files.put place (.file content) := by
  unfold write
  simp only [Except.bind_eq_ok]
  refine exists_congr fun place => and_congr_right fun _ => ?_
  cases hentry : files.at? place with
  | none => simp [pure, Except.pure, eq_comm]
  | some entry => cases entry <;> simp [pure, Except.pure, throw, throwThe, MonadExceptOf.throw, eq_comm]

/-- Something is at a path just if it leads to a place where something is. -/
theorem entry?_eq_some {entry : Entry S} : files.entry? p = .ok (some entry) ↔
    ∃ place, files.locate p = .ok place ∧ files.at? place = some entry := by
  unfold entry?
  cases hlocate : files.locate p with
  | ok place => simp
  | error fault => cases fault <;> simp

theorem contains_eq_true : files.contains p = .ok true ↔
    ∃ place entry, files.locate p = .ok place ∧ files.at? place = some entry := by
  unfold contains
  simp only [Except.bind_eq_ok]
  constructor
  · rintro ⟨found, hfound, hsome⟩
    obtain ⟨entry, rfl⟩ := Option.isSome_iff_exists.mp (Except.ok.inj hsome)
    obtain ⟨place, hlocate, hentry⟩ := entry?_eq_some.mp hfound
    exact ⟨place, entry, hlocate, hentry⟩
  · rintro ⟨place, entry, hlocate, hentry⟩
    exact ⟨some entry, entry?_eq_some.mpr ⟨place, hlocate, hentry⟩, rfl⟩

theorem readText_eq_ok {text : Text} : files.readText p = .ok text ↔
    ∃ place s, files.locate p = .ok place ∧ files.at? place = some (.file (.text s)) ∧
      Text.unifyLineEnds s = text := by
  unfold readText read
  simp only [Except.bind_eq_ok]
  constructor
  · rintro ⟨content, ⟨found, hfound, hcontent⟩, htext⟩
    match found, hfound, hcontent with
    | some (.file content'), hfound, hcontent =>
      cases Except.ok.inj hcontent
      match content, hfound, htext with
      | .text s, hfound, htext =>
        obtain ⟨place, hlocate, hentry⟩ := entry?_eq_some.mp hfound
        exact ⟨place, s, hlocate, hentry, Except.ok.inj htext⟩
  · rintro ⟨place, s, hlocate, hentry, htext⟩
    exact ⟨.text s, ⟨_, entry?_eq_some.mpr ⟨place, hlocate, hentry⟩, rfl⟩, congrArg _ htext⟩

/-- Writing keeps what is there. -/
theorem keeps_of_write (h : files.write p content = .ok files') : files.Keeps files' := by
  obtain ⟨place, -, hfolder, rfl⟩ := write_eq_ok.mp h
  exact keeps_put_file hfolder content

/-- A file that was written holds what was written. -/
theorem holds_of_write (h : files.write p content = .ok files') :
    ∃ place, files'.locate p = .ok place ∧ files'.at? place = some (.file content) := by
  have hkeeps := keeps_of_write h
  obtain ⟨place, hlocate, hfolder, rfl⟩ := write_eq_ok.mp h
  refine ⟨place, locate_of_keeps hkeeps hlocate, at?_put_self (fun hgiven => ?_) files _⟩
  exact hfolder (at?_of_isGiven hgiven files)

/-- **A text that was written is read.** -/
theorem readText_of_write {s : Text} (h : files.write p (.text s) = .ok files') :
    files'.readText p = .ok (Text.unifyLineEnds s) := by
  obtain ⟨place, hlocate, hfile⟩ := holds_of_write h
  exact readText_eq_ok.mpr ⟨place, s, hlocate, hfile, rfl⟩

/-- Where a file is, another one can be written. -/
theorem exists_write_of_file {place : Place} {old : Content S} (hlocate : files.locate p = .ok place)
    (hfile : files.at? place = some (.file old)) {later : Files S} (hkeeps : files.Keeps later)
    (content : Content S) : ∃ last, later.write p content = .ok last :=
  ⟨_, write_eq_ok.mpr ⟨place, locate_of_keeps hkeeps hlocate, hkeeps.not_folder hfile, rfl⟩⟩

/-- **What was written can be written again.** -/
theorem exists_write_again (h : files.write p content = .ok files') {later : Files S}
    (hkeeps : files'.Keeps later) (content' : Content S) :
    ∃ last, later.write p content' = .ok last := by
  obtain ⟨place, hlocate, hfile⟩ := holds_of_write h
  exact exists_write_of_file hlocate hfile hkeeps content'

end Lamella.Files
