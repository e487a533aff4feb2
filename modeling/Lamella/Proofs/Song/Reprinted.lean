import Lamella.Proofs.Song.Composed
import Lamella.Proofs.Tab.Printed

/-!
# Songs of what is printed of a song

A song that was composed of a tablature is saved as text. When it is read from there, tablature can
be printed of it again, and what is printed can be composed again. If no chord was torn where lines
were folded, the new song has the same notes; if one was, it has fewer.

## Main definitions

- `Song.Reprinted`: what is composed of the lines that are printed of a song.

## Main statements

- `Song.exists_reprinted`: composed songs are read back, and printed so.
-/

namespace Lamella

/-- A grid has the metre that it was made of. -/
theorem Grid.resolve_of_make {R : Type} [Scalar R] {tempo : R} {source : Metre.Source R} {g : Grid R}
    (h : make tempo source = .ok g) : source.resolve = .ok g.metre := by
  unfold make at h
  split at h
  · cases h
  · obtain ⟨metre, hmetre, hgrid⟩ := Except.bind_eq_ok.mp h
    cases hgrid
    exact hmetre

/-- A grid is made of its tempo and its metre. -/
theorem Grid.make_metre {tempo : Rat} {source : Metre.Source Rat} {g : Grid Rat}
    (h : make tempo source = .ok g) : make tempo (.metre g.metre) = .ok g := by
  unfold make at h ⊢
  split at h
  · cases h
  · rename_i htempo
    obtain ⟨metre, -, hgrid⟩ := Except.bind_eq_ok.mp h
    cases hgrid
    rw [dif_neg htempo]
    rfl

namespace Song

variable {F : Type}

/-- What is composed of the lines that are printed of a song at a width, on a sheet that is the same
otherwise. -/
structure Reprinted (layout : Layout F) (sheet : Sheet Rat) (width : Nat) (first : Song Rat)
    (tab : Text) : Prop where
  points : ∀ p ∈ Screen.transcript width tab, p.isHalf = false ∧ p ≠ .char '\r'
  whole : (∀ line ∈ Screen.lines width tab, Tab.IsClosed line) → ∀ j : Journal, ∃ again drawn,
    (compose layout { sheet with tab := Screen.transcript width tab }).Gives j again
      { j with drawn } ∧
    (again.notes.map Note.signature).Perm (first.notes.map Note.signature) ∧
    ((∀ c ∈ first.toText, c.isHalf = false) → ∀ c ∈ again.toText, c.isHalf = false)
  torn : (∃ line ∈ Screen.lines width tab, ¬ Tab.IsClosed line) → ∀ (j j' : Journal) (again : Song Rat),
    (compose layout { sheet with tab := Screen.transcript width tab }).Gives j again j' →
    again.notes.length < first.notes.length

variable {layout : Layout F} {sheet : Sheet Rat} {j k : Journal} {first : Song Rat} {width : Nat}

/-- What is composed of a legible sheet is legible, if the numbers of keys and the time of day can be
written. -/
theorem legible_of_gives (hfirst : (compose layout sheet).Gives j first k) (hnew : sheet.id = none)
    (hsheet : sheet.Legible) (hmetre : ∃ s, sheet.metre = .value (.str s))
    (hsize : layout.size < 10 ^ Decimal.digitLimit)
    (hnow : (Nat.toDigits 10 j.now.natAbs).length ≤ Decimal.digitLimit) : first.Legible := by
  obtain ⟨g, reading, level, htempo, hgrid, hread, -, rfl, -⟩ := (gives_compose hnew).mp hfirst
  obtain ⟨s, hs⟩ := hmetre
  have hresolved : Metre.ofValue (.str s : Value Rat) = .ok g.metre := by
    have hmake := Grid.resolve_of_make hgrid
    rwa [hs] at hmake
  exact legible_composed hsheet (Metre.length_numerator_le hresolved)
    (fun n hn => (null_of_read hread n hn).1) hsize hnow

/-- **A composed song is read back from its text**, with the grid and the notes that it had. -/
theorem exists_reloaded (hfirst : (compose layout sheet).Gives j first k) (hnew : sheet.id = none)
    (hlegible : first.Legible) (htitle : sheet.title ≠ []) {g : Grid Rat}
    (hgrid : Grid.make sheet.tempo.scalar sheet.metre = .ok g) (i : Journal) :
    ∃ loaded : Song Rat, (ofText first.toText).Gives i loaded i ∧
      Grid.make loaded.tempo.scalar (.metre loaded.metre) = .ok g ∧
      loaded.notes = first.notes.map Note.reread := by
  obtain ⟨g', reading, level, htempo, hgrid', hread, -, rfl, -⟩ := (gives_compose hnew).mp hfirst
  obtain rfl : g' = g := Except.ok.inj (hgrid'.symm.trans hgrid)
  obtain ⟨loaded, hgives, hnotes, hscalar, hmetre⟩ :=
    gives_ofText_composed hlegible (fun n hn => (null_of_read hread n hn).2) htitle i
  refine ⟨loaded, hgives, ?_, hnotes⟩
  rw [hscalar, hmetre]
  exact Grid.make_metre hgrid

/-- What is composed of other tablature is told from how that is read on the grid of the first. -/
theorem reprinted_of_read {g : Grid Rat} {reading back : Tab.Reading Rat} {tab : Text}
    (hfirst : (compose layout sheet).Gives j first k) (hnew : sheet.id = none)
    (hgrid : Grid.make sheet.tempo.scalar sheet.metre = .ok g)
    (hread : Tab.read layout g sheet.tab = .ok reading)
    (hpoints : ∀ p ∈ Screen.transcript width tab, p.isHalf = false ∧ p ≠ .char '\r')
    (hback : Tab.read layout g (Screen.transcript width tab) = .ok back)
    (hclosed : (∀ line ∈ Screen.lines width tab, Tab.IsClosed line) → back.skipped = [] ∧
      (back.notes.map Note.signature).Perm (reading.notes.map Note.signature))
    (htorn : (∃ line ∈ Screen.lines width tab, ¬ Tab.IsClosed line) →
      back.notes.length < reading.notes.length) : Reprinted layout sheet width first tab := by
  obtain ⟨g', reading', level, htempo, hgrid', hread', hlevel, rfl, -⟩ :=
    (gives_compose hnew).mp hfirst
  obtain rfl : g' = g := Except.ok.inj (hgrid'.symm.trans hgrid)
  obtain rfl : reading' = reading := Except.ok.inj (hread'.symm.trans hread)
  let sheet' : Sheet Rat := { sheet with tab := Screen.transcript width tab }
  have hnew' : sheet'.id = none := hnew
  refine ⟨hpoints, fun hlines i => ?_, fun hline i i' again hagain => ?_⟩
  · obtain ⟨hskipped, hsame⟩ := hclosed hlines
    have hwarnings : back.warnings = [] := by rw [Tab.Reading.warnings, if_pos hskipped]
    refine ⟨composed layout sheet' g'.metre level back.notes i htempo, i.drawn + 1 + back.notes.length,
      (gives_compose hnew').mpr ⟨g', back, level, htempo, hgrid, hback, hlevel, rfl, ?_⟩, ?_,
      fun hwhole => ?_⟩
    · rw [hwarnings]
      rfl
    · exact signature_composed.trans (hsame.trans signature_composed.symm)
    · obtain ⟨htitle, hartist, -, htuning⟩ := not_half_composed.mp hwhole
      exact not_half_composed.mpr ⟨htitle, hartist, fun p hp => (hpoints p hp).1, htuning⟩
  · -- The torn lines are read on the same grid, so the song has the notes that are left
    obtain ⟨g'', back', level', htempo', hgrid'', hback', -, rfl, -⟩ := (gives_compose hnew').mp hagain
    obtain rfl : g'' = g' := Except.ok.inj (hgrid''.symm.trans hgrid)
    obtain rfl : back' = back := Except.ok.inj (hback'.symm.trans hback)
    rw [length_composed, length_composed]
    exact htorn hline

/-- **A composed song is read back from its text, and tablature is printed of it**, of which a song
is composed again. -/
theorem exists_reprinted (hfirst : (compose layout sheet).Gives j first k) (hnew : sheet.id = none)
    (hsheet : sheet.Legible) (hmetre : ∃ s, sheet.metre = .value (.str s)) (htitle : sheet.title ≠ [])
    (hsize : layout.size < 10 ^ Decimal.digitLimit)
    (hnow : (Nat.toDigits 10 j.now.natAbs).length ≤ Decimal.digitLimit)
    (hfits : Tab.FitsOn layout width) (hwidth : 0 < width) :
    ∃ grid writing, writing.unlabelled = [] ∧ Reprinted layout sheet width first writing.text ∧
      ∀ i : Journal, ∃ loaded : Song Rat, (ofText first.toText).Gives i loaded i ∧
        Grid.make loaded.tempo.scalar (.metre loaded.metre) = .ok grid ∧
        Tab.write layout grid loaded.notes = .ok writing ∧
        loaded.notes.map Note.signature = first.notes.map Note.signature := by
  have hlegible := legible_of_gives hfirst hnew hsheet hmetre hsize hnow
  have hsigned : (first.notes.map Note.reread).map Note.signature =
      first.notes.map Note.signature := by
    rw [List.map_map]
    rfl
  obtain ⟨g, reading, level, htempo, hgrid, hread, -, hcomposed, -⟩ := (gives_compose hnew).mp hfirst
  have hsame : ((first.notes.map Note.reread).map Note.signature).Perm
      (reading.notes.map Note.signature) := by
    rw [hsigned, hcomposed]
    exact signature_composed
  obtain ⟨writing, back, hwriting, hall, hpoints, hback, hclosed, htorn⟩ :=
    Tab.read_transcript_of_read hread hsame hfits hwidth
  refine ⟨g, writing, hall, reprinted_of_read hfirst hnew hgrid hread hpoints hback hclosed htorn,
    fun i => ?_⟩
  obtain ⟨loaded, hgives, hgrid', hnotes⟩ := exists_reloaded hfirst hnew hlegible htitle hgrid i
  refine ⟨loaded, hgives, hgrid', ?_, ?_⟩
  · rw [hnotes]
    exact hwriting
  · rw [hnotes, hsigned]

end Song

end Lamella
