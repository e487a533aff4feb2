import Lamella.Proofs.Song.Composed
import Lamella.Proofs.Song.NewNotes
import Lamella.Proofs.Tab.Printed
import Lamella.Proofs.Value.Names
import Lamella.Songbook

/-!
# Songs of new notes

A song that is made of new notes has ids that were drawn, and holds only texts and numbers. So it is
known beforehand where halves in its text come from, and its text is read back in any scalars, even
if not all of its numbers are finite.

## Main definitions

- `Song.Draft.IsNew`: what a song of new notes is made of.
- `Song.MadeOf`: what a song has of what it is made of.
- `Songbook.Entry.Names`: a song is called as an entry of the book.

## Main statements

- `Song.Draft.IsNew.not_half_toText`: when a song of new notes is written without halves.
- `Song.Draft.IsNew.exists_ofText`: it is read back from its text.
- `Song.made_of_compose`, `Transcription.made_of_song`: songs of new notes.
- `Songbook.names_songs`: the songs of the book are called as its entries are, and are written
  without halves.
-/

namespace Lamella

open Work

variable {F R : Type} [Scalar R]

/-! ## §1 What songs are made of -/

/-- What a song of new notes is made of: no duration and no time of making are given, and all else
that can be given is text or the number of keys. -/
structure Song.Draft.IsNew (l : Layout F) (d : Song.Draft R) : Prop where
  notes : ∀ n ∈ d.notes, n.IsNew l
  artist : ∃ name, d.artist = .str name
  tab : ∃ text, d.tab = .str text
  tuning : d.tuning = .null ∨ ∃ name, d.tuning = .str name
  duration : d.duration = .null
  tines : d.tines = .int l.size
  created : d.created = .null

namespace Song

/-- What a song has of its draft, of the ids that are drawn and of the time of day. -/
structure MadeOf (d : Draft R) (now : Int) (s : Song R) : Prop where
  title : s.title = d.title
  artist : s.artist = d.artist
  tempo : s.tempo = d.tempo
  metre : d.metre.resolve = .ok s.metre
  tab : s.tab = d.tab
  tuning : s.tuning = d.tuning
  tines : s.tines = d.tines
  duration : s.duration = if d.duration.isNull then .num (durationOf s.notes) else d.duration
  created : s.created = if d.created.isNull then .int now else d.created
  id : d.id = some s.id ∨ d.id = none ∧ ∃ i, s.id = Journal.idText i
  notes : ∃ i, s.notes = withIds i (inTime d.notes)

/-- **What a draft of notes without ids becomes.** -/
theorem madeOf_of_null {d : Draft R} (hnull : ∀ n ∈ d.notes, n.id.isNull = true) {j j' : Journal}
    {s : Song R} (h : (make d).Gives j s j') : MadeOf d j.now s := by
  unfold make at h
  obtain ⟨id, k, hid, h⟩ := gives_bind.mp h
  obtain ⟨hnow, hdrawn⟩ : k.now = j.now ∧
      (d.id = some id ∨ d.id = none ∧ ∃ i, id = Journal.idText i) := by
    cases hgiven : d.id with
    | none =>
      rw [hgiven] at hid
      obtain ⟨rfl, rfl⟩ := gives_freshId.mp hid
      exact ⟨rfl, .inr ⟨rfl, _, rfl⟩⟩
    | some id =>
      rw [hgiven] at hid
      obtain ⟨rfl, rfl⟩ := gives_pure.mp hid
      exact ⟨rfl, .inl rfl⟩
  split at h
  · exact absurd h not_gives_throw
  · simp only [gives_bind, gives_of, gives_now, gives_pure, gives_own_null_iff hnull] at h
    obtain ⟨metre, k₁, ⟨hmetre, hk₁⟩, level, k₂, ⟨hlevel, hk₂⟩, notes, k', ⟨hnotes, hk'⟩, now, k₃,
      ⟨hclock, hk₃⟩, rfl, hlast⟩ := h
    subst hk₁ hk₂ hk' hk₃ hclock hnotes
    exact ⟨rfl, rfl, rfl, hmetre, rfl, rfl, rfl, rfl, by rw [← hnow], hdrawn, _, rfl⟩

theorem MadeOf.length_notes {d : Draft R} {now : Int} {s : Song R} (h : MadeOf d now s) :
    s.notes.length = d.notes.length := by
  obtain ⟨i, hnotes⟩ := h.notes
  have hsignatures := congrArg List.length (signature_withIds i (inTime d.notes))
  rw [List.length_map, List.length_map, (inTime_perm d.notes).length_eq] at hsignatures
  rw [hnotes, hsignatures]

end Song

/-! ## §2 Writing songs of new notes -/

namespace Song.Draft.IsNew

variable {l : Layout F} {d : Draft R} {s : Song R} {j j' : Journal}

theorem null (hd : d.IsNew l) : ∀ n ∈ d.notes, n.id.isNull = true := fun n hn => (hd.notes n hn).id

/-- The notes of such a song are on keys, and have ids that were drawn. -/
theorem notes_of_madeOf (hd : d.IsNew l) {now : Int} (h : MadeOf d now s) :
    ∀ n ∈ s.notes, (∃ k ∈ l.keys, k.index = n.key) ∧ ∃ i, n.id = .str (Journal.idText i) := by
  obtain ⟨i, hnotes⟩ := h.notes
  rw [hnotes]
  intro n hn
  have hsignature : n.signature ∈ d.notes.map Note.signature := by
    have hmem := List.mem_map_of_mem (f := Note.signature) hn
    rw [signature_withIds] at hmem
    exact ((inTime_perm d.notes).map Note.signature).mem_iff.mp hmem
  obtain ⟨m, hm, hsame⟩ := List.mem_map.mp hsignature
  obtain ⟨k, hk, hindex⟩ := (hd.notes m hm).key
  exact ⟨⟨k, hk, hindex.trans (congrArg (·.1) hsame)⟩, id_of_mem_withIds n hn⟩

/-- **A song of new notes is written without halves** just if its title, artist, tablature and tuning
are, and its id if it was given. -/
theorem not_half_toText (hd : d.IsNew l) (h : (make d).Gives j s j')
    (hid : ∀ id, d.id = some id → ∀ p ∈ id, p.isHalf = false) :
    (∀ p ∈ s.toText, p.isHalf = false) ↔
      (∀ p ∈ d.title, p.isHalf = false) ∧
      (∀ p ∈ Value.write 1 d.artist, p.isHalf = false) ∧
      (∀ p ∈ Value.write 1 d.tab, p.isHalf = false) ∧
      ∀ p ∈ Value.write 1 d.tuning, p.isHalf = false := by
  have hmade := madeOf_of_null hd.null h
  have hid' : ∀ p ∈ s.id, p.isHalf = false := by
    rcases hmade.id with hgiven | ⟨-, i, hdrawn⟩
    · exact hid s.id hgiven
    · rw [hdrawn]
      exact not_half_idText i
  have hduration : s.duration = .num (durationOf s.notes) := by
    rw [hmade.duration, hd.duration]
    rfl
  have hcreated : s.created = .int j.now := by
    rw [hmade.created, hd.created]
    rfl
  rw [Song.not_half_toText hid' (fun n hn => (hd.notes_of_madeOf hmade n hn).2) ⟨_, hduration⟩
    ⟨_, hmade.tines.trans hd.tines⟩ ⟨_, hcreated⟩, hmade.title, hmade.artist, hmade.tab, hmade.tuning]

end Song.Draft.IsNew

/-! ## §3 Reading songs of new notes -/

/-- A record is read back if its fields have different names and their values are. -/
theorem Value.readsBack_record {depth level : ℕ} {fields : List (String × Value R)}
    (hnames : (fields.map (·.1)).Nodup)
    (h : ∀ field ∈ fields, Value.ReadsBack depth (level + 1) field.2) :
    Value.ReadsBack (depth + 1) level (.record fields) := by
  refine Value.readsBack_object ?_ (List.forall_mem_map.mpr h)
  have hmap : (fields.map fun field => (Text.ofString field.1, field.2)).map (·.1) =
      (fields.map (·.1)).map Text.ofString := by
    rw [List.map_map, List.map_map]
    rfl
  rw [hmap]
  exact hnames.map fun _ _ => Text.ofString_injective

section

variable [Scalar.Legible R] [Scalar.Named R]

/-- A song of new notes is read back as a value, if the numbers of keys and the time of day can be
written. -/
theorem Song.Draft.IsNew.readsBack {l : Layout F} {d : Song.Draft R} {s : Song R} (hd : d.IsNew l)
    {now : Int} (h : Song.MadeOf d now s) (htempo : ∃ x, d.tempo = .measured x)
    (hsize : l.size < 10 ^ Decimal.digitLimit)
    (hnow : (Nat.toDigits 10 now.natAbs).length ≤ Decimal.digitLimit) (depth : ℕ) :
    Value.ReadsBack (depth + 3) 0 s.toValue := by
  have hdigits {n : ℕ} (hn : n ≤ l.size) : (Nat.toDigits 10 n).length ≤ Decimal.digitLimit :=
    (Nat.length_toDigits_le_iff (by norm_num) (by decide)).mpr (lt_of_le_of_lt hn hsize)
  have hstr {depth level : ℕ} {v : Value R} (hv : v = .null ∨ ∃ text, v = .str text) :
      Value.ReadsBack depth level v := by
    rcases hv with rfl | ⟨text, rfl⟩
    · exact Value.readsBack_null _ _
    · exact Value.readsBack_str _ _ _
  have hnotes : Value.ReadsBack (depth + 2) 1 (.list (s.notes.map Note.toValue)) := by
    refine Value.readsBack_list (List.forall_mem_map.mpr fun n hn => ?_)
    obtain ⟨⟨key, hkey, hindex⟩, i, hid⟩ := hd.notes_of_madeOf h n hn
    -- A key has no more digits than the number of keys
    obtain ⟨hnonneg, hlt, -⟩ := l.get_index hkey
    have hfew : n.key.natAbs ≤ l.size := by omega
    exact Note.toValue_of_parts Value.readsBack_record (Value.readsBack_int (hdigits hfew))
      (Value.readsBack_scalar _ _ _) (Value.readsBack_scalar _ _ _) (hstr (.inr ⟨_, hid⟩))
  refine Song.toValue_of_parts Value.readsBack_record (Value.readsBack_str _ _) ?_ ?_ ?_ hnotes ?_ ?_ ?_ ?_
  · rw [h.artist]
    exact hstr (.inr hd.artist)
  · obtain ⟨x, hx⟩ := htempo
    rw [h.tempo, hx]
    exact Value.readsBack_scalar _ _ x
  · rw [h.duration, hd.duration]
    exact Value.readsBack_scalar _ _ _
  · rw [h.tab]
    exact hstr (.inr hd.tab)
  · rw [h.created, hd.created]
    exact Value.readsBack_int hnow
  · rw [h.tuning]
    exact hstr hd.tuning
  · rw [h.tines, hd.tines]
    exact Value.readsBack_int (hdigits le_rfl)

/-- **A song of new notes is read back from its text** with as many notes, if it has a title, even if
its times and its tempo are no finite numbers. -/
theorem Song.Draft.IsNew.exists_ofText [Scalar.Comparable R] {l : Layout F} {d : Song.Draft R}
    {s : Song R} {j j' : Journal} (hd : d.IsNew l) (h : (Song.make d).Gives j s j')
    (htempo : ∃ x, d.tempo = .measured x) (htitle : d.title ≠ []) (hid : d.id ≠ some [])
    (hmetre : ∀ m, d.metre.resolve = .ok m → (toString m.numerator).length ≤ Decimal.digitLimit)
    (hsize : l.size < 10 ^ Decimal.digitLimit)
    (hnow : (Nat.toDigits 10 j.now.natAbs).length ≤ Decimal.digitLimit) (k : Journal) :
    ∃ (t : Song R) (k' : Journal), (Song.ofText s.toText).Gives k t k' ∧
      t.notes.length = d.notes.length := by
  have hmade := Song.madeOf_of_null hd.null h
  have hread : Value.ofText s.toText = .ok s.toValue :=
    Value.ofText_of_readsBack (hd.readsBack hmade htempo hsize hnow 987)
  -- An empty id or title would be drawn or refused when the text is read
  have hgiven : s.id ≠ [] := by
    rcases hmade.id with hgiven | ⟨-, i, hdrawn⟩
    · intro hnil
      rw [hnil] at hgiven
      exact hid hgiven
    · rw [hdrawn]
      simp [Journal.idText, Text.ofChars, Text.hex, Nat.toDigits_ne_nil]
  have hscalar : s.tempo.toValue.toScalar = .ok s.tempo.scalar := by
    obtain ⟨x, hx⟩ := htempo
    rw [hmade.tempo, hx]
    rfl
  obtain ⟨t, k', hgives, hlength⟩ := Song.gives_ofValue_of_toScalar h hgiven (hmade.title ▸ htitle)
    hscalar (hmetre _ hmade.metre) k
  refine ⟨t, k', ?_, hlength.trans hmade.length_notes⟩
  rw [Song.ofText, hread]
  exact hgives

end

/-! ## §4 Songs of tablatures and of recordings -/

namespace Song

/-- What a song of a tablature is made of, from the notes that were read. -/
def Sheet.draft (sheet : Sheet R) (l : Layout F) (metre : Metre) (notes : List (Note R)) : Draft R where
  title := sheet.title
  notes := notes
  tempo := sheet.tempo
  metre := .metre metre
  artist := sheet.artist
  difficulty := sheet.difficulty
  tab := .str sheet.tab
  id := sheet.id.filter fun id => !id.isEmpty
  tuning := sheet.tuning
  tines := .int l.size

/-- **A song of a tablature is made of new notes.** -/
theorem made_of_compose {l : Layout F} {sheet : Sheet R} (hartist : ∃ name, sheet.artist = .str name)
    (htuning : sheet.tuning = .null ∨ ∃ name, sheet.tuning = .str name) {j j' : Journal} {s : Song R}
    (h : (compose l sheet).Gives j s j') :
    ∃ g reading k, Grid.make sheet.tempo.scalar sheet.metre = .ok g ∧
      Tab.read l g sheet.tab = .ok reading ∧ k.now = j.now ∧
      (sheet.draft l g.metre reading.notes).IsNew l ∧
      (make (sheet.draft l g.metre reading.notes)).Gives k s j' := by
  unfold compose Tab.readWarning at h
  simp only [gives_bind, gives_of, gives_warnAll, gives_pure] at h
  obtain ⟨g, _, ⟨hgrid, rfl⟩, reading, _, ⟨_, _, ⟨hread, rfl⟩, _, _, rfl, rfl, rfl⟩, hmake⟩ := h
  refine ⟨g, _, _, hgrid, hread, ?_,
    ⟨Tab.isNew_of_read hread, hartist, ⟨_, rfl⟩, htuning, rfl, rfl, rfl⟩, hmake⟩
  rfl

/-- Such a song is written with halves just if its title, artist, tablature or tuning is. -/
theorem not_half_compose {l : Layout F} {sheet : Sheet R} (hartist : ∃ name, sheet.artist = .str name)
    (htuning : sheet.tuning = .null ∨ ∃ name, sheet.tuning = .str name) (hid : sheet.id = none)
    {j j' : Journal} {s : Song R} (h : (compose l sheet).Gives j s j') :
    (∀ p ∈ s.toText, p.isHalf = false) ↔
      (∀ p ∈ sheet.title, p.isHalf = false) ∧
      (∀ p ∈ Value.write 1 sheet.artist, p.isHalf = false) ∧
      (∀ p ∈ sheet.tab, p.isHalf = false) ∧
      ∀ p ∈ Value.write 1 sheet.tuning, p.isHalf = false := by
  obtain ⟨g, reading, k, -, -, -, hnew, hmake⟩ := made_of_compose hartist htuning h
  have htab : (∀ p ∈ Value.write 1 (.str sheet.tab : Value R), p.isHalf = false) ↔
      ∀ p ∈ sheet.tab, p.isHalf = false := not_half_write_str 1 sheet.tab
  rw [← htab]
  refine hnew.not_half_toText hmake fun id hgiven => ?_
  have hnone : (sheet.draft l g.metre reading.notes).id = none := by
    show sheet.id.filter _ = none
    rw [hid]
    rfl
  rw [hnone] at hgiven
  cases hgiven

end Song

/-- A written tablature has no halves. -/
theorem Tab.not_half_write {l : Layout F} {g : Grid R} {notes : List (Note R)} {w : Tab.Writing}
    (h : Tab.write l g notes = .ok w) : ∀ p ∈ w.text, p.isHalf = false := by
  unfold Tab.write at h
  obtain ⟨entries, hentries, h⟩ := Except.bind_eq_ok.mp h
  cases h
  have hlabels : ∀ e ∈ entries.filterMap id,
      ∃ key, Layout.labelIn l.addresses key = some e.2 := by
    intro e he
    obtain ⟨found, hfound, rfl⟩ := List.mem_filterMap.mp he
    obtain ⟨n, -, hentry⟩ := (Except.mapM_eq_ok.mp hentries).exists_left hfound
    unfold Tab.entry at hentry
    split at hentry
    · cases hentry
    · rename_i label hlabel
      obtain ⟨step, -, he⟩ := Except.bind_eq_ok.mp hentry
      cases he
      exact ⟨n.key, hlabel⟩
  intro p hp
  rcases Tab.mem_measureText hp with rfl | rfl | ⟨text, htext, hp⟩
  · rfl
  · rfl
  · obtain ⟨step, -, rfl⟩ := List.mem_map.mp htext
    have hwritten := fun s hs => (Tab.labels_written l hlabels step s hs).1
    rcases Tab.isTabPoint_stepText hwritten hp with rfl | hp
    · rfl
    · exact hp.isHalf_eq

namespace Transcription

variable [Analytic F] {t : Transcription F R} {notes : List (Note R)} {title : Text}
  {artist : Value R}

/-- What a song of heard notes is made of, with the tablature that shows them. -/
def draft (t : Transcription F R) (notes : List (Note R)) (title : Text) (artist : Value R)
    (tab : Text) : Song.Draft R where
  title := title
  artist := artist
  notes := notes
  tempo := .measured t.tempo
  metre := .metre t.metre
  tab := .str tab
  tines := .int t.layout.size

/-- **A song of a recording is made of new notes**, if these were heard. -/
theorem made_of_song (hnotes : ∀ n ∈ notes, n.IsNew t.layout) (hartist : ∃ name, artist = .str name)
    {j j' : Journal} {s : Song R} (h : (t.song notes title artist).Gives j s j') :
    ∃ tab k, (∀ p ∈ tab, p.isHalf = false) ∧ k.now = j.now ∧
      (t.draft notes title artist tab).IsNew t.layout ∧
      (Song.make (t.draft notes title artist tab)).Gives k s j' := by
  unfold song Tab.writeWarning at h
  simp only [gives_bind, gives_of, gives_warnAll, gives_pure] at h
  obtain ⟨g, _, ⟨-, rfl⟩, tab, _, ⟨w, _, ⟨hwrite, rfl⟩, _, _, rfl, rfl, rfl⟩, hmake⟩ := h
  refine ⟨w.text, _, Tab.not_half_write hwrite, ?_,
    ⟨hnotes, hartist, ⟨_, rfl⟩, .inl rfl, rfl, rfl, rfl⟩, hmake⟩
  rfl

/-- Such a song is written without halves if its title and its artist are. -/
theorem not_half_song (hnotes : ∀ n ∈ notes, n.IsNew t.layout) {name : Text} {j j' : Journal}
    {s : Song R} (h : (t.song notes title (.str name)).Gives j s j')
    (htitle : ∀ p ∈ title, p.isHalf = false) (hname : ∀ p ∈ name, p.isHalf = false) :
    ∀ p ∈ s.toText, p.isHalf = false := by
  obtain ⟨tab, k, htab, -, hnew, hmake⟩ := made_of_song hnotes ⟨name, rfl⟩ h
  refine (hnew.not_half_toText hmake nofun).mpr ⟨htitle, ?_, ?_, ?_⟩
  · exact (Song.not_half_write_str 1 name).mpr hname
  · exact (Song.not_half_write_str 1 tab).mpr htab
  · exact Song.not_half_write_null 1

end Transcription

/-! ## §5 Songs of the book -/

/-- What work gives for every element of a list. -/
theorem Work.forall₂_of_mapM {α β : Type} {f : α → Work β} {xs : List α} {ys : List β}
    {j j' : Journal} (h : (xs.mapM f).Gives j ys j') :
    List.Forall₂ (fun x y => ∃ k k', (f x).Gives k y k') xs ys := by
  induction xs generalizing ys j with
  | nil =>
    rw [List.mapM_nil] at h
    obtain ⟨rfl, -⟩ := gives_pure.mp h
    exact .nil
  | cons x xs ih =>
    rw [List.mapM_cons] at h
    obtain ⟨y, k, hx, h⟩ := gives_bind.mp h
    obtain ⟨ys', k', hxs, h⟩ := gives_bind.mp h
    obtain ⟨rfl, rfl⟩ := gives_pure.mp h
    exact .cons ⟨j, k, hx⟩ (ih hxs)

namespace Songbook

variable {l : Layout F}

/-- What a song of the book is composed of. -/
def Entry.sheet (R : Type) (e : Entry) : Song.Sheet R where
  tab := "\n".intercalate e.lines
  title := e.title
  tempo := .whole e.tempo
  artist := .str e.artist
  difficulty := .str e.difficulty.text
  id := some e.id

/-- Every entry has an id. -/
theorem id_given : ∀ e ∈ entries, (some (e.id : Text)).filter (fun id => !id.isEmpty) = some ↑e.id := by
  intro e he
  have hall : ∀ e ∈ entries, (e.id : Text).isEmpty = false := by decide +kernel
  rw [Option.filter_some, hall e he]
  rfl

/-- A song is called as an entry is. -/
structure Entry.Names (e : Entry) (s : Song R) : Prop where
  id : s.id = e.id
  title : s.title = e.title
  artist : s.artist = .str e.artist

/-- A song of the book is called as its entry is, and is written without halves. -/
theorem Entry.names_song {e : Entry} (he : e ∈ entries) {s : Song R} {j j' : Journal}
    (h : (e.song l).Gives j s j') : e.Names s ∧ ∀ p ∈ s.toText, p.isHalf = false := by
  have hcompose : (Song.compose l (e.sheet R)).Gives j s j' := h
  obtain ⟨g, reading, k, -, -, -, hnew, hmake⟩ :=
    Song.made_of_compose ⟨_, rfl⟩ (.inl rfl) hcompose
  have hid : ((e.sheet R).draft l g.metre reading.notes).id = some ↑e.id := id_given e he
  have hmade := Song.madeOf_of_null hnew.null hmake
  refine ⟨⟨?_, hmade.title, hmade.artist⟩, (hnew.not_half_toText hmake ?_).mpr ⟨?_, ?_, ?_, ?_⟩⟩
  · rcases hmade.id with hs | ⟨hnone, -⟩
    · rw [hid] at hs
      exact (Option.some.inj hs).symm
    · rw [hid] at hnone
      cases hnone
  · intro id hs
    rw [hid] at hs
    cases hs
    exact Value.not_half_ofString e.id
  · exact Value.not_half_ofString e.title
  · exact (Song.not_half_write_str 1 _).mpr (Value.not_half_ofString e.artist)
  · exact (Song.not_half_write_str 1 _).mpr (Value.not_half_ofString _)
  · exact Song.not_half_write_null 1

/-- **The songs of the book are called as their entries are**, and are written without halves. -/
theorem names_songs {songs : List (Song R)} {j j' : Journal}
    (h : (Songbook.songs l).Gives j songs j') :
    List.Forall₂ (fun e s => e ∈ entries ∧ e.Names s) entries songs ∧
      ∀ s ∈ songs, ∀ p ∈ s.toText, p.isHalf = false := by
  have hsongs : List.Forall₂ (fun e (s : Song R) => e ∈ entries ∧ ∃ k k', (e.song l).Gives k s k')
      entries songs :=
    (List.forall₂_and_left _ _).mpr ⟨fun e he => he, Work.forall₂_of_mapM h⟩
  constructor
  · refine hsongs.imp fun e s hs => ?_
    obtain ⟨he, k, k', hgives⟩ := hs
    exact ⟨he, (Entry.names_song he hgives).1⟩
  · intro s hs
    obtain ⟨e, -, he, k, k', hgives⟩ := hsongs.exists_left hs
    exact (Entry.names_song he hgives).2

end Songbook

end Lamella
