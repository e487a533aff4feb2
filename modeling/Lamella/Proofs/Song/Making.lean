import Lamella.Proofs.Layout.Tuned
import Lamella.Proofs.Song.Exchange
import Lamella.Proofs.Tab.Schedule
import Lamella.Song.Compose

/-!
# Songs of notes without ids

Notes that were read from tablature or heard in a recording have no ids yet. A song takes them in
whatever they are: it only puts them in order and gives each a fresh id, and nothing is warned of.
So a tablature becomes a song of just the notes that are read from it.

## Main definitions

- `Song.inTime`: notes in the order of their times.
- `Note.OnKey`: notes on a key of a layout and a step of a grid.

## Main statements

- `Song.own_of_null`: notes without ids are taken in as they are, in the order of their times.
- `Song.exists_make_of_own`: a draft becomes a song if its notes become the song's own.
- `Song.make_of_null`: a draft of notes without ids becomes a song.
- `Song.exists_compose`: a tablature becomes a song of notes on keys and steps.
-/

namespace Lamella

open Work

/-! ## §1 Notes without ids -/

/-- Warnings can always be given. -/
theorem Work.exists_gives_warnAll (warnings : List Warning) (j : Journal) :
    ∃ j', (warnAll warnings).Gives j () j' := by
  induction warnings generalizing j with
  | nil => exact ⟨j, rfl⟩
  | cons w ws ih =>
    obtain ⟨j', hrest⟩ := ih { j with given := w :: j.given }
    exact ⟨j', gives_bind.mpr ⟨(), _, gives_warn.mpr rfl, hrest⟩⟩

namespace Song

variable {R : Type} [Scalar R]

/-- Notes in the order of their times. -/
def inTime (notes : List (Note R)) : List (Note R) :=
  Order.sortBy (fun a b => decide (a.time ≤ b.time)) notes

theorem inTime_perm (notes : List (Note R)) : (inTime notes).Perm notes := Order.sortBy_perm _ notes

/-- Notes without ids get fresh ones, and no id is met again. -/
theorem adopt_of_null {notes : List (Note R)} (hnull : ∀ n ∈ notes, n.id.isNull = true)
    (seen : Shelves (Value R)) (j : Journal) :
    ∃ owned j', (adopt seen notes).Gives j (owned, []) j' ∧
      owned.map Note.signature = notes.map Note.signature := by
  induction notes generalizing seen j with
  | nil => exact ⟨[], j, adopt_nil.mpr ⟨rfl, rfl, rfl⟩, rfl⟩
  | cons n rest ih =>
    have hn := hnull n List.mem_cons_self
    have hidentifying : isIdentifying n.id = true := by
      cases hid : n.id <;> simp_all [Value.isNull, isIdentifying]
    -- The fresh id is seen from then on, which no note after it asks for
    let id : Value R := .str (Journal.idText (j.drawn + 1))
    obtain ⟨owned, j', hrest, hsame⟩ := ih (fun m hm => hnull m (List.mem_cons_of_mem n hm))
      (seen.put (idCode id) id) { j with drawn := j.drawn + 1 }
    refine ⟨{ n with id } :: owned, j', adopt_cons.mpr ⟨hidentifying, id, _, ?_, owned, [], hrest,
      rfl, ?_⟩, ?_⟩
    · simp [NewId, hn, id]
    · simp [hn]
    · rw [List.map_cons, List.map_cons, hsame]
      rfl

/-- **Notes without ids are taken in as they are**, in the order of their times. -/
theorem own_of_null {notes : List (Note R)} (hnull : ∀ n ∈ notes, n.id.isNull = true)
    (j : Journal) :
    ∃ owned j', (own notes).Gives j owned j' ∧
      owned.map Note.signature = (inTime notes).map Note.signature := by
  have hsorted : ∀ n ∈ inTime notes, n.id.isNull = true :=
    fun n hn => hnull n ((inTime_perm notes).mem_iff.mp hn)
  obtain ⟨owned, j', hadopt, hsame⟩ := adopt_of_null hsorted .bare j
  refine ⟨owned, j', ?_, hsame⟩
  unfold own
  exact gives_bind.mpr ⟨(owned, []), j', hadopt, by simp⟩

/-- **A draft becomes a song** if its tempo, metre and level are sound and its notes become a song's
own. What is not given is computed, the id of the song first. -/
theorem exists_make_of_own {d : Draft R} {metre : Metre} {difficulty : Difficulty}
    (htempo : ¬ d.tempo.scalar ≤ Scalar.ofInt 0) (hmetre : d.metre.resolve = .ok metre)
    (hdifficulty : Difficulty.ofValue d.difficulty = .ok difficulty) (j : Journal) :
    ∃ k, j.drawn ≤ k.drawn ∧ k.given = j.given ∧
      ∀ {owned : List (Note R)} {j' : Journal}, (own d.notes).Gives k owned j' →
        ∃ s, (make d).Gives j s j' ∧ s.notes = owned ∧ s.tempo = d.tempo ∧ s.metre = metre ∧
          s.tab = d.tab ∧
          s.duration = if d.duration.isNull then .num (durationOf owned) else d.duration := by
  have hid : ∃ id k, (d.id.elim Work.freshId pure).Gives j id k ∧ j.drawn ≤ k.drawn ∧
      k.given = j.given := by
    cases d.id with
    | none => exact ⟨_, _, gives_freshId.mpr ⟨rfl, rfl⟩, Nat.le_succ _, rfl⟩
    | some id => exact ⟨id, j, gives_pure.mpr ⟨rfl, rfl⟩, le_rfl, rfl⟩
  obtain ⟨id, k, hid, hdrawn, hgiven⟩ := hid
  refine ⟨k, hdrawn, hgiven, fun {owned j'} hown => ?_⟩
  let s : Song R := {
    title := d.title
    notes := owned
    tempo := d.tempo
    metre := metre
    artist := d.artist
    difficulty := difficulty
    duration := if d.duration.isNull then .num (durationOf owned) else d.duration
    tab := d.tab
    id := id
    tuning := d.tuning
    tines := d.tines
    created := if d.created.isNull then .int j'.now else d.created
    tempo_pos := htempo }
  refine ⟨s, gives_bind.mpr ⟨id, k, hid, ?_⟩, rfl, rfl, rfl, rfl, rfl⟩
  rw [dif_neg htempo]
  simp only [gives_bind, gives_of, gives_now, gives_pure]
  exact ⟨metre, k, ⟨hmetre, rfl⟩, difficulty, k, ⟨hdifficulty, rfl⟩, owned, j', hown, j'.now, j',
    ⟨rfl, rfl⟩, rfl, rfl⟩

/-- **A draft of notes without ids becomes a song** of these notes, if its tempo, metre and level
are sound. -/
theorem make_of_null {d : Draft R} {metre : Metre} {difficulty : Difficulty}
    (hnull : ∀ n ∈ d.notes, n.id.isNull = true) (htempo : ¬ d.tempo.scalar ≤ Scalar.ofInt 0)
    (hmetre : d.metre.resolve = .ok metre)
    (hdifficulty : Difficulty.ofValue d.difficulty = .ok difficulty) (j : Journal) :
    ∃ s j', (make d).Gives j s j' ∧ s.tempo = d.tempo ∧ s.metre = metre ∧ s.tab = d.tab ∧
      s.notes.map Note.signature = (inTime d.notes).map Note.signature := by
  obtain ⟨k, -, -, hmake⟩ := exists_make_of_own htempo hmetre hdifficulty j
  obtain ⟨owned, j', hown, hsame⟩ := own_of_null hnull k
  obtain ⟨s, hgives, rfl, hparts⟩ := hmake hown
  exact ⟨s, j', hgives, hparts.1, hparts.2.1, hparts.2.2.1, hsame⟩

end Song

/-! ## §2 The song of a tablature -/

variable {F : Type} {l : Layout F} {g : Grid Rat}

namespace Note

/-- A note on a key of a layout that begins with a step of a grid. -/
structure OnKey (l : Layout F) (g : Grid Rat) (n : Note Rat) : Prop where
  key : ∃ k ∈ l.keys, k.index = n.key
  time : ∃ step : Nat, n.time = g.stepTime step

theorem OnKey.of_signature {n n' : Note Rat} (h : n.OnKey l g)
    (hsame : n.signature = n'.signature) : n'.OnKey l g := by
  obtain ⟨hkey, hrest⟩ := Prod.ext_iff.mp hsame
  obtain ⟨htime, -⟩ := Prod.ext_iff.mp hrest
  obtain ⟨k, hk, hindex⟩ := h.key
  obtain ⟨step, hstep⟩ := h.time
  exact ⟨⟨k, hk, hindex.trans hkey⟩, step, htime.symm.trans hstep⟩

/-- What is read from tablature is on keys and steps, and has no id. -/
theorem onKey_of_mem_notesAt {places : List (Text × Nat)} {n : Note Rat}
    (hn : n ∈ Tab.notesAt l.addresses g places) : n.OnKey l g ∧ n.id.isNull = true := by
  obtain ⟨⟨label, step⟩, -, hnote⟩ := List.mem_filterMap.mp hn
  obtain ⟨key, hkey, rfl⟩ := Option.map_eq_some_iff.mp hnote
  exact ⟨⟨l.exists_key_of_resolveIn hkey, step, rfl⟩, rfl⟩

end Note

/-- **A tablature becomes a song of the notes that are read from it**, on keys and steps. -/
theorem Song.exists_compose (l : Layout F) {sheet : Sheet Rat} {metre : Metre} {level : Difficulty}
    (htempo : 0 < sheet.tempo.scalar) (hmetre : sheet.metre.resolve = .ok metre)
    (hlevel : Difficulty.ofValue sheet.difficulty = .ok level) (j : Journal) :
    ∃ song j' g reading, (compose l sheet).Gives j song j' ∧
      Grid.make sheet.tempo.scalar sheet.metre = .ok g ∧ g.cells = 1 ∧
      Tab.read l g sheet.tab = .ok reading ∧
      (song.notes.map Note.signature).Perm (reading.notes.map Note.signature) ∧
      ∀ n ∈ song.notes, n.OnKey l g := by
  obtain ⟨g, hgrid, -, -, hcells⟩ := Grid.make_rat htempo hmetre
  -- In exact time every text is read; what is skipped of it is only warned of
  let ts := Tab.tokens sheet.tab
  let reading : Tab.Reading Rat := ⟨Tab.notesAt l.addresses g (Tab.placesFrom 0 ts),
    Tab.skippedIn l.addresses ts, 0 + Tab.widthOf ts⟩
  have hread : Tab.read l g sheet.tab = .ok reading := Tab.readFrom_rat 0 ts
  have hnotes : ∀ n ∈ reading.notes, n.OnKey l g ∧ n.id.isNull = true :=
    fun n hn => Note.onKey_of_mem_notesAt hn
  obtain ⟨k, hwarn⟩ := exists_gives_warnAll reading.warnings j
  let d : Draft Rat := {
    title := sheet.title
    notes := reading.notes
    tempo := sheet.tempo
    metre := .metre g.metre
    artist := sheet.artist
    difficulty := sheet.difficulty
    tab := .str sheet.tab
    id := sheet.id.filter fun id => !id.isEmpty
    tuning := sheet.tuning
    tines := .int l.size }
  obtain ⟨song, j', hmake, -, -, -, hsame⟩ :=
    make_of_null (d := d) (fun n hn => (hnotes n hn).2) (not_le.mpr htempo) rfl hlevel k
  -- The song has only put the notes in order
  have hown : (song.notes.map Note.signature).Perm (reading.notes.map Note.signature) := by
    rw [hsame]
    exact (inTime_perm reading.notes).map Note.signature
  refine ⟨song, j', g, reading, ?_, hgrid, hcells, hread, hown, fun n hn => ?_⟩
  · refine gives_bind.mpr ⟨g, j, gives_of.mpr ⟨hgrid, rfl⟩, ?_⟩
    refine gives_bind.mpr ⟨reading, k, ?_, hmake⟩
    exact gives_bind.mpr ⟨reading, j, gives_of.mpr ⟨hread, rfl⟩,
      gives_bind.mpr ⟨(), k, hwarn, gives_pure.mpr ⟨rfl, rfl⟩⟩⟩
  · obtain ⟨n', hn', hsignature⟩ := List.mem_map.mp (hown.mem_iff.mp (List.mem_map_of_mem hn))
    exact (hnotes n' hn').1.of_signature hsignature

end Lamella
