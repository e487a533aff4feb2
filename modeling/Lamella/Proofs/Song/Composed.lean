import Lamella.Proofs.Song.Exported
import Lamella.Proofs.Song.Making
import Lamella.Proofs.Value.Digits
import Lamella.Proofs.Value.Points

/-!
# Composed songs

In exact time it can be said beforehand what song is composed of a tablature: its notes are those
that are read, in the order of their times and with the ids that are drawn next. Such a song is
legible, so its text is read back, as the same notes and without a warning.

## Main definitions

- `Song.withIds`: notes with the ids that are drawn next.
- `Song.composed`: the song of notes that were read from a tablature.

## Main statements

- `Song.gives_compose`: what is composed.
- `Song.legible_composed`: composed songs are legible.
- `Song.gives_ofText_composed`: they are read back from their text.
-/

namespace Lamella

open Work

/-- Work that goes well gives one result only. -/
theorem Work.Gives.unique {α : Type} {w : Work α} {j k k' : Journal} {a b : α} (h : w.Gives j a k)
    (h' : w.Gives j b k') : a = b ∧ k = k' := by
  obtain ⟨hresult, hjournal⟩ := Prod.ext_iff.mp (h.symm.trans h')
  exact ⟨Except.ok.inj hresult, hjournal⟩

/-- Warnings are kept, last first. -/
theorem Work.gives_warnAll {warnings : List Warning} {j j' : Journal} {u : Unit} :
    (warnAll warnings).Gives j u j' ↔ { j with given := warnings.reverse ++ j.given } = j' := by
  induction warnings generalizing j with
  | nil => exact gives_pure.trans (by simp)
  | cons w ws ih =>
    have hcons : warnAll (w :: ws) = warn w >>= fun _ => warnAll ws := rfl
    rw [hcons, gives_bind]
    simp only [gives_warn, ih, List.reverse_cons, List.append_assoc, List.singleton_append]
    constructor
    · rintro ⟨-, k, rfl, h⟩
      exact h
    · exact fun h => ⟨(), _, rfl, h⟩

namespace Song

/-! ## §1 Ids that are drawn -/

section

variable {R : Type} [Scalar R]

/-- Notes with the ids that are drawn next. -/
def withIds (drawn : Nat) : List (Note R) → List (Note R)
  | [] => []
  | n :: rest => { n with id := .str (Journal.idText (drawn + 1)) } :: withIds (drawn + 1) rest

theorem signature_withIds (drawn : Nat) (notes : List (Note R)) :
    (withIds drawn notes).map Note.signature = notes.map Note.signature := by
  induction notes generalizing drawn with
  | nil => rfl
  | cons n notes ih =>
    rw [withIds, List.map_cons, List.map_cons, ih]
    rfl

theorem id_of_mem_withIds {drawn : Nat} {notes : List (Note R)} :
    ∀ n ∈ withIds drawn notes, ∃ k, n.id = .str (Journal.idText k) := by
  induction notes generalizing drawn with
  | nil => exact nofun
  | cons n notes ih => exact List.forall_mem_cons.mpr ⟨⟨drawn + 1, rfl⟩, ih⟩

/-- Notes without ids get those that are drawn next. -/
theorem gives_adopt_null {notes : List (Note R)} (hnull : ∀ n ∈ notes, n.id.isNull = true)
    (seen : Shelves (Value R)) (j : Journal) :
    (adopt seen notes).Gives j (withIds j.drawn notes, [])
      { j with drawn := j.drawn + notes.length } := by
  induction notes generalizing seen j with
  | nil => exact adopt_nil.mpr ⟨rfl, rfl, rfl⟩
  | cons n rest ih =>
    have hn := hnull n List.mem_cons_self
    have hidentifying : isIdentifying n.id = true := by
      cases hid : n.id <;> simp_all [Value.isNull, isIdentifying]
    let id : Value R := .str (Journal.idText (j.drawn + 1))
    have hrest := ih (fun m hm => hnull m (List.mem_cons_of_mem n hm)) (seen.put (idCode id) id)
      { j with drawn := j.drawn + 1 }
    refine adopt_cons.mpr ⟨hidentifying, id, { j with drawn := j.drawn + 1 }, ?_, _, [], ?_, rfl, ?_⟩
    · simp [NewId, hn, id]
    · rw [List.length_cons, Nat.add_comm rest.length, ← Nat.add_assoc]
      exact hrest
    · simp [hn]

theorem gives_own_null {notes : List (Note R)} (hnull : ∀ n ∈ notes, n.id.isNull = true)
    (j : Journal) :
    (own notes).Gives j (withIds j.drawn (inTime notes))
      { j with drawn := j.drawn + notes.length } := by
  have hsorted : ∀ n ∈ inTime notes, n.id.isNull = true :=
    fun n hn => hnull n ((inTime_perm notes).mem_iff.mp hn)
  have hadopt := gives_adopt_null hsorted .bare j
  rw [(inTime_perm notes).length_eq] at hadopt
  unfold own
  exact gives_bind.mpr ⟨_, _, hadopt, by simp⟩

theorem gives_own_null_iff {notes owned : List (Note R)} (hnull : ∀ n ∈ notes, n.id.isNull = true)
    {j j' : Journal} : (own notes).Gives j owned j' ↔ owned = withIds j.drawn (inTime notes) ∧
      j' = { j with drawn := j.drawn + notes.length } := by
  constructor
  · exact fun h => h.unique (gives_own_null hnull j)
  · rintro ⟨rfl, rfl⟩
    exact gives_own_null hnull j

/-- **What is made of notes without ids**, where no id is given for the song either. -/
theorem gives_make_null {d : Draft R} (hnull : ∀ n ∈ d.notes, n.id.isNull = true)
    (hnew : d.id = none) {j j' : Journal} {s : Song R} :
    (make d).Gives j s j' ↔ ∃ metre level, ∃ htempo : ¬ d.tempo.scalar ≤ Scalar.ofInt 0,
      d.metre.resolve = .ok metre ∧ Difficulty.ofValue d.difficulty = .ok level ∧
      s = (let owned := withIds (j.drawn + 1) (inTime d.notes)
        { title := d.title
          notes := owned
          tempo := d.tempo
          metre := metre
          artist := d.artist
          difficulty := level
          duration := if d.duration.isNull then .num (durationOf owned) else d.duration
          tab := d.tab
          id := Journal.idText (j.drawn + 1)
          tuning := d.tuning
          tines := d.tines
          created := if d.created.isNull then .int j.now else d.created
          tempo_pos := htempo }) ∧
      j' = { j with drawn := j.drawn + 1 + d.notes.length } := by
  have hid : d.id.elim Work.freshId pure = Work.freshId := by rw [hnew]; rfl
  unfold make
  rw [hid, gives_bind]
  by_cases htempo : d.tempo.scalar ≤ Scalar.ofInt 0
  · simp only [dif_pos htempo, not_gives_throw, and_false, exists_false, false_iff]
    rintro ⟨-, -, hnot, -⟩
    exact hnot htempo
  · simp only [dif_neg htempo, gives_bind, gives_of, gives_now, gives_pure, gives_freshId,
      gives_own_null_iff hnull]
    constructor
    · rintro ⟨id, k, ⟨rfl, rfl⟩, metre, k₁, ⟨hmetre, rfl⟩, level, k₂, ⟨hlevel, rfl⟩, owned, k₃,
        ⟨rfl, rfl⟩, now, k₄, ⟨rfl, rfl⟩, rfl, rfl⟩
      exact ⟨metre, level, htempo, hmetre, hlevel, rfl, rfl⟩
    · rintro ⟨metre, level, -, hmetre, hlevel, rfl, rfl⟩
      exact ⟨_, _, ⟨rfl, rfl⟩, metre, _, ⟨hmetre, rfl⟩, level, _, ⟨hlevel, rfl⟩, _, _, ⟨rfl, rfl⟩,
        _, _, ⟨rfl, rfl⟩, rfl, rfl⟩

end

/-! ## §2 What is composed -/

section

variable {F : Type} {l : Layout F} {sheet : Sheet Rat} {g : Grid Rat}

/-- The song of notes that were read from a tablature. -/
def composed (l : Layout F) (sheet : Sheet Rat) (metre : Metre) (level : Difficulty)
    (notes : List (Note Rat)) (j : Journal) (htempo : ¬ sheet.tempo.scalar ≤ Scalar.ofInt 0) :
    Song Rat :=
  let owned := withIds (j.drawn + 1) (inTime notes)
  { title := sheet.title
    notes := owned
    tempo := sheet.tempo
    metre := metre
    artist := sheet.artist
    difficulty := level
    duration := .num (durationOf owned)
    tab := .str sheet.tab
    id := Journal.idText (j.drawn + 1)
    tuning := sheet.tuning
    tines := .int l.size
    created := .int j.now
    tempo_pos := htempo }

/-- What is read in exact time has no ids. -/
theorem null_of_read {text : Text} {reading : Tab.Reading Rat} (h : Tab.read l g text = .ok reading) :
    ∀ n ∈ reading.notes, n.OnKey l g ∧ n.id.isNull = true := by
  have hread : Tab.read l g text = .ok _ := Tab.readFrom_rat 0 (Tab.tokens text)
  rw [hread] at h
  cases h
  exact fun n hn => Note.onKey_of_mem_notesAt hn

/-- **What is composed** of a tablature: the notes that are read from it, with the ids that are drawn
after that of the song; and what is skipped is warned of. -/
theorem gives_compose (hnew : sheet.id = none) {j j' : Journal} {song : Song Rat} :
    (compose l sheet).Gives j song j' ↔ ∃ g reading level,
      ∃ htempo : ¬ sheet.tempo.scalar ≤ Scalar.ofInt 0,
        Grid.make sheet.tempo.scalar sheet.metre = .ok g ∧ Tab.read l g sheet.tab = .ok reading ∧
        Difficulty.ofValue sheet.difficulty = .ok level ∧
        song = composed l sheet g.metre level reading.notes j htempo ∧
        j' = { j with
          drawn := j.drawn + 1 + reading.notes.length
          given := reading.warnings.reverse ++ j.given } := by
  have hnone : (sheet.id.filter fun id => !id.isEmpty) = none := by rw [hnew]; rfl
  unfold compose Tab.readWarning
  simp only [gives_bind, gives_of, gives_warnAll, gives_pure, hnone]
  constructor
  · rintro ⟨g, k, ⟨hgrid, rfl⟩, reading, k₁, ⟨_, k₂, ⟨hread, rfl⟩, _, k₃, rfl, rfl, rfl⟩, hmake⟩
    obtain ⟨metre, level, htempo, hmetre, hlevel, rfl, rfl⟩ :=
      (gives_make_null (fun n hn => (null_of_read hread n hn).2) rfl).mp hmake
    cases hmetre
    exact ⟨g, _, level, htempo, hgrid, hread, hlevel, rfl, rfl⟩
  · rintro ⟨g, reading, level, htempo, hgrid, hread, hlevel, rfl, rfl⟩
    refine ⟨g, j, ⟨hgrid, rfl⟩, reading, _, ⟨reading, j, ⟨hread, rfl⟩, (), _, rfl, rfl, rfl⟩, ?_⟩
    exact (gives_make_null (fun n hn => (null_of_read hread n hn).2) rfl).mpr
      ⟨g.metre, level, htempo, rfl, hlevel, rfl, rfl⟩

/-! ## §3 Composed songs are read back -/

variable {metre : Metre} {level : Difficulty} {notes : List (Note Rat)} {j : Journal}
  {htempo : ¬ sheet.tempo.scalar ≤ Scalar.ofInt 0}

theorem signature_composed : ((composed l sheet metre level notes j htempo).notes.map
    Note.signature).Perm (notes.map Note.signature) := by
  rw [composed, signature_withIds]
  exact (inTime_perm notes).map Note.signature

theorem length_composed :
    (composed l sheet metre level notes j htempo).notes.length = notes.length := by
  have hlength : ((composed l sheet metre level notes j htempo).notes.map Note.signature).length =
      (notes.map Note.signature).length := signature_composed.length_eq
  rwa [List.length_map, List.length_map] at hlength

/-- A sheet whose data can be written, as far as it does not come from the tablature. -/
structure Sheet.Legible (sheet : Sheet Rat) : Prop where
  tempo : ∃ x, sheet.tempo = .measured x
  artist : ∃ name, sheet.artist = .str name
  tuning : sheet.tuning = .null ∨ ∃ name, sheet.tuning = .str name

/-- **Composed songs are legible**, if the numbers of keys and the time of day can be written. -/
theorem legible_composed (hsheet : sheet.Legible)
    (hmetre : (toString metre.numerator).length ≤ Decimal.digitLimit)
    (hnotes : ∀ n ∈ notes, n.OnKey l g) (hsize : l.size < 10 ^ Decimal.digitLimit)
    (hnow : (Nat.toDigits 10 j.now.natAbs).length ≤ Decimal.digitLimit) :
    (composed l sheet metre level notes j htempo).Legible := by
  have hdigits {n : ℕ} (hn : n ≤ l.size) : (Nat.toDigits 10 n).length ≤ Decimal.digitLimit :=
    (Nat.length_toDigits_le_iff (by norm_num) (by decide)).mpr (lt_of_le_of_lt hn hsize)
  have hfinite (x : Rat) : ∃ q, Scalar.reading x = .finite q := ⟨x, rfl⟩
  obtain ⟨x, hx⟩ := hsheet.tempo
  refine ⟨hsheet.artist, ?_, hmetre, ?_, .num _ _ _ rfl, .str _ _, ?_, ?_, .int _ _ hnow⟩
  · show Value.Legible 0 sheet.tempo.toValue
    rw [hx]
    exact .num _ _ _ rfl
  · intro n hn
    obtain ⟨k, hid⟩ := id_of_mem_withIds n hn
    -- A note is on a key, so its number is that of a key
    have hsame : ((composed l sheet metre level notes j htempo).notes.map Note.signature).Perm _ :=
      signature_composed
    obtain ⟨m, hm, hsignature⟩ :=
      List.mem_map.mp (hsame.mem_iff.mp (List.mem_map_of_mem hn))
    obtain ⟨key, hkey, hindex⟩ := ((hnotes m hm).of_signature hsignature).key
    obtain ⟨hnonneg, hlt, -⟩ := l.get_index hkey
    refine ⟨hdigits ?_, hfinite _, hfinite _, hid ▸ .str _ _⟩
    omega
  · show Value.Legible _ sheet.tuning
    rcases hsheet.tuning with h | ⟨name, h⟩
    · rw [h]
      exact .null _
    · rw [h]
      exact .str _ _
  · exact .int _ _ (hdigits (Int.natAbs_natCast l.size).le)

/-- The ids of composed notes are their own. -/
theorem owned_composed (hnull : ∀ n ∈ notes, n.id.isNull = true) :
    Owned (composed l sheet metre level notes j htempo).notes := by
  let k : Journal := { j with drawn := j.drawn + 1 }
  refine owned_of_own (gives_own_null hnull k) (fun n _ => le_refl n.time) fun id hid m _ _ => ?_
  obtain ⟨n, hn, rfl⟩ := List.mem_map.mp hid
  have hid := hnull n hn
  cases hvalue : n.id with
  | null => rfl
  | _ => rw [hvalue] at hid; cases hid

/-- **A composed song is read back from its text** if it has a title, with the same notes, on the
same grid and without a warning. -/
theorem gives_ofText_composed (hlegible : (composed l sheet metre level notes j htempo).Legible)
    (hnull : ∀ n ∈ notes, n.id.isNull = true) (htitle : sheet.title ≠ []) (k : Journal) :
    ∃ again : Song Rat, (ofText (composed l sheet metre level notes j htempo).toText).Gives k again k ∧
      again.notes = (composed l sheet metre level notes j htempo).notes.map Note.reread ∧
      again.tempo.scalar = sheet.tempo.scalar ∧ again.metre = metre := by
  set s := composed l sheet metre level notes j htempo with hs
  have hid : s.id ≠ [] := by
    show Journal.idText (j.drawn + 1) ≠ []
    simp [Journal.idText, Text.ofChars, Text.hex, Nat.toDigits_ne_nil]
  have hdraft := draftOfValue_of_toScalar hid htitle (tempo_toScalar ⟨_, rfl⟩) hlegible.metre
  have howned : Owned s.notes := owned_composed hnull
  have hmade := make_of_owned
    (d := { s.rereadDraft with artist := s.artist.orElse (.str (Text.ofString "Unknown")) }) k rfl
    s.tempo_pos rfl (Difficulty.ofValue_text s.difficulty) howned.reread
  rw [ofText_toText hlegible]
  exact ⟨_, gives_bind.mpr ⟨_, k, gives_of.mpr ⟨hdraft, rfl⟩, hmade⟩, rfl, rfl, rfl⟩

end

/-! ## §4 Halves in composed songs -/

section

variable {R : Type} [Scalar R]

theorem not_half_write_null (level : ℕ) :
    ∀ p ∈ Value.write level (.null : Value R), p.isHalf = false := by
  rw [Value.write]
  exact Value.not_half_ofString "null"

theorem not_half_optionalField (level : Nat) (name : String) (v : Value R) :
    (∀ field ∈ optionalField name v, ∀ p ∈ Value.write level field.2, p.isHalf = false) ↔
      ∀ p ∈ Value.write level v, p.isHalf = false := by
  unfold optionalField
  cases v with
  | null => exact iff_of_true nofun (not_half_write_null level)
  | _ => exact List.forall_mem_singleton

theorem not_half_write_str (level : ℕ) (s : Text) :
    (∀ p ∈ Value.write level (.str s : Value R), p.isHalf = false) ↔ ∀ p ∈ s, p.isHalf = false := by
  rw [Value.write]
  exact Value.forall_writtenText s

/-- Drawn ids have no halves. -/
theorem not_half_idText (k : Nat) : ∀ p ∈ Journal.idText k, p.isHalf = false :=
  List.forall_mem_map.mpr fun _ _ => rfl

/-- A note with a drawn id is written without halves. -/
theorem not_half_write_note {n : Note R} (hid : ∃ k, n.id = .str (Journal.idText k)) (level : Nat) :
    ∀ p ∈ Value.write level n.toValue, p.isHalf = false := by
  obtain ⟨k, hid⟩ := hid
  have hfields : n.toValue = .record ([("keyIndex", .int n.key), ("time", .num n.time),
      ("duration", .num n.duration)] ++ optionalField "id" n.id) := rfl
  rw [hfields, Value.not_half_write_record]
  simp only [List.forall_mem_append, List.forall_mem_cons, not_half_optionalField, hid,
    not_half_write_str]
  exact ⟨⟨Value.not_half_write_int _ _, Value.not_half_write_num _ _, Value.not_half_write_num _ _,
    nofun⟩, not_half_idText k⟩

/-- A song whose ids were drawn, and whose duration, number of keys and time of making are numbers, is
written with halves just if its title, artist, tablature or tuning is. -/
theorem not_half_toText {s : Song R} (hid : ∀ p ∈ s.id, p.isHalf = false)
    (hnotes : ∀ n ∈ s.notes, ∃ k, n.id = .str (Journal.idText k))
    (hduration : ∃ x, s.duration = .num x) (htines : ∃ n, s.tines = .int n)
    (hcreated : ∃ n, s.created = .int n) :
    (∀ p ∈ s.toText, p.isHalf = false) ↔
      (∀ p ∈ s.title, p.isHalf = false) ∧
      (∀ p ∈ Value.write 1 s.artist, p.isHalf = false) ∧
      (∀ p ∈ Value.write 1 s.tab, p.isHalf = false) ∧
      ∀ p ∈ Value.write 1 s.tuning, p.isHalf = false := by
  -- All else is numbers, ids that were drawn and names
  have htempo : ∀ p ∈ Value.write 1 s.tempo.toValue, p.isHalf = false := by
    cases s.tempo with
    | whole n => exact Value.not_half_write_int 1 n
    | measured x => exact Value.not_half_write_num 1 x
  have hnotes' : ∀ p ∈ Value.write 1 (.list (s.notes.map Note.toValue)), p.isHalf = false := by
    rw [Value.forall_write_list fun _ _ => rfl, List.forall_mem_map]
    exact fun n hn => not_half_write_note (hnotes n hn) 2
  obtain ⟨x, hx⟩ := hduration
  obtain ⟨keys, hkeys⟩ := htines
  obtain ⟨now, hnow⟩ := hcreated
  have hduration : ∀ p ∈ Value.write 1 s.duration, p.isHalf = false :=
    hx ▸ Value.not_half_write_num 1 x
  have htines : ∀ p ∈ Value.write 1 s.tines, p.isHalf = false := hkeys ▸ Value.not_half_write_int 1 keys
  have hcreated : ∀ p ∈ Value.write 1 s.created, p.isHalf = false :=
    hnow ▸ Value.not_half_write_int 1 now
  have htext : s.toText = Value.write 0 s.toValue := rfl
  rw [htext, toValue, Value.not_half_write_record]
  simp only [List.forall_mem_append, List.forall_mem_cons, not_half_optionalField, not_half_write_str]
  have hmetre := Value.not_half_ofString s.metre.text
  have hlevel := Value.not_half_ofString s.difficulty.text
  constructor
  · rintro ⟨⟨⟨-, htitle, hartist, -, -, -, -, -, htab, -⟩, htuning⟩, -⟩
    exact ⟨htitle, hartist, htab, htuning⟩
  · rintro ⟨htitle, hartist, htab, htuning⟩
    exact ⟨⟨⟨hid, htitle, hartist, htempo, hmetre, hlevel, hduration, hnotes', htab, hcreated, nofun⟩,
      htuning⟩, htines⟩

end

/-- **A composed song is written with halves just if its title, artist, tablature or tuning is.** -/
theorem not_half_composed {F : Type} {l : Layout F} {sheet : Sheet Rat} {metre : Metre}
    {level : Difficulty} {notes : List (Note Rat)} {j : Journal}
    {htempo : ¬ sheet.tempo.scalar ≤ Scalar.ofInt 0} :
    (∀ p ∈ (composed l sheet metre level notes j htempo).toText, p.isHalf = false) ↔
      (∀ p ∈ sheet.title, p.isHalf = false) ∧
      (∀ p ∈ Value.write 1 sheet.artist, p.isHalf = false) ∧
      (∀ p ∈ sheet.tab, p.isHalf = false) ∧
      ∀ p ∈ Value.write 1 sheet.tuning, p.isHalf = false := by
  have htab : (∀ p ∈ Value.write 1 (.str sheet.tab : Value Rat), p.isHalf = false) ↔
      ∀ p ∈ sheet.tab, p.isHalf = false := not_half_write_str 1 sheet.tab
  rw [← htab]
  exact not_half_toText (s := composed l sheet metre level notes j htempo)
    (not_half_idText (j.drawn + 1)) id_of_mem_withIds ⟨_, rfl⟩ ⟨_, rfl⟩ ⟨_, rfl⟩

end Song

end Lamella
