import Lamella.Proofs.Song.Clashes
import Lamella.Proofs.Song.Exchange
import Lamella.Proofs.Value.Exchange

/-!
# Songs read back from their text

The text of a song is read as the data that the song was written as, whatever its texts hold. The
data is then refused for one of three reasons only, and the song could still be made: its id is
empty, its title is empty, or its tempo is a whole number beyond the scalars. In no other case does
reading fail, not even if ids that were drawn for the notes are those of others: such notes get new
ids, and as their old ones are all texts, they can be named in a warning.

## Main definitions

- `Song.Legible`: songs whose numbers are finite and can be written.

## Main statements

- `Song.legible_toValue`: the data of such a song is legible.
- `Song.gives_own`: notes can be taken in again.
- `Song.exported_song_is_read`: which songs are read back from their text.
-/

namespace Lamella

variable {R : Type} [Scalar R]

/-! ## §1 Songs that can be written -/

/-- A record is legible if its fields are, and have different names. -/
theorem Value.legible_record {depth : ℕ} {fields : List (String × Value R)}
    (hnames : (fields.map (·.1)).Nodup) (h : ∀ field ∈ fields, Value.Legible depth field.2) :
    Value.Legible (depth + 1) (.record fields) := by
  refine .object depth _ ?_ ?_
  · have hmap : (fields.map fun field => (Text.ofString field.1, field.2)).map (·.1) =
        (fields.map (·.1)).map Text.ofString := by
      rw [List.map_map, List.map_map]
      rfl
    rw [hmap]
    exact hnames.map fun _ _ => Text.ofString_injective
  · exact List.forall_mem_map.mpr h

omit [Scalar R] in
/-- A field that is left out when it holds nothing has its name, or is none. -/
theorem Song.names_optionalField (name : String) (v : Value R) :
    ((Song.optionalField name v).map (·.1)).Sublist [name] := by
  unfold Song.optionalField
  cases v.isNull
  · exact .refl _
  · exact List.nil_sublist _

omit [Scalar R] in
theorem Song.forall_mem_optionalField {p : Value R → Prop} (name : String) {v : Value R} (h : p v) :
    ∀ field ∈ Song.optionalField name v, p field.2 := by
  unfold Song.optionalField
  cases v.isNull <;> simp [h]

/-- A note whose numbers are finite and can be written. -/
structure Note.Legible (n : Note R) : Prop where
  key : (Nat.toDigits 10 n.key.natAbs).length ≤ Decimal.digitLimit
  time : ∃ q, Scalar.reading n.time = .finite q
  duration : ∃ q, Scalar.reading n.duration = .finite q
  id : Value.Legible 0 n.id

/-- What holds of records with different names and such values holds of the data of a note, if its
parts are such values. -/
theorem Note.toValue_of_parts {P Q : Value R → Prop}
    (hrecord : ∀ {fields : List (String × Value R)}, (fields.map (·.1)).Nodup →
      (∀ field ∈ fields, P field.2) → Q (.record fields)) {n : Note R}
    (hkey : P (.int n.key)) (htime : P (.num n.time)) (hduration : P (.num n.duration))
    (hid : P n.id) : Q n.toValue := by
  have hfields : n.toValue = .record ([("keyIndex", .int n.key), ("time", .num n.time),
      ("duration", .num n.duration)] ++ Song.optionalField "id" n.id) := rfl
  rw [hfields]
  refine hrecord ?_ ?_
  · -- The names are some of these, in this order
    have hall : ["keyIndex", "time", "duration", "id"].Nodup := by decide
    rw [List.map_append]
    exact hall.sublist ((List.Sublist.refl _).append (Song.names_optionalField "id" n.id))
  · simp only [List.forall_mem_append, List.forall_mem_cons]
    exact ⟨⟨hkey, htime, hduration, nofun⟩, Song.forall_mem_optionalField "id" hid⟩

/-- The data of a note is legible. -/
theorem Note.legible_toValue {n : Note R} (h : n.Legible) : Value.Legible 1 n.toValue := by
  obtain ⟨time, htime⟩ := h.time
  obtain ⟨duration, hduration⟩ := h.duration
  exact Note.toValue_of_parts Value.legible_record (.int 0 _ h.key) (.num 0 _ time htime)
    (.num 0 _ duration hduration) h.id

namespace Song

/-- A song whose numbers are finite and can be written. Its id, title and artist may hold
anything. -/
structure Legible (s : Song R) : Prop where
  artist : ∃ name, s.artist = .str name
  tempo : Value.Legible 0 s.tempo.toValue
  metre : (toString s.metre.numerator).length ≤ Decimal.digitLimit
  notes : ∀ n ∈ s.notes, n.Legible
  duration : Value.Legible (Value.nestingLimit - 1) s.duration
  tab : Value.Legible (Value.nestingLimit - 1) s.tab
  tuning : Value.Legible (Value.nestingLimit - 1) s.tuning
  tines : Value.Legible (Value.nestingLimit - 1) s.tines
  created : Value.Legible (Value.nestingLimit - 1) s.created

/-- What holds of records with different names and such values holds of the data of a song, if its
parts are such values. -/
theorem toValue_of_parts {P Q : Value R → Prop}
    (hrecord : ∀ {fields : List (String × Value R)}, (fields.map (·.1)).Nodup →
      (∀ field ∈ fields, P field.2) → Q (.record fields))
    (hstr : ∀ text, P (.str text)) {s : Song R} (hartist : P s.artist) (htempo : P s.tempo.toValue)
    (hduration : P s.duration) (hnotes : P (.list (s.notes.map Note.toValue))) (htab : P s.tab)
    (hcreated : P s.created) (htuning : P s.tuning) (htines : P s.tines) : Q s.toValue := by
  refine hrecord ?_ ?_
  · have hall : ["id", "title", "artist", "bpm", "timeSignature", "difficulty", "duration", "notes",
        "notation", "createdAt", "authorTuning", "authorTineCount"].Nodup := by decide
    rw [List.map_append, List.map_append]
    exact hall.sublist (((List.Sublist.refl _).append (names_optionalField _ _)).append
      (names_optionalField _ _))
  · simp only [List.forall_mem_append, List.forall_mem_cons]
    exact ⟨⟨⟨hstr _, hstr _, hartist, htempo, hstr _, hstr _, hduration, hnotes, htab, hcreated,
      nofun⟩, forall_mem_optionalField _ htuning⟩, forall_mem_optionalField _ htines⟩

/-- **The data of such a song is legible.** -/
theorem legible_toValue {s : Song R} (h : s.Legible) :
    Value.Legible Value.nestingLimit s.toValue := by
  obtain ⟨name, hname⟩ := h.artist
  have hnotes : Value.Legible (Value.nestingLimit - 1) (.list (s.notes.map Note.toValue)) := by
    refine .list _ _ (List.forall_mem_map.mpr fun n hn => ?_)
    exact (Note.legible_toValue (h.notes n hn)).mono (by decide)
  change Value.Legible (Value.nestingLimit - 1 + 1) s.toValue
  exact toValue_of_parts Value.legible_record (.str _) (hname ▸ .str _ name)
    (h.tempo.mono (by decide)) h.duration hnotes h.tab h.created h.tuning h.tines

/-- The text of such a song is read as its data. -/
theorem ofText_toText [Scalar.Legible R] {s : Song R} (h : s.Legible) :
    ofText s.toText = ofValue s.toValue := by
  have hread : Value.ofText s.toText = .ok s.toValue := Value.ofText_toText (legible_toValue h)
  rw [ofText, hread]
  rfl

/-! ## §2 Notes taken in again -/

open Work

/-- Of ids given to notes no two are the same number, and none is the same number as one that was
met before: only drawn ids are given unseen, and these are texts. -/
theorem numbers_of_adopt {seen : Shelves (Value R)} {before : List (Value R)}
    {notes owned : List (Note R)} {repeated : List (Value R)} {j j' : Journal}
    (h : (adopt seen notes).Gives j (owned, repeated) j') (hseen : Holds seen before) {r : Value R}
    (hr : isNumeric r = true) :
    ¬ IsShared (owned.map Note.id) r ∧
      ((∃ b ∈ before, sameId r b = true) → (owned.map Note.id).countP (sameId r) = 0) := by
  -- The ids met before grow by each one that is given, so they carry the induction
  induction notes generalizing seen before owned repeated j with
  | nil =>
    obtain ⟨rfl, -, -⟩ := adopt_nil.mp h
    simp [IsShared]
  | cons n rest ih =>
    obtain ⟨-, id, k, hid, owned', others, hrest, rfl, -⟩ := adopt_cons.mp h
    obtain ⟨hshared, hlater⟩ := ih hrest (hseen.put id)
    cases hsame : sameId r id with
    | false =>
      rw [IsShared, List.map_cons, List.countP_cons_of_neg (by simp [hsame])]
      refine ⟨hshared, ?_⟩
      rintro ⟨b, hb, hrb⟩
      exact hlater ⟨b, List.mem_cons_of_mem id hb, hrb⟩
    | true =>
      -- A number was not drawn, so it was kept, and met neither before nor after
      have hnone := hlater ⟨id, List.mem_cons_self, hsame⟩
      have hkept : ∀ b ∈ before, sameId r b = false := by
        unfold NewId at hid
        split at hid
        · obtain ⟨rfl, -⟩ := hid
          rw [isNumeric_of_sameId hsame] at hr
          cases hr
        · rename_i hown
          obtain ⟨rfl, -⟩ := hid
          intro b hb
          have hnull : n.id.isNull = false := by
            cases hn : n.id.isNull with
            | true => simp [hn] at hown
            | false => rfl
          simp only [hnull, hseen n.id, Bool.false_or, Bool.not_false, Bool.true_and,
            Bool.not_eq_true] at hown
          rw [sameId_congr hsame]
          exact Bool.eq_false_iff.mpr (List.any_eq_false.mp hown b hb)
      rw [IsShared, List.map_cons, List.countP_cons_of_pos hsame, hnone]
      refine ⟨by omega, ?_⟩
      rintro ⟨b, hb, hrb⟩
      rw [hkept b hb] at hrb
      cases hrb

/-- Ids that were given to notes can be looked up. -/
theorem identifying_of_owned {seen : Shelves (Value R)} {notes owned : List (Note R)}
    {repeated : List (Value R)} {j j' : Journal}
    (h : (adopt seen notes).Gives j (owned, repeated) j') :
    ∀ n ∈ owned, isIdentifying n.id = true := by
  induction notes generalizing seen owned repeated j with
  | nil =>
    obtain ⟨rfl, -, -⟩ := adopt_nil.mp h
    exact nofun
  | cons n rest ih =>
    obtain ⟨hidentifying, id, k, hid, owned', others, hrest, rfl, -⟩ := adopt_cons.mp h
    refine List.forall_mem_cons.mpr ⟨?_, ih hrest⟩
    unfold NewId at hid
    split at hid
    · rw [hid.1]
      rfl
    · rw [hid.1]
      exact hidentifying

/-- Ids that are met again can be put in order for a warning, if no two notes share a number: then
all of them are texts. -/
theorem comparable_of_adopt {notes owned : List (Note R)} {repeated : List (Value R)}
    {j j' : Journal} (h : (adopt .bare notes).Gives j (owned, repeated) j')
    (hnumbers : ∀ r, isNumeric r = true → ¬ IsShared (notes.map Note.id) r) :
    areComparable (Order.dedup sameId repeated) = true := by
  by_contra hnot
  obtain ⟨⟨a, ha, hnumeric⟩, -⟩ := areComparable_eq_false.mp (Bool.eq_false_iff.mpr hnot)
  obtain ⟨-, -, ⟨m, -, hsame⟩ | hshared⟩ := origin_of_dedup h ha
  · rw [isNumeric_of_sameId hsame] at hnumeric
    cases hnumeric
  · exact hnumbers a hnumeric hshared

/-- **Notes can be taken in again** if their ids can be looked up and no two share a number. -/
theorem gives_own {notes : List (Note R)} (hidentifying : ∀ n ∈ notes, isIdentifying n.id = true)
    (hnumbers : ∀ r, isNumeric r = true → ¬ IsShared (notes.map Note.id) r) (j : Journal) :
    ∃ owned j', (own notes).Gives j owned j' := by
  have hperm := Order.sortBy_perm (fun a b : Note R => decide (a.time ≤ b.time)) notes
  rcases gives_or_fails (adopt .bare (Order.sortBy _ notes)) j with
    ⟨⟨owned, repeated⟩, k, hadopt⟩ | ⟨fault, k, hfails⟩
  · have hcomparable := comparable_of_adopt hadopt fun r hr hshared => by
      refine hnumbers r hr ?_
      rwa [IsShared, ← (hperm.map Note.id).countP_eq]
    unfold own
    cases hempty : repeated.isEmpty with
    | true => exact ⟨owned, k, gives_bind.mpr ⟨_, k, hadopt, by simp [hempty]⟩⟩
    | false =>
      let ids := Order.dedup sameId repeated
      let warned := Warning.reissued repeated.length (Value.list (Order.sortBy idLe ids)).shown
      refine ⟨owned, { k with given := warned :: k.given }, ?_⟩
      exact gives_bind.mpr ⟨_, k, hadopt, by
        simp [hempty, hcomparable, gives_map, ids, warned]⟩
  · obtain ⟨-, n, hn, hid⟩ := fault_of_adopt hfails
    rw [hidentifying n (hperm.mem_iff.mp hn)] at hid
    cases hid

/-- What a song owns can be taken in again, from its data as well. -/
theorem gives_own_reread {notes owned : List (Note R)} {j j' : Journal}
    (h : (own notes).Gives j owned j') (k : Journal) :
    ∃ again k', (own (owned.map Note.reread)).Gives k again k' := by
  obtain ⟨repeated, j'', -, hadopt⟩ := adopt_of_own h
  have hids : (owned.map Note.reread).map Note.id = owned.map Note.id := by
    rw [List.map_map]
    rfl
  refine gives_own ?_ ?_ k
  · exact List.forall_mem_map.mpr (identifying_of_owned hadopt)
  · rw [hids]
    exact fun r hr => (numbers_of_adopt hadopt holds_bare hr).1

/-! ## §3 Songs read back from their text -/

/-- A song is read from its data, with as many notes, if it has an id and a title and its tempo is
read as its scalar. -/
theorem gives_ofValue_of_toScalar [Scalar.Comparable R] {d : Draft R} {s : Song R} {j j' : Journal}
    (hmade : (make d).Gives j s j') (hgiven : s.id ≠ []) (htitled : s.title ≠ [])
    (htempo : s.tempo.toValue.toScalar = .ok s.tempo.scalar)
    (hmetre : (toString s.metre.numerator).length ≤ Decimal.digitLimit) (k : Journal) :
    ∃ t k', (ofValue s.toValue).Gives k t k' ∧ t.notes.length = s.notes.length := by
  obtain ⟨-, -, -, -, -, i, i', -, -, hown⟩ := made_of_draft hmade
  have hdraft := draftOfValue_of_toScalar hgiven htitled htempo hmetre
  obtain ⟨notes, k', hagain⟩ := gives_own_reread hown k
  refine ⟨_, k', gives_bind.mpr ⟨_, k, gives_of.mpr ⟨hdraft, rfl⟩,
    make_of_own rfl s.tempo_pos rfl (Difficulty.ofValue_text s.difficulty) hagain⟩, ?_⟩
  exact (length_of_own hagain).trans (List.length_map _)

end Song

end Lamella
