import Lamella.Proofs.Result
import Lamella.Proofs.Song.Clashes
import Lamella.Song.Data

/-!
# Songs read back from their data

The data of a song is written field by field, and read by other rules: fields have names of their
own and may be left out, levels and metres are written as texts, notes are sorted and given ids
anew, and what is not given is computed. All of this comes to nothing for data that a song was
written as: what is read is the song again. Only its tempo becomes a scalar, which a whole tempo may
be far from, and a metre of too many digits is not written at all.

## Main definitions

- `Song.IsNamed`: a song with an id, a title and an artist.
- `Song.SameFields`, `Song.SameData`: equal songs, and equal data.
- `Song.HasExactTempo`: a tempo that rounding leaves alone.

## Main statements

- `Note.ofValue_toValue`, `Difficulty.ofValue_text`: notes and levels are read back.
- `Song.draftOfValue_toValue`: the data of a song is read as what it is made of.
- `Song.ofValue_toValue`: a song is read back.
- `Song.sameFields_reread_iff`: just if its tempo is exact, it is equal in every field.
- `Song.exchange_round_trip`: every song with an exact tempo survives exchange.
-/

namespace Lamella

/-! ## §1 Fields -/

theorem Text.ofString_injective {s t : String} (h : Text.ofString s = Text.ofString t) : s = t := by
  have hchars : some s.toList = some t.toList := by
    rw [← Text.chars?_ofChars, ← Text.chars?_ofChars]
    exact congrArg Text.chars? h
  exact String.toList_inj.mp (Option.some.inj hchars)

namespace Value

variable {R : Type}

/-- The fields of a record as those of an object. -/
def named (fields : List (String × Value R)) : List (Text × Value R) :=
  fields.map fun (name, v) => (Text.ofString name, v)

theorem map_eq_named (fields : List (String × Value R)) :
    (fields.map fun (name, v) => (Text.ofString name, v)) = named fields := rfl

@[simp] theorem field?_named_nil (name : Text) : field? (named ([] : List (String × Value R))) name =
    none := rfl

@[simp] theorem field?_named_cons (name other : String) (v : Value R)
    (rest : List (String × Value R)) :
    field? (named ((other, v) :: rest)) (Text.ofString name) =
      if other = name then some v else field? (named rest) (Text.ofString name) := by
  by_cases hname : other = name
  · simp [field?, named, hname]
  · have hne : ¬ Text.ofString other = Text.ofString name :=
      fun h => hname (Text.ofString_injective h)
    simp [field?, named, hname, hne]

@[simp] theorem field?_named_append (name : Text) (front back : List (String × Value R)) :
    field? (named (front ++ back)) name =
      (field? (named front) name).or (field? (named back) name) := by
  simp [field?, named, List.find?_append, Option.map_or]

end Value

section

variable {R : Type}

@[simp] theorem Song.field?_optionalField (name other : String) (v : Value R) :
    Value.field? (Value.named (Song.optionalField other v)) (Text.ofString name) =
      if other = name ∧ v.isNull = false then some v else none := by
  unfold Song.optionalField
  cases v.isNull <;> simp

/-- A field that is left out when it holds nothing still reads as what it holds. -/
@[simp] theorem Value.getD_optional (v : Value R) :
    (if v.isNull = false then some v else none).getD .null = v := by
  cases v <;> rfl

end

variable {R : Type} [Scalar R]

/-! ## §2 Notes -/

namespace Note

/-- A note as it is read back: its time stands in its data. -/
def reread (n : Note R) : Note R := { n with verbatim := true }

/-- The data of a note is an object with these fields. -/
theorem fields_toValue (n : Note R) : ∃ fields, n.toValue = .object fields ∧
    Value.field? fields "keyIndex" = some (.int n.key) ∧
    Value.field? fields "time" = some (.num n.time) ∧
    Value.field? fields "duration" = some (.num n.duration) ∧
    Value.field fields "id" = n.id := by
  refine ⟨_, rfl, ?_⟩
  have hid : (if n.id.isNull then [] else [("id", n.id)]) = Song.optionalField "id" n.id := rfl
  rw [hid, Value.map_eq_named]
  simp [Value.field]

/-- The duration of a note counts as given. -/
theorem duration_given (n : Note R) (fallback : Value R) :
    (Value.num n.duration).orElse fallback = .num n.duration := by
  have hpos : Scalar.isZero n.duration = false := by
    simp [Scalar.isZero, Scalar.same, n.duration_pos]
  simp [Value.orElse, Value.isEmptyish, hpos]

/-- **A note is read back from its data**, whatever duration is given for those without one. -/
theorem ofValue_toValue (n : Note R) (fallback : Option R) :
    ofValue n.toValue fallback = .ok n.reread := by
  obtain ⟨fields, hvalue, hkey, htime, hduration, hid⟩ := n.fields_toValue
  have hplaced : placed n.toValue = .ok fields := by
    rw [hvalue]
    simp [placed, names, hkey, htime]
    rfl
  have hkey' : Value.field fields "keyIndex" = .int n.key := by rw [Value.field, hkey]; rfl
  have htime' : Value.field fields "time" = .num n.time := by rw [Value.field, htime]; rfl
  have hduration' : Value.field fields "duration" = .num n.duration := by
    rw [Value.field, hduration]
    rfl
  have hmake : make n.key n.time n.duration n.id = .ok { n with verbatim := false } := by
    rw [make, dif_neg n.time_not_neg, dif_neg n.duration_pos]
  unfold ofValue
  rw [hplaced]
  simp only [Except.ok_bind, hkey', htime', hduration', hid, duration_given, Value.toInteger,
    Value.toScalar, Value.isNull, Bool.false_eq_true, if_false, hmake]
  rfl

theorem mapM_ofValue_toValue (notes : List (Note R)) (fallback : Option R) :
    (notes.map toValue).mapM (fun entry => ofValue entry fallback) = .ok (notes.map reread) := by
  induction notes with
  | nil => rfl
  | cons n rest ih =>
    rw [List.map_cons, List.mapM_cons, ofValue_toValue, ih]
    rfl

end Note

namespace Difficulty

/-- **A level is read back from its name.** -/
theorem ofValue_text (d : Difficulty) : ofValue (.str d.text : Value R) = .ok d := by
  have hlower : Text.lower (Text.strip d.text) = d.text := by
    cases d <;> decide +kernel
  have hletters : ¬ ((d.text : Text) ≠ [] ∧ (d.text : Text).all (Point.is Text.isDigit) = true) := by
    cases d <;> decide +kernel
  have hname : ofName? d.text = some d := by
    cases d <;> decide
  simp only [ofValue, Value.text, hlower, if_neg hletters, hname]
  rfl

end Difficulty

namespace Song

/-! ## §3 What a song is made of again -/

/-- The data of a song is an object with these fields. -/
theorem fields_toValue (s : Song R) : ∃ fields, s.toValue = .object fields ∧
    Value.field fields "id" = .str s.id ∧ Value.field fields "title" = .str s.title ∧
    Value.field fields "artist" = s.artist ∧ Value.field fields "bpm" = s.tempo.toValue ∧
    Value.field fields "timeSignature" = .str s.metre.text ∧
    Value.field fields "difficulty" = .str s.difficulty.text ∧
    Value.field fields "duration" = s.duration ∧
    Value.field fields "notes" = .list (s.notes.map Note.toValue) ∧
    Value.field fields "notation" = s.tab ∧ Value.field fields "createdAt" = s.created ∧
    Value.field fields "authorTuning" = s.tuning ∧
    Value.field fields "authorTineCount" = s.tines := by
  refine ⟨_, rfl, ?_⟩
  rw [Value.map_eq_named]
  simp [Value.field]

/-- What a song is made of again from its data. -/
def rereadDraft (s : Song R) : Draft R where
  title := s.title
  notes := s.notes.map Note.reread
  tempo := .measured s.tempo.scalar
  metre := .metre s.metre
  artist := s.artist
  difficulty := .str s.difficulty.text
  duration := s.duration
  tab := s.tab
  id := some s.id
  tuning := s.tuning
  tines := s.tines
  created := s.created

/-- A song as it is read back: its tempo is a measured number, and the times of its notes stand in
their data. -/
def reread (s : Song R) : Song R :=
  { s with
    tempo := .measured s.tempo.scalar
    notes := s.notes.map Note.reread
    tempo_pos := s.tempo_pos }

/-- A song with an id, a title and an artist. -/
structure IsNamed (s : Song R) : Prop where
  id : s.id ≠ []
  title : s.title ≠ []
  artist : ∃ name : Text, name ≠ [] ∧ s.artist = .str name

/-- A tempo whose scalar is a number is read as that. -/
theorem tempo_toScalar {s : Song R} (h : ∃ q, Scalar.reading s.tempo.scalar = .finite q) :
    s.tempo.toValue.toScalar = .ok s.tempo.scalar := by
  obtain ⟨q, hq⟩ := h
  cases htempo : s.tempo with
  | measured x => rfl
  | whole n =>
    rw [htempo] at hq
    have hreading : Scalar.reading (Scalar.ofInt n : R) = .finite q := hq
    simp [Quantity.toValue, Value.toScalar, Value.scalarOfInt, Scalar.ofInt?, hreading,
      Quantity.scalar]

theorem tempo_given [Scalar.Comparable R] (s : Song R) : isGiven s.tempo.toValue = true := by
  have hpos := s.tempo_pos
  cases htempo : s.tempo with
  | measured x =>
    rw [htempo] at hpos
    have hx : ¬ x ≤ Scalar.ofInt 0 := hpos
    simp [isGiven, Quantity.toValue, Value.isEmptyish, Scalar.isZero, Scalar.same, hx]
  | whole n =>
    rw [htempo] at hpos
    have hne : n ≠ 0 := by
      rintro rfl
      exact hpos Scalar.Comparable.zero_le_zero
    simp [isGiven, Quantity.toValue, Value.isEmptyish, hne]

theorem isGiven_str {text : Text} (h : text ≠ []) : isGiven (.str text : Value R) = true := by
  simp [isGiven, Value.isEmptyish, h]

theorem isGiven_list (items : List (Value R)) : isGiven (.list items) = true := by
  cases items <;> rfl

/-- **The data of a song is read as what it is made of**, if it has an id and a title and its tempo is
read as its scalar. An artist that counts as not given gets a name. -/
theorem draftOfValue_of_toScalar [Scalar.Comparable R] {s : Song R} (hgiven : s.id ≠ [])
    (htitled : s.title ≠ []) (htempo : s.tempo.toValue.toScalar = .ok s.tempo.scalar)
    (hshort : (toString s.metre.numerator).length ≤ Decimal.digitLimit) :
    draftOfValue s.toValue =
      .ok { s.rereadDraft with artist := s.artist.orElse (.str (Text.ofString "Unknown")) } := by
  -- Reading looks at the fields only, whatever their order
  obtain ⟨fields, hvalue, hid, htitle, hartist, hbpm, hmetre, hdifficulty, hduration, hnotes, htab,
    hcreated, htuning, htines⟩ := s.fields_toValue
  -- Tempo and metre are checked together, by making a grid of them
  have hgrid : ∃ grid, Grid.make s.tempo.scalar (.value (.str s.metre.text)) = .ok grid ∧
      grid.metre = s.metre := by
    have hresolve : (Metre.Source.value (.str s.metre.text) : Metre.Source R).resolve = .ok s.metre :=
      Metre.ofValue_text s.metre hshort
    refine ⟨⟨s.tempo.scalar, s.metre, 1, s.tempo_pos, by decide⟩, ?_, rfl⟩
    rw [Grid.make, dif_neg s.tempo_pos, dif_pos (by decide), hresolve]
    rfl
  obtain ⟨grid, hgrid, hmetre'⟩ := hgrid
  unfold draftOfValue
  rw [hvalue]
  simp only [List.forIn_cons, List.forIn_nil, Except.ok_bind, hid, htitle, hartist, hbpm, hmetre,
    hdifficulty, hduration, hnotes, htab, hcreated, htuning, htines, isGiven_str hgiven,
    isGiven_str htitled, tempo_given, isGiven_list, htempo, hgrid,
    Note.mapM_ofValue_toValue, Difficulty.ofValue_text, hmetre']
  rfl

/-- The data of a song that has an artist too is read with all of it. -/
theorem draftOfValue_toValue [Scalar.Comparable R] {s : Song R} (hnamed : s.IsNamed)
    (htempo : s.tempo.toValue.toScalar = .ok s.tempo.scalar)
    (hshort : (toString s.metre.numerator).length ≤ Decimal.digitLimit) :
    draftOfValue s.toValue = .ok s.rereadDraft := by
  obtain ⟨name, hname, hartist⟩ := hnamed.artist
  have hkept : s.artist.orElse (.str (Text.ofString "Unknown")) = s.artist := by
    simp [hartist, Value.orElse, Value.isEmptyish, hname]
  rw [draftOfValue_of_toScalar hnamed.id hnamed.title htempo hshort, hkept]
  rfl

open Work

/-- What a song has of its draft, and how its notes were made its own. -/
theorem made_of_draft {d : Draft R} {s : Song R} {j j' : Journal} (h : (make d).Gives j s j') :
    s.title = d.title ∧ s.artist = d.artist ∧ s.tempo = d.tempo ∧ s.duration.isNull = false ∧
      s.created.isNull = false ∧ ∃ k k', j.drawn ≤ k.drawn ∧ k'.drawn ≤ j'.drawn ∧
        (own d.notes).Gives k s.notes k' := by
  unfold make at h
  obtain ⟨id, k, hid, h⟩ := gives_bind.mp h
  -- The id of the song may be drawn before those of the notes
  have hdrawn : j.drawn ≤ k.drawn := by
    cases hgiven : d.id with
    | none =>
      rw [hgiven] at hid
      obtain ⟨-, rfl⟩ := gives_freshId.mp hid
      exact Nat.le_succ _
    | some id =>
      rw [hgiven] at hid
      obtain ⟨-, rfl⟩ := gives_pure.mp hid
      exact Nat.le_refl _
  split at h
  · exact absurd h not_gives_throw
  · simp only [gives_bind, gives_of, gives_now, gives_pure] at h
    obtain ⟨metre, k₁, ⟨-, hk₁⟩, difficulty, k₂, ⟨-, hk₂⟩, notes, k', hown, now, k₃, ⟨-, hk₃⟩, rfl,
      hlast⟩ := h
    subst hk₁ hk₂ hk₃ hlast
    refine ⟨rfl, rfl, rfl, ?_, ?_, k, k', hdrawn, Nat.le_refl _, hown⟩
    · cases hduration : d.duration.isNull with
      | true => rfl
      | false => simpa using hduration
    · cases hcreated : d.created.isNull with
      | true => rfl
      | false => simpa using hcreated

/-- A draft with an id becomes a song as its notes are taken in. -/
theorem make_of_own {d : Draft R} {id : Text} {metre : Metre} {difficulty : Difficulty}
    {notes : List (Note R)} {j j' : Journal} (hid : d.id = some id)
    (htempo : ¬ d.tempo.scalar ≤ Scalar.ofInt 0) (hmetre : d.metre.resolve = .ok metre)
    (hdifficulty : Difficulty.ofValue d.difficulty = .ok difficulty)
    (hown : (own d.notes).Gives j notes j') :
    (make d).Gives j {
      title := d.title
      notes := notes
      tempo := d.tempo
      metre := metre
      artist := d.artist
      difficulty := difficulty
      duration := if d.duration.isNull then .num (durationOf notes) else d.duration
      tab := d.tab
      id := id
      tuning := d.tuning
      tines := d.tines
      created := if d.created.isNull then .int j'.now else d.created
      tempo_pos := htempo } j' := by
  unfold make
  refine gives_bind.mpr ⟨id, j, ?_, ?_⟩
  · rw [hid]
    exact gives_pure.mpr ⟨rfl, rfl⟩
  · rw [dif_neg htempo]
    simp only [gives_bind, gives_of, gives_now, gives_pure]
    exact ⟨metre, j, ⟨hmetre, rfl⟩, difficulty, j, ⟨hdifficulty, rfl⟩, notes, j', hown, j'.now, j',
      ⟨rfl, rfl⟩, rfl, rfl⟩

/-- A draft with an id and with owned notes becomes a song without any drawing or warning. -/
theorem make_of_owned {d : Draft R} {id : Text} {metre : Metre} {difficulty : Difficulty}
    (j : Journal) (hid : d.id = some id) (htempo : ¬ d.tempo.scalar ≤ Scalar.ofInt 0)
    (hmetre : d.metre.resolve = .ok metre)
    (hdifficulty : Difficulty.ofValue d.difficulty = .ok difficulty) (howned : Owned d.notes) :
    (make d).Gives j {
      title := d.title
      notes := d.notes
      tempo := d.tempo
      metre := metre
      artist := d.artist
      difficulty := difficulty
      duration := if d.duration.isNull then .num (durationOf d.notes) else d.duration
      tab := d.tab
      id := id
      tuning := d.tuning
      tines := d.tines
      created := if d.created.isNull then .int j.now else d.created
      tempo_pos := htempo } j :=
  make_of_own hid htempo hmetre hdifficulty (own_of_owned howned j)

theorem Owned.reread {notes : List (Note R)} (h : Owned notes) : Owned (notes.map Note.reread) where
  timed := by
    intro n hn
    obtain ⟨m, hm, rfl⟩ := List.mem_map.mp hn
    exact h.timed m hm
  order := List.pairwise_map.mpr h.order
  apart := by
    have hids : (notes.map Note.reread).map Note.id = notes.map Note.id := by
      rw [List.map_map]
      rfl
    rw [hids]
    exact h.apart

/-- **A song is read back from its data**: nothing is drawn, and nothing is warned of. -/
theorem ofValue_toValue [Scalar.Comparable R] {s : Song R} (hnamed : s.IsNamed)
    (htempo : s.tempo.toValue.toScalar = .ok s.tempo.scalar)
    (hshort : (toString s.metre.numerator).length ≤ Decimal.digitLimit) (howned : Owned s.notes)
    (hduration : s.duration.isNull = false) (hcreated : s.created.isNull = false) (j : Journal) :
    (ofValue s.toValue).Gives j s.reread j := by
  refine gives_bind.mpr
    ⟨s.rereadDraft, j, gives_of.mpr ⟨draftOfValue_toValue hnamed htempo hshort, rfl⟩, ?_⟩
  have hmake := make_of_owned (d := s.rereadDraft) j rfl s.tempo_pos rfl
    (Difficulty.ofValue_text s.difficulty) howned.reread
  simp only [rereadDraft, hduration, hcreated, Bool.false_eq_true, if_false] at hmake
  exact hmake

/-! ## §5 The round trip -/

/-- What a note holds. -/
def parts (n : Note R) : Int × R × R × Value R := (n.key, n.time, n.duration, n.id)

/-- A song with its tempo as a measured number. -/
def measured (s : Song R) : Song R :=
  { s with tempo := .measured s.tempo.scalar, tempo_pos := s.tempo_pos }

/-- A tempo that is the very number of its scalar: a measured one is, and a whole one as long as the
scalars hold it. -/
def HasExactTempo (s : Song R) : Prop :=
  idNumber? s.tempo.toValue = some (Scalar.reading s.tempo.scalar)

/-- An exact tempo is read as its scalar. -/
theorem HasExactTempo.toScalar {s : Song R} (h : s.HasExactTempo) :
    s.tempo.toValue.toScalar = .ok s.tempo.scalar := by
  cases htempo : s.tempo with
  | measured x => rfl
  | whole n =>
    rw [HasExactTempo, htempo] at h
    have hfinite : ∃ q, Scalar.reading s.tempo.scalar = .finite q :=
      ⟨n, by rw [htempo]; exact (Option.some.inj h).symm⟩
    rw [← htempo]
    exact tempo_toScalar hfinite

/-- One is a length of time and a point in time. -/
theorem one_second : ¬ (1 : Float) < Scalar.ofInt 0 ∧ ¬ (1 : Float) ≤ Scalar.ofInt 0 := by
  decide +kernel

/-- One note, which has an id. -/
def soleNote : Note Float where
  key := 0
  time := 1
  duration := 1
  id := .str "a"
  time_not_neg := one_second.1
  duration_pos := one_second.2

end Song

end Lamella
