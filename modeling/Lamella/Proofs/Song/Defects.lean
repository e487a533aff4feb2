import Lamella.Proofs.Result
import Lamella.Proofs.Song.Clashes
import Lamella.Proofs.Song.Exchange

/-!
# Faults of song data

The data of a song is any value, and the reader says of most bad values what is wrong with them:
something is missing, out of its range, or no number. A few defects are not looked for. A number is
wanted where nothing, a list or an object stands, an integer is infinite or too large for a scalar,
a note is no object, or ids cannot be compared. Then a step of the reading itself fails, with a
fault of another kind.

## Main definitions

- `Fault.IsOfData`, `Fault.IsOfReading`: what is wrong with data, and steps that fail by themselves.
- `Note.Defect`, `Song.Defect`: the defects that are not looked for.

## Main statements

- `Value.fault_of_toScalar`, `Value.fault_of_toInteger`: what goes wrong in reading numbers.
- `Note.fault_of_ofValue`: what goes wrong in reading a note.
- `Song.fault_of_ofValue`: a step fails by itself only where data has one of these defects.
- `Song.not_gives_of_defect`: data with such a defect never becomes a song.
-/

namespace Lamella

/-! ## §1 Numbers -/

namespace Fault

/-- What is wrong with data: a value out of its range, or one that is no number. -/
def IsOfData (fault : Fault) : Prop := fault.kind = .invalid ∨ fault.kind = .conversion

/-- A step that fails by itself: a value of another shape, without such a member, or too large. -/
def IsOfReading (fault : Fault) : Prop :=
  fault.kind = .shape ∨ fault.kind = .member ∨ fault.kind = .overflow

instance (fault : Fault) : Decidable fault.IsOfData := inferInstanceAs (Decidable (_ ∨ _))

instance (fault : Fault) : Decidable fault.IsOfReading := inferInstanceAs (Decidable (_ ∨ _ ∨ _))

end Fault

namespace Value

variable {R : Type} [Scalar R] {v : Value R} {fault : Fault}

/-- A value that no scalar is read from, and that is not refused as the text of none. -/
inductive NoScalar : Value R → Prop where
  | null : NoScalar .null
  | list (items : List (Value R)) : NoScalar (.list items)
  | object (fields : List (Text × Value R)) : NoScalar (.object fields)
  | tooLarge {n : Int} (h : (Scalar.ofInt? n : Option R) = none) : NoScalar (.int n)

/-- A value that no integer is read from, and that is not refused as the text of none. -/
inductive NoInteger : Value R → Prop where
  | null : NoInteger .null
  | list (items : List (Value R)) : NoInteger (.list items)
  | object (fields : List (Text × Value R)) : NoInteger (.object fields)
  | infinite {x : R} {negative : Bool} (h : Scalar.reading x = .infinite negative) :
    NoInteger (.num x)

theorem fault_of_toScalar (h : v.toScalar = .error fault) :
    fault.IsOfData ∨ fault.IsOfReading ∧ v.NoScalar := by
  cases v with
  | null =>
    cases h
    exact .inr ⟨.inl rfl, .null⟩
  | bool b => cases h
  | int n =>
    simp only [toScalar, scalarOfInt] at h
    cases hn : (Scalar.ofInt? n : Option R) with
    | none =>
      rw [hn] at h
      cases h
      exact .inr ⟨.inr (.inr rfl), .tooLarge hn⟩
    | some x =>
      rw [hn] at h
      cases h
  | num x => cases h
  | str s =>
    simp only [toScalar] at h
    split at h
    · cases h
    · cases h
      exact .inl (.inr rfl)
  | list items =>
    cases h
    exact .inr ⟨.inl rfl, .list items⟩
  | object fields =>
    cases h
    exact .inr ⟨.inl rfl, .object fields⟩

theorem NoScalar.toScalar_ne (h : v.NoScalar) (x : R) : v.toScalar ≠ .ok x := by
  cases h with
  | null => exact nofun
  | list items => exact nofun
  | object fields => exact nofun
  | tooLarge hn => simp [toScalar, scalarOfInt, hn]

/-- A gap is of the data if there is no number, and of the reading if it is infinite. -/
theorem fault_of_trunc {x : R} (h : (Scalar.trunc x).mapError Fault.ofGap = .error fault) :
    fault.IsOfData ∨ fault.IsOfReading ∧ ∃ negative, Scalar.reading x = .infinite negative := by
  obtain ⟨gap, hgap, rfl⟩ := Except.mapError_eq_error.mp h
  unfold Scalar.trunc at hgap
  cases hreading : Scalar.reading x with
  | finite q =>
    rw [hreading] at hgap
    cases hgap
  | infinite negative =>
    rw [hreading] at hgap
    cases hgap
    exact .inr ⟨.inr (.inr rfl), negative, rfl⟩
  | undefined =>
    rw [hreading] at hgap
    cases hgap
    exact .inl (.inr rfl)

theorem trunc_ne_of_infinite {x : R} {negative : Bool} (h : Scalar.reading x = .infinite negative)
    (n : Int) : (Scalar.trunc x).mapError Fault.ofGap ≠ .ok n := by
  unfold Scalar.trunc
  rw [h]
  exact nofun

theorem fault_of_integerOfText {s : Text} (h : integerOfText s = .error fault) :
    fault.kind = .conversion := by
  unfold integerOfText at h
  dsimp only at h
  split at h
  · split at h
    · cases h
      rfl
    · cases h
  · cases h
    rfl

theorem fault_of_toInteger (h : v.toInteger = .error fault) :
    fault.IsOfData ∨ fault.IsOfReading ∧ v.NoInteger := by
  cases v with
  | null =>
    cases h
    exact .inr ⟨.inl rfl, .null⟩
  | bool b => cases h
  | int n => cases h
  | num x =>
    rcases fault_of_trunc h with hdata | ⟨hreading, negative, hinfinite⟩
    · exact .inl hdata
    · exact .inr ⟨hreading, .infinite hinfinite⟩
  | str s => exact .inl (.inr (fault_of_integerOfText h))
  | list items =>
    cases h
    exact .inr ⟨.inl rfl, .list items⟩
  | object fields =>
    cases h
    exact .inr ⟨.inl rfl, .object fields⟩

theorem NoInteger.toInteger_ne (h : v.NoInteger) (n : Int) : v.toInteger ≠ .ok n := by
  cases h with
  | null => exact nofun
  | list items => exact nofun
  | object fields => exact nofun
  | infinite hinfinite => exact trunc_ne_of_infinite hinfinite n

end Value

variable {R : Type} [Scalar R]

theorem Metre.fault_of_ofValue {v : Value R} {fault : Fault} (h : ofValue v = .error fault) :
    fault.IsOfData := by
  unfold ofValue at h
  split at h
  · cases h
  · split at h
    · split at h
      · obtain ⟨-, -, rfl⟩ := Except.mapError_eq_error.mp h
        exact .inl rfl
      · cases h
        exact .inl rfl
    · cases h
      exact .inl rfl

theorem Grid.fault_of_make {tempo : R} {v : Value R} {fault : Fault}
    (h : make tempo (.value v) = .error fault) : fault.IsOfData := by
  unfold make at h
  split at h
  · cases h
    exact .inl rfl
  · split at h
    · rcases Except.bind_eq_error.mp h with hmetre | ⟨metre, -, hpure⟩
      · exact Metre.fault_of_ofValue hmetre
      · cases hpure
    · cases h
      exact .inl rfl

namespace Difficulty

theorem fault_of_ofNumber {n : Int} {fault : Fault} (h : ofNumber n = .error fault) :
    fault.IsOfData := by
  unfold ofNumber at h
  split at h
  · cases h
  · cases h
    exact .inl rfl

/-- Whether a level is read from the text of a value: it is neither nothing nor a truth value nor a
number. -/
def isNamed : Value R → Bool
  | .str _ | .list _ | .object _ => true
  | _ => false

theorem fault_of_text {v : Value R} {fault : Fault} (hnamed : isNamed v = true)
    (h : ofValue v = .error fault) : fault.IsOfData := by
  unfold ofValue at h
  split at h
  · cases hnamed
  · cases hnamed
  · cases hnamed
  · cases hnamed
  · dsimp only at h
    split at h
    · rcases Except.bind_eq_error.mp h with hinteger | ⟨n, -, hnumber⟩
      · exact .inr (Value.fault_of_integerOfText hinteger)
      · exact fault_of_ofNumber hnumber
    · split at h
      · cases h
      · cases h
        exact .inl rfl

/-- Reading a level fails by itself only for an infinite number. -/
theorem fault_of_ofValue {v : Value R} {fault : Fault} (h : ofValue v = .error fault) :
    fault.IsOfData ∨ fault.IsOfReading ∧
      ∃ x negative, v = .num x ∧ Scalar.reading x = .infinite negative := by
  cases v with
  | null => cases h
  | bool b =>
    cases h
    exact .inl (.inl rfl)
  | int n => exact .inl (fault_of_ofNumber h)
  | num x =>
    rcases Except.bind_eq_error.mp h with htrunc | ⟨n, -, hlevel⟩
    · rcases Value.fault_of_trunc htrunc with hdata | ⟨hreading, negative, hinfinite⟩
      · exact .inl hdata
      · exact .inr ⟨hreading, x, negative, rfl, hinfinite⟩
    · left
      split at hlevel
      · split at hlevel
        · cases hlevel
        · cases hlevel
          exact .inl rfl
      · cases hlevel
        exact .inl rfl
  | str s => exact .inl (fault_of_text rfl h)
  | list items => exact .inl (fault_of_text rfl h)
  | object fields => exact .inl (fault_of_text rfl h)

theorem ofValue_ne_of_infinite {x : R} {negative : Bool}
    (h : Scalar.reading x = .infinite negative) (d : Difficulty) :
    ofValue (.num x) ≠ .ok d := by
  intro hlevel
  obtain ⟨n, hn, -⟩ := Except.bind_eq_ok.mp hlevel
  exact Value.trunc_ne_of_infinite h n hn

end Difficulty

/-! ## §2 Notes -/

namespace Note

/-- The defects of a note's data that are not looked for: it is no container of names, it is one but
no object, a number of it is none, or its id cannot be looked up. -/
inductive Defect : Value R → Prop where
  | nameless {v : Value R} (h : names v "keyIndex" = .error .wrongShape) : Defect v
  | noObject {v : Value R} (hkey : names v "keyIndex" = .ok true)
    (htime : names v "time" = .ok true) (h : ∀ fields, v ≠ .object fields) : Defect v
  | key {fields : List (Text × Value R)} (hplaced : placed (.object fields) = .ok fields)
    (h : (Value.field fields "keyIndex").NoInteger) : Defect (.object fields)
  | time {fields : List (Text × Value R)} (hplaced : placed (.object fields) = .ok fields)
    (h : (Value.field fields "time").NoScalar) : Defect (.object fields)
  | duration {fields : List (Text × Value R)} (hplaced : placed (.object fields) = .ok fields)
    (hgiven : (Value.field fields "duration").isEmptyish = false)
    (h : (Value.field fields "duration").NoScalar) : Defect (.object fields)
  | id {fields : List (Text × Value R)} (hplaced : placed (.object fields) = .ok fields)
    (h : Song.isIdentifying (Value.field fields "id") = false) : Defect (.object fields)

variable {v : Value R} {fault : Fault}

/-- The fields of an object; nothing else has fields. -/
def fieldsOf : Value R → Except Fault (List (Text × Value R))
  | .object fields => .ok fields
  | _ => .error .noMember

/-- Where names can be looked up, both have to be there. -/
theorem placed_eq {a b : Bool} (hkey : names v "keyIndex" = .ok a)
    (htime : names v "time" = .ok b) :
    placed v = if a && b then fieldsOf v else .error (.unplacedNote v.shown) := by
  unfold placed
  rw [hkey, htime]
  cases a <;> cases b <;> rfl

/-- What is placed is an object. -/
theorem eq_object_of_placed {fields : List (Text × Value R)} (h : placed v = .ok fields) :
    v = .object fields := by
  obtain ⟨a, hkey, hrest⟩ := Except.bind_eq_ok.mp h
  have htime : ∃ b, names v "time" = .ok b := by
    cases v with
    | list items => exact ⟨_, rfl⟩
    | str s => exact ⟨_, rfl⟩
    | object fields => exact ⟨_, rfl⟩
    | _ => cases hkey
  obtain ⟨b, htime⟩ := htime
  rw [placed_eq hkey htime] at h
  split at h
  · unfold fieldsOf at h
    split at h
    · cases h
      rfl
    · cases h
  · cases h

theorem fault_of_placed (h : placed v = .error fault) :
    fault.IsOfData ∨ fault.IsOfReading ∧ Defect v := by
  -- Lists and texts have names to look up, but are no objects
  have hnames : ∀ a b, names v "keyIndex" = .ok a → names v "time" = .ok b →
      (∀ fields, v ≠ .object fields) → fault.IsOfData ∨ fault.IsOfReading ∧ Defect v := by
    intro a b hkey htime hobject
    rw [placed_eq hkey htime] at h
    split at h
    · rename_i hboth
      obtain ⟨rfl, rfl⟩ := Bool.and_eq_true_iff.mp hboth
      unfold fieldsOf at h
      split at h
      · exact absurd rfl (hobject _)
      · cases h
        exact .inr ⟨.inr (.inl rfl), .noObject hkey htime hobject⟩
    · cases h
      exact .inl (.inl rfl)
  cases v with
  | list items => exact hnames _ _ rfl rfl nofun
  | str s => exact hnames _ _ rfl rfl nofun
  | object fields =>
    rw [placed_eq rfl rfl] at h
    split at h
    · cases h
    · cases h
      exact .inl (.inl rfl)
  | _ =>
    cases h
    exact .inr ⟨.inl rfl, .nameless rfl⟩

theorem fault_of_make {key : Int} {time duration : R} {id : Value R}
    (h : make key time duration id = .error fault) : fault.IsOfData := by
  unfold make at h
  split at h
  · cases h
    exact .inl rfl
  · split at h
    · cases h
      exact .inl rfl
    · cases h

/-- The duration of a note's data, or a given one, counts as given. -/
theorem isNull_orElse (v : Value R) (d : R) : (v.orElse (.num d)).isNull = false := by
  unfold Value.orElse
  split
  · rfl
  · cases v with
    | null => rename_i h; exact absurd rfl h
    | _ => rfl

/-- Reading a note, step by step. -/
theorem ofValue_of_placed {fields : List (Text × Value R)} (hplaced : placed v = .ok fields)
    (d : R) : ofValue v (some d) = (do
      let key ← (Value.field fields "keyIndex").toInteger
      let time ← (Value.field fields "time").toScalar
      let duration ← ((Value.field fields "duration").orElse (.num d)).toScalar
      let n ← make key time duration (Value.field fields "id")
      return { n with verbatim := (Value.field fields "time").isNumber }) := by
  have hgiven := isNull_orElse (Value.field fields "duration") d
  unfold ofValue
  rw [hplaced]
  exact if_neg (Bool.eq_false_iff.mp hgiven)

/-- A step of reading a note fails by itself only if the note has a defect. -/
theorem fault_of_ofValue {d : R} (h : ofValue v (some d) = .error fault) :
    fault.IsOfData ∨ fault.IsOfReading ∧ Defect v := by
  cases hplaced : placed v with
  | error first =>
    have hfirst : ofValue v (some d) = .error first := by
      unfold ofValue
      rw [hplaced]
      rfl
    cases hfirst.symm.trans h
    exact fault_of_placed hplaced
  | ok fields =>
    obtain rfl := eq_object_of_placed hplaced
    rw [ofValue_of_placed hplaced] at h
    simp only [Except.bind_eq_error] at h
    rcases h with hkey | ⟨key, -, htime | ⟨time, -, hduration | ⟨duration, -, hmake | ⟨n, -, hn⟩⟩⟩⟩
    · exact (Value.fault_of_toInteger hkey).imp_right fun h => ⟨h.1, .key hplaced h.2⟩
    · exact (Value.fault_of_toScalar htime).imp_right fun h => ⟨h.1, .time hplaced h.2⟩
    · cases hgiven : (Value.field fields "duration").isEmptyish with
      | true =>
        rw [Value.orElse, hgiven] at hduration
        cases hduration
      | false =>
        rw [Value.orElse, hgiven] at hduration
        exact (Value.fault_of_toScalar hduration).imp_right fun h =>
          ⟨h.1, .duration hplaced hgiven h.2⟩
    · exact .inl (fault_of_make hmake)
    · cases hn

/-- What a note has of its data. -/
theorem of_ofValue {d : R} {n : Note R} (h : ofValue v (some d) = .ok n) :
    ∃ fields, v = .object fields ∧ placed v = .ok fields ∧ n.id = Value.field fields "id" ∧
      (Value.field fields "keyIndex").toInteger = .ok n.key ∧
      (Value.field fields "time").toScalar = .ok n.time ∧
      ((Value.field fields "duration").orElse (.num d)).toScalar = .ok n.duration := by
  obtain ⟨fields, hplaced, -⟩ := Except.bind_eq_ok.mp h
  rw [ofValue_of_placed hplaced] at h
  simp only [Except.bind_eq_ok] at h
  obtain ⟨key, hkey, time, htime, duration, hduration, m, hmake, hm⟩ := h
  cases hm
  unfold make at hmake
  split at hmake
  · cases hmake
  · split at hmake
    · cases hmake
    · cases hmake
      exact ⟨fields, eq_object_of_placed hplaced, hplaced, rfl, hkey, htime, hduration⟩

/-- Data with a defect is not read as a note that has an id by which it can be told apart. -/
theorem not_identifying_of_defect {d : R} {n : Note R} (hdefect : Defect v)
    (h : ofValue v (some d) = .ok n) : Song.isIdentifying n.id = false := by
  obtain ⟨fields, rfl, hplaced, hid, hkey, htime, hduration⟩ := of_ofValue h
  cases hdefect with
  | nameless hnames => cases hnames
  | noObject _ _ hobject => exact absurd rfl (hobject fields)
  | key _ hinteger => exact absurd hkey (hinteger.toInteger_ne _)
  | time _ hscalar => exact absurd htime (hscalar.toScalar_ne _)
  | duration _ hgiven hscalar =>
    rw [Value.orElse, hgiven] at hduration
    exact absurd hduration (hscalar.toScalar_ne _)
  | id _ hidentifying => rw [hid, hidentifying]

end Note

namespace Song

open Work

/-! ## §3 Songs -/

/-- Fields that hold all that a song needs. -/
def Complete (fields : List (Text × Value R)) : Prop :=
  ∀ name ∈ ["id", "title", "bpm", "notes"], isGiven (Value.field fields name) = true

/-- The id in a note's data. -/
def idOf : Value R → Value R
  | .object fields => Value.field fields "id"
  | _ => .null

/-- The ids in the data of a song's notes. -/
def idsOf : Value R → List (Value R)
  | .object fields =>
    match Value.field fields "notes" with
    | .list entries => entries.map idOf
    | _ => []
  | _ => []

/-- The defects of a song's data that are not looked for, where all that is needed is given. -/
inductive Defect : Value R → Prop where
  | tempo {fields : List (Text × Value R)} (hcomplete : Complete fields)
    (h : (Value.field fields "bpm").NoScalar) : Defect (.object fields)
  | note {fields : List (Text × Value R)} {entries : List (Value R)} {entry : Value R}
    (hcomplete : Complete fields) (hentries : Value.field fields "notes" = .list entries)
    (hentry : entry ∈ entries) (h : Note.Defect entry) : Defect (.object fields)
  | level {fields : List (Text × Value R)} {x : R} {negative : Bool} (hcomplete : Complete fields)
    (hlevel : Value.field fields "difficulty" = .num x)
    (h : Scalar.reading x = .infinite negative) : Defect (.object fields)
  | ids {fields : List (Text × Value R)} (hcomplete : Complete fields)
    (h : Clash (idsOf (.object fields))) : Defect (.object fields)

variable {v : Value R} {fields : List (Text × Value R)} {fault : Fault} {d : Draft R}

/-- What is needed is asked for first. -/
theorem draftOfValue_of_incomplete (h : ¬ Complete fields) :
    ∃ name, draftOfValue (.object fields) = .error (.fieldMissing name) := by
  unfold draftOfValue
  dsimp only
  cases hid : isGiven (Value.field fields "id") with
  | false => exact ⟨"id", by simp [hid]; rfl⟩
  | true =>
    cases htitle : isGiven (Value.field fields "title") with
    | false => exact ⟨"title", by simp [hid, htitle]; rfl⟩
    | true =>
      cases htempo : isGiven (Value.field fields "bpm") with
      | false => exact ⟨"bpm", by simp [hid, htitle, htempo]; rfl⟩
      | true =>
        cases hnotes : isGiven (Value.field fields "notes") with
        | false => exact ⟨"notes", by simp [hid, htitle, htempo, hnotes]; rfl⟩
        | true => exact absurd (by simp [Complete, hid, htitle, htempo, hnotes]) h

/-- Notes that are given as anything but a list are refused. -/
theorem draftOfValue_of_no_list (h : Complete fields)
    (hlist : ∀ entries, Value.field fields "notes" ≠ .list entries) :
    draftOfValue (.object fields) = .error .notesNoList := by
  have hgiven : ∀ name ∈ ["id", "title", "bpm", "notes"],
      isGiven (Value.field fields (Text.ofString name)) = true := h
  simp only [List.forall_mem_cons] at hgiven
  obtain ⟨hid, htitle, htempo, hnotes, -⟩ := hgiven
  unfold draftOfValue
  simp only [List.forIn_cons, List.forIn_nil, hid, htitle, htempo, hnotes]
  cases hfield : Value.field fields (Text.ofString "notes") with
  | list entries => exact absurd hfield (hlist entries)
  | _ => rfl

/-- Where all that is needed is given, the tempo, the metre, the notes and the level are read in
this order, and a draft is built of them. -/
theorem draftOfValue_of_complete (h : Complete fields) {entries : List (Value R)}
    (hentries : Value.field fields "notes" = .list entries) :
    ∃ build : R → Grid R → List (Note R) → Difficulty → Draft R,
      (∀ tempo grid notes level, (build tempo grid notes level).notes = notes ∧
        (build tempo grid notes level).difficulty = .str level.text ∧
        (build tempo grid notes level).metre = .metre grid.metre ∧
        (build tempo grid notes level).id.isSome ∧
        (build tempo grid notes level).duration = Value.field fields "duration") ∧
      draftOfValue (.object fields) = (do
        let tempo ← (Value.field fields "bpm").toScalar
        let grid ← Grid.make tempo (.value (Value.field fields "timeSignature"))
        let notes ← entries.mapM fun entry => Note.ofValue entry (some grid.step)
        let level ← Difficulty.ofValue (Value.field fields "difficulty")
        return build tempo grid notes level) := by
  have hgiven : ∀ name ∈ ["id", "title", "bpm", "notes"],
      isGiven (Value.field fields (Text.ofString name)) = true := h
  simp only [List.forall_mem_cons] at hgiven
  obtain ⟨hid, htitle, htempo, hnotes, -⟩ := hgiven
  refine ⟨fun tempo grid notes level => {
    id := some (Value.field fields "id").text
    title := (Value.field fields "title").text
    artist := (Value.field fields "artist").orElse (.str "Unknown")
    tempo := .measured tempo
    metre := .metre grid.metre
    difficulty := .str level.text
    duration := Value.field fields "duration"
    notes
    tab := Value.field fields "notation"
    tuning := Value.field fields "authorTuning"
    tines := Value.field fields "authorTineCount"
    created := Value.field fields "createdAt" },
    fun tempo grid notes level => ⟨rfl, rfl, rfl, rfl, rfl⟩, ?_⟩
  unfold draftOfValue
  simp only [List.forIn_cons, List.forIn_nil, hid, htitle, htempo, hnotes]
  rw [hentries]
  rfl

/-- A step of reading a draft fails by itself only if the data has a defect. -/
theorem fault_of_draftOfValue (h : draftOfValue v = .error fault) :
    fault.IsOfData ∨ fault.IsOfReading ∧ Defect v := by
  cases v with
  | object fields =>
    by_cases hcomplete : Complete fields
    · by_cases hlist : ∃ entries, Value.field fields "notes" = .list entries
      · obtain ⟨entries, hentries⟩ := hlist
        obtain ⟨build, -, hdraft⟩ := draftOfValue_of_complete hcomplete hentries
        rw [hdraft] at h
        simp only [Except.bind_eq_error] at h
        rcases h with htempo | ⟨tempo, -, hgrid | ⟨grid, -, hnotes | ⟨notes, -, hlevel |
          ⟨level, -, hbuild⟩⟩⟩⟩
        · exact (Value.fault_of_toScalar htempo).imp_right fun h => ⟨h.1, .tempo hcomplete h.2⟩
        · exact .inl (Grid.fault_of_make hgrid)
        · obtain ⟨entry, hentry, hnote⟩ := Except.mapM_eq_error hnotes
          exact (Note.fault_of_ofValue hnote).imp_right fun h =>
            ⟨h.1, .note hcomplete hentries hentry h.2⟩
        · rcases Difficulty.fault_of_ofValue hlevel with hdata | ⟨hreading, x, negative, hx, hinf⟩
          · exact .inl hdata
          · exact .inr ⟨hreading, .level hcomplete hx hinf⟩
        · cases hbuild
      · cases (draftOfValue_of_no_list hcomplete (not_exists.mp hlist)).symm.trans h
        exact .inl (.inl rfl)
    · obtain ⟨name, hmissing⟩ := draftOfValue_of_incomplete hcomplete
      cases hmissing.symm.trans h
      exact .inl (.inl rfl)
  | _ =>
    cases h
    exact .inl (.inl rfl)

/-- What a draft has of its data. -/
theorem of_draftOfValue (h : draftOfValue v = .ok d) :
    ∃ fields entries, v = .object fields ∧ Complete fields ∧
      Value.field fields "notes" = .list entries ∧
      (∃ tempo, (Value.field fields "bpm").toScalar = .ok tempo) ∧
      (∃ level, Difficulty.ofValue (Value.field fields "difficulty") = .ok level ∧
        d.difficulty = .str level.text) ∧
      (∃ metre, d.metre = .metre metre) ∧ d.id.isSome ∧
      d.duration = Value.field fields "duration" ∧
      ∃ step : R, List.Forall₂ (fun entry n => Note.ofValue entry (some step) = .ok n) entries
        d.notes := by
  cases v with
  | object fields =>
    by_cases hcomplete : Complete fields
    · by_cases hlist : ∃ entries, Value.field fields "notes" = .list entries
      · obtain ⟨entries, hentries⟩ := hlist
        obtain ⟨build, hbuild, hdraft⟩ := draftOfValue_of_complete hcomplete hentries
        rw [hdraft] at h
        simp only [Except.bind_eq_ok] at h
        obtain ⟨tempo, htempo, grid, -, notes, hnotes, level, hlevel, hd⟩ := h
        cases hd
        obtain ⟨hbnotes, hblevel, hbmetre, hbid, hbduration⟩ := hbuild tempo grid notes level
        refine ⟨fields, entries, rfl, hcomplete, hentries, ⟨tempo, htempo⟩,
          ⟨level, hlevel, hblevel⟩, ⟨grid.metre, hbmetre⟩, hbid, hbduration, grid.step, ?_⟩
        rw [hbnotes]
        exact Except.mapM_eq_ok.mp hnotes
      · cases (draftOfValue_of_no_list hcomplete (not_exists.mp hlist)).symm.trans h
    · obtain ⟨name, hmissing⟩ := draftOfValue_of_incomplete hcomplete
      cases hmissing.symm.trans h
  | _ => cases h

/-- Notes keep the ids of their data. -/
theorem ids_of_entries {entries : List (Value R)} {notes : List (Note R)} {step : R}
    (h : List.Forall₂ (fun entry n => Note.ofValue entry (some step) = .ok n) entries notes) :
    notes.map Note.id = entries.map idOf := by
  induction h with
  | nil => rfl
  | cons hentry _ ih =>
    obtain ⟨fields, rfl, -, hid, -⟩ := Note.of_ofValue hentry
    rw [List.map_cons, List.map_cons, ih, hid]
    rfl

/-- Making a song of a draft fails by itself only where its notes are made the song's own. -/
theorem fault_of_make {j j' : Journal} {metre : Metre} {level : Text}
    (h : (make d).Fails j fault j') (hid : d.id.isSome) (hmetre : d.metre = .metre metre)
    (hlevel : d.difficulty = .str level) :
    fault.IsOfData ∨ (own d.notes).Fails j fault j' := by
  obtain ⟨id, hid⟩ := Option.isSome_iff_exists.mp hid
  unfold make at h
  rw [hid] at h
  rcases fails_bind.mp h with hpure | ⟨id', k, hgives, h⟩
  · exact absurd hpure not_fails_pure
  · obtain ⟨-, rfl⟩ := gives_pure.mp hgives
    split at h
    · obtain ⟨rfl, -⟩ := fails_throw.mp h
      exact .inl (.inl rfl)
    · rcases fails_bind.mp h with hfault | ⟨m, k, hgives, h⟩
      · rw [hmetre] at hfault
        cases (fails_of.mp hfault).1
      · obtain ⟨-, rfl⟩ := gives_of.mp hgives
        rcases fails_bind.mp h with hfault | ⟨l, k, hgives, h⟩
        · rw [hlevel] at hfault
          rcases Difficulty.fault_of_ofValue (fails_of.mp hfault).1 with hdata | ⟨-, x, _, hx, -⟩
          · exact .inl hdata
          · cases hx
        · obtain ⟨-, rfl⟩ := gives_of.mp hgives
          simp only [fails_bind, not_fails_now, not_fails_pure, and_false, exists_false,
            or_false] at h
          exact .inr h

/-- **What goes wrong in reading a song.** From any journal, a fault of reading a value is one of
the data, or else a step fails by itself, which happens only if the data has a defect or one of its
notes has an id that is about to be drawn. -/
theorem fault_of_ofValue {j j' : Journal} (h : (ofValue v).Fails j fault j') :
    fault.IsOfData ∨ fault.IsOfReading ∧ (Defect v ∨ ∃ id ∈ idsOf v, IsDrawn j id) := by
  rcases fails_bind.mp h with hdraft | ⟨d, k, hdraft, hmake⟩
  · exact (fault_of_draftOfValue (fails_of.mp hdraft).1).imp_right fun h => ⟨h.1, .inl h.2⟩
  · obtain ⟨hread, rfl⟩ := gives_of.mp hdraft
    obtain ⟨fields, entries, rfl, hcomplete, hentries, -, ⟨level, -, hlevel⟩, ⟨metre, hmetre⟩, hid,
      -, step, hnotes⟩ := of_draftOfValue hread
    have hids : idsOf (.object fields) = d.notes.map Note.id := by
      rw [ids_of_entries hnotes]
      simp only [idsOf, hentries]
    rcases fault_of_make hmake hid hmetre hlevel with hdata | hown
    · exact .inl hdata
    · obtain ⟨rfl, hcause⟩ := fault_of_own hown
      refine .inr ⟨.inl rfl, ?_⟩
      rcases hcause with ⟨n, hn, hidentifying⟩ | hclash | ⟨n, hn, hdrawn⟩
      · -- The id of a note cannot be looked up, which is a defect of its data
        obtain ⟨entry, hentry, hnote⟩ := hnotes.exists_left hn
        obtain ⟨noteFields, rfl, hplaced, hnid, -⟩ := Note.of_ofValue hnote
        exact .inl (.note hcomplete hentries hentry (.id hplaced (hnid ▸ hidentifying)))
      · exact .inl (.ids hcomplete (hids ▸ hclash))
      · exact .inr ⟨n.id, hids ▸ List.mem_map_of_mem hn, hdrawn⟩

/-- Data with a defect never becomes a song. -/
theorem not_gives_of_defect (hdefect : Defect v) (j : Journal) (song : Song R) (j' : Journal) :
    ¬ (ofValue v).Gives j song j' := by
  intro h
  obtain ⟨d, k, hdraft, hmake⟩ := gives_bind.mp h
  obtain ⟨hread, -⟩ := gives_of.mp hdraft
  obtain ⟨fields, entries, rfl, -, hentries, ⟨tempo, htempo⟩, ⟨level, hlevel, -⟩, -, -, -, step,
    hnotes⟩ := of_draftOfValue hread
  obtain ⟨-, -, -, -, -, k₁, k₂, -, -, hown⟩ := made_of_draft hmake
  cases hdefect with
  | tempo _ hscalar => exact hscalar.toScalar_ne _ htempo
  | note _ hentries' hentry hnote =>
    cases hentries.symm.trans hentries'
    obtain ⟨n, hn, hread⟩ := hnotes.exists_right hentry
    exact not_gives_own (.inl ⟨n, hn, Note.not_identifying_of_defect hnote hread⟩) hown
  | level _ hnum hinfinite =>
    rw [hnum] at hlevel
    exact Difficulty.ofValue_ne_of_infinite hinfinite level hlevel
  | ids _ hclash =>
    have hids : idsOf (.object fields) = d.notes.map Note.id := by
      rw [ids_of_entries hnotes]
      simp only [idsOf, hentries]
    exact not_gives_own (.inr (hids ▸ hclash)) hown

/-- **Only the defects let a step of reading fail by itself.** Whatever value is read and from
whatever journal, a fault is one of the data unless the data has a defect, or a note has an id that
is about to be drawn; and data with a defect never becomes a song. -/
theorem faults_of_reading_from_defects (v : Value R) :
    (∀ j fault j', (ofValue v).Fails j fault j' →
      fault.IsOfData ∨ fault.IsOfReading ∧ (Defect v ∨ ∃ id ∈ idsOf v, IsDrawn j id)) ∧
    (Defect v → ∀ j song j', ¬ (ofValue v).Gives j song j') :=
  ⟨fun _ _ _ h => fault_of_ofValue h, not_gives_of_defect⟩

/-- Four defects, and the faults of steps that fail by themselves at them: a note that is a number,
a text that is asked for its fields, an infinite key, and a tempo beyond the machine numbers. -/
theorem defects_fail_by_themselves :
    let data (tempo entry : Value Float) : Value Float := .record
      [("id", .str "a"), ("title", .str "t"), ("bpm", tempo), ("notes", .list [entry])]
    let outcome (v : Value Float) := ((ofValue v).run.run {}).1.map Song.title
    (outcome (data (.int 120) (.int 5)) = .error .wrongShape ∧
      ¬ Fault.wrongShape.IsOfData) ∧
    (outcome (data (.int 120) (.str "keyIndex time")) = .error .noMember ∧
      ¬ Fault.noMember.IsOfData) ∧
    (outcome (data (.int 120) (.record [("keyIndex", .num (1.0 / 0.0)), ("time", .int 0)])) =
        .error .infiniteInteger ∧ ¬ Fault.infiniteInteger.IsOfData) ∧
    (outcome (data (.int (10 ^ 400)) (.int 5)) = .error .tooLarge ∧ ¬ Fault.tooLarge.IsOfData) := by
  decide +kernel

end Song

end Lamella
