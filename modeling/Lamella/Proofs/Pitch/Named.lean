import Lamella.Layout.Generate
import Lamella.Proofs.Scalar.Readings
import Lamella.Proofs.Value.Digits

/-!
# Named pitches

A note name is a letter, at most one accidental, and an octave or none. It is read as the number of
its letter in its octave, moved by its accidental, which may lead across the end of the octave: so
two names are the same pitch just if they come to the same number. An octave in the name goes before
the one that is given. The name of a number is read as its pitch class and octave, whose number it
is; but a number has no name whose octave has more digits than are written. No key of an instrument
is tuned to such a number.

## Main definitions

- `Pitch.Accidental`, `Pitch.WritesOctave`, `Pitch.Spelling`: how a note name is written.
- `Pitch.Spelling.Names`: the pitch class and the octave that a name stands for.

## Main statements

- `Pitch.ofName?_eq_some_iff`, `Pitch.ofName_eq_ok_iff`: what is read as a note name.
- `Pitch.Spelling.Names.eq_iff`: when two names are one pitch.
- `Pitch.exists_spelling_name`: how the name of a number is written.
- `Pitch.names_and_numbers`: names and numbers lead to each other.
- `Tuning.exists_nameOf_key`: the keys of an instrument can be named.
-/

namespace Lamella

namespace Pitch

/-! ## §1 How note names are written -/

/-- What may stand after the letter of a note name. -/
inductive Accidental where
  | natural
  | sharp
  | flat

/-- The written form of an accidental. -/
def Accidental.signs : Accidental → List Char
  | natural => []
  | sharp => ['#']
  | flat => ['b']

/-- The semitones that an accidental adds. -/
def Accidental.shift : Accidental → Int
  | natural => 0
  | sharp => 1
  | flat => -1

/-- A row of decimal digits of any script, at least one. -/
def IsDecimal (ds : List Char) : Prop := ds ≠ [] ∧ ∀ c ∈ ds, (Text.digitValue? c).isSome = true

/-- The written forms of an octave: none, or decimal digits with at most a minus sign. -/
inductive WritesOctave : List Char → Option Int → Prop
  | open_ : WritesOctave [] none
  | plain {ds : List Char} (hds : IsDecimal ds) :
      WritesOctave ds (some (Decimal.value (Decimal.plainDigits ds)))
  | below {ds : List Char} (hds : IsDecimal ds) :
      WritesOctave ('-' :: ds) (some (-(Decimal.value (Decimal.plainDigits ds) : Int)))

/-- A note name, taken apart. -/
structure Spelling where
  letter : Char
  base : Int
  accidental : Accidental
  octaveChars : List Char
  own : Option Int
  letter_eq : letter? letter = some base
  writes : WritesOctave octaveChars own

namespace Spelling

/-- The written form of a note name. -/
def chars (n : Spelling) : List Char := n.letter :: (n.accidental.signs ++ n.octaveChars)

/-- The semitones of the letter and the accidental. -/
def semitone (n : Spelling) : Int := n.base + n.accidental.shift

/-- What a name stands for, if an octave is given or not: its pitch class, and the octave that this
class lies in. -/
structure Names (n : Spelling) (given : Option Int) (found : Int × Option Int) : Prop where
  nonneg : 0 ≤ found.1
  lt_twelve : found.1 < 12
  number_eq : ∀ o, n.own.or given = some o →
    ∃ octave, found.2 = some octave ∧ number found.1 octave = 12 * (o + 1) + n.semitone
  class_eq : n.own.or given = none → found = (n.semitone % 12, none)

end Spelling

theorem octaveOf?_digits {ds : List Char} (hds : IsDecimal ds) (negative : Bool) :
    octaveOf?.digits? negative ds = some (some (if negative then
      -(Decimal.value (Decimal.plainDigits ds) : Int)
      else Decimal.value (Decimal.plainDigits ds))) := by
  have hall : ds ≠ [] ∧ (ds.all fun c => (Text.digitValue? c).isSome) = true :=
    ⟨hds.1, List.all_eq_true.mpr hds.2⟩
  rw [octaveOf?.digits?, if_pos hall]

theorem isDecimal_of_digits? {ds : List Char} {negative : Bool} {o : Option Int}
    (h : octaveOf?.digits? negative ds = some o) : IsDecimal ds := by
  unfold octaveOf?.digits? at h
  split at h
  · rename_i hds
    exact ⟨hds.1, List.all_eq_true.mp hds.2⟩
  · cases h

/-- What is read as an octave is one of its written forms. -/
theorem octaveOf?_eq_some_iff {s : List Char} {o : Option Int} :
    octaveOf? s = some o ↔ WritesOctave s o := by
  constructor
  · intro h
    unfold octaveOf? at h
    split at h
    · cases h
      exact .open_
    · have hds := isDecimal_of_digits? h
      rw [octaveOf?_digits hds] at h
      cases h
      exact .below hds
    · have hds := isDecimal_of_digits? h
      rw [octaveOf?_digits hds] at h
      cases h
      exact .plain hds
  · intro h
    cases h with
    | open_ => rfl
    | below hds => exact octaveOf?_digits hds true
    | plain hds =>
      obtain ⟨c, ds, rfl⟩ := List.exists_cons_of_ne_nil hds.1
      -- A minus sign is no digit
      have hminus : c ≠ '-' := by
        rintro rfl
        exact absurd (hds.2 '-' List.mem_cons_self) (by decide +kernel)
      rw [octaveOf?, octaveOf?_digits hds]
      · rfl
      · simp
      · simpa using hminus

/-- An octave begins with no accidental. -/
theorem accidental_of_writesOctave {s : List Char} {o : Option Int} (h : WritesOctave s o) :
    Pitch.accidental s = (0, s) := by
  have hdigit {c : Char} {ds : List Char} (hds : IsDecimal (c :: ds)) : c ≠ '#' ∧ c ≠ 'b' := by
    have hc := hds.2 c List.mem_cons_self
    constructor <;> rintro rfl <;> exact absurd hc (by decide +kernel)
  unfold Pitch.accidental
  split
  · cases h with
    | plain hds => exact absurd rfl (hdigit hds).1
  · cases h with
    | plain hds => exact absurd rfl (hdigit hds).2
  · rfl

/-- **What is taken apart as a note name** is a letter, at most one accidental, and an octave. -/
theorem parts?_eq_some_iff {s : List Char} {semitone : Int} {own : Option Int} :
    parts? s = some (semitone, own) ↔
      ∃ n : Spelling, n.chars = s ∧ n.semitone = semitone ∧ n.own = own := by
  constructor
  · intro h
    unfold parts? at h
    split at h
    · cases h
    · rename_i c rest
      simp only [Option.bind_eq_bind, Option.bind_eq_some_iff, Option.pure_def, Option.some.injEq,
        Prod.mk.injEq] at h
      obtain ⟨base, hletter, o, hoctave, hsemitone, rfl⟩ := h
      obtain ⟨accidental, hshift, hrest⟩ : ∃ a : Accidental,
          (Pitch.accidental rest).1 = a.shift ∧ rest = a.signs ++ (Pitch.accidental rest).2 := by
        unfold Pitch.accidental
        split
        · exact ⟨.sharp, rfl, rfl⟩
        · exact ⟨.flat, rfl, rfl⟩
        · exact ⟨.natural, rfl, rfl⟩
      refine ⟨⟨c, base, accidental, _, o, hletter, octaveOf?_eq_some_iff.mp hoctave⟩, ?_, ?_, rfl⟩
      · rw [Spelling.chars, ← hrest]
      · rw [← hsemitone, hshift]
        rfl
  · rintro ⟨n, rfl, rfl, rfl⟩
    have haccidental : Pitch.accidental (n.accidental.signs ++ n.octaveChars) =
        (n.accidental.shift, n.octaveChars) := by
      cases n.accidental with
      | natural => exact accidental_of_writesOctave n.writes
      | sharp => rfl
      | flat => rfl
    simp only [Spelling.chars, parts?, n.letter_eq, haccidental,
      octaveOf?_eq_some_iff.mpr n.writes, Option.bind_eq_bind, Option.bind_some]
    rfl

/-! ## §2 What a name stands for -/

/-- A number is that of its class in its octave, and of no other class or octave. -/
theorem number_eq_iff {pitchClass o k : Int} (hnonneg : 0 ≤ pitchClass) (hlt : pitchClass < 12) :
    number pitchClass o = k ↔ pitchClass = k % 12 ∧ o = octave k := by
  unfold number octave
  omega

/-- A number is made again of its class and its octave. -/
theorem number_octave (k : Int) : number (k % 12) (octave k) = k := by
  unfold number octave
  omega

namespace Spelling

variable {n n' : Spelling} {given given' : Option Int} {found found' : Int × Option Int}

/-- A name in an octave stands for the class and the octave of its number. -/
theorem names_iff {o : Int} (ho : n.own.or given = some o) :
    n.Names given found ↔
      found = (number n.semitone o % 12, some (octave (number n.semitone o))) := by
  have hnumber : number n.semitone o = 12 * (o + 1) + n.semitone := by
    unfold number
    omega
  constructor
  · intro h
    obtain ⟨reached, hreached, heq⟩ := h.number_eq o ho
    obtain ⟨hclass, hoctave⟩ := (number_eq_iff h.nonneg h.lt_twelve).mp heq
    rw [hnumber, ← hclass, ← hoctave, ← hreached]
  · rintro rfl
    refine ⟨Int.emod_nonneg _ (by decide), Int.emod_lt_of_pos _ (by decide), ?_, ?_⟩
    · intro o' ho'
      obtain rfl : o = o' := Option.some.inj (ho.symm.trans ho')
      exact ⟨_, rfl, (number_octave _).trans hnumber⟩
    · intro hnone
      cases ho.symm.trans hnone

/-- A name without any octave stands for its class. -/
theorem names_iff_of_none (hnone : n.own.or given = none) :
    n.Names given found ↔ found = (n.semitone % 12, none) := by
  constructor
  · intro h
    exact h.class_eq hnone
  · rintro rfl
    refine ⟨Int.emod_nonneg _ (by decide), Int.emod_lt_of_pos _ (by decide), ?_, fun _ => rfl⟩
    intro o ho
    cases hnone.symm.trans ho

/-- **Two names are one pitch** just if their numbers are equal. -/
theorem Names.eq_iff {o o' : Int} (h : n.Names given found) (h' : n'.Names given' found')
    (ho : n.own.or given = some o) (ho' : n'.own.or given' = some o') :
    found = found' ↔ 12 * (o + 1) + n.semitone = 12 * (o' + 1) + n'.semitone := by
  rw [(names_iff ho).mp h, (names_iff ho').mp h', Prod.mk.injEq, Option.some.injEq]
  unfold number octave
  omega

end Spelling

/-- A text is taken apart as a note name, without the blanks around it. -/
theorem strip_parts?_eq_some_iff {text : Text} {semitone : Int} {own : Option Int} :
    (Text.strip text).chars?.bind parts? = some (semitone, own) ↔
      ∃ n : Spelling, Text.strip text = Text.ofChars n.chars ∧ n.semitone = semitone ∧
        n.own = own := by
  rw [Option.bind_eq_some_iff]
  constructor
  · rintro ⟨cs, hcs, hparts⟩
    obtain ⟨n, rfl, hn⟩ := parts?_eq_some_iff.mp hparts
    exact ⟨n, Text.eq_ofChars hcs, hn⟩
  · rintro ⟨n, htext, hn⟩
    refine ⟨n.chars, ?_, parts?_eq_some_iff.mpr ⟨n, rfl, hn⟩⟩
    rw [htext, Text.chars?_ofChars]

/-- **What is read as a note name**, whatever its digits, is spelled as one between blanks. -/
theorem ofName?_eq_some_iff {text : Text} {given : Option Int} {found : Int × Option Int} :
    ofName? text given = some found ↔
      ∃ n : Spelling, Text.strip text = Text.ofChars n.chars ∧ n.Names given found := by
  unfold ofName?
  rw [Option.bind_eq_bind, Option.bind_eq_some_iff]
  constructor
  · rintro ⟨⟨semitone, own⟩, hread, hfound⟩
    obtain ⟨n, htext, rfl, rfl⟩ := strip_parts?_eq_some_iff.mp hread
    refine ⟨n, htext, ?_⟩
    cases ho : n.own.or given with
    | none =>
      simp only [ho, Option.pure_def, Option.some.injEq] at hfound
      exact (Spelling.names_iff_of_none ho).mpr hfound.symm
    | some o =>
      simp only [ho, Option.pure_def, Option.some.injEq] at hfound
      exact (Spelling.names_iff ho).mpr hfound.symm
  · rintro ⟨n, htext, hnames⟩
    refine ⟨(n.semitone, n.own), strip_parts?_eq_some_iff.mpr ⟨n, htext, rfl, rfl⟩, ?_⟩
    cases ho : n.own.or given with
    | none => simp [ho, (Spelling.names_iff_of_none ho).mp hnames]
    | some o => simp [ho, (Spelling.names_iff ho).mp hnames]

/-- A text that is spelled as a note name, of not more digits than are read. -/
structure Spells (text : Text) (n : Spelling) : Prop where
  strip_eq : Text.strip text = Text.ofChars n.chars
  digitCount_le : Text.digitCount text ≤ Decimal.digitLimit

/-- **What is read as a note name** is spelled as one. -/
theorem ofName_eq_ok_iff {text : Text} {given : Option Int} {found : Int × Option Int} :
    ofName text given = .ok found ↔ ∃ n : Spelling, Spells text n ∧ n.Names given found := by
  constructor
  · intro h
    unfold ofName at h
    split at h
    · rename_i hread
      split at h
      · cases h
      · rename_i hcount
        cases h
        obtain ⟨n, htext, hnames⟩ := ofName?_eq_some_iff.mp hread
        exact ⟨n, ⟨htext, Nat.not_lt.mp hcount⟩, hnames⟩
    · cases h
  · rintro ⟨n, hn, hnames⟩
    simp only [ofName, ofName?_eq_some_iff.mpr ⟨n, hn.strip_eq, hnames⟩,
      if_neg (Nat.not_lt.mpr hn.digitCount_le)]

/-! ## §3 Names of numbers -/

/-- The name of a class is a letter and an accidental, in which there is no blank and no digit. -/
theorem className_spelled (k : Int) : parts? (className k).toList = some (k % 12, none) ∧
    (∀ p ∈ Text.ofString (className k), Text.isBlank p = false) ∧
      Text.digitCount (Text.ofString (className k)) = 0 := by
  have hall : ∀ j : Fin 12, parts? (classNames.getD j "").toList = some ((j : Int), none) ∧
      (∀ p ∈ Text.ofString (classNames.getD j ""), Text.isBlank p = false) ∧
        Text.digitCount (Text.ofString (classNames.getD j "")) = 0 := by
    decide +kernel
  have hlt : (k % 12).toNat < 12 := by omega
  have hcast : (((k % 12).toNat : Nat) : Int) = k % 12 := by omega
  have hclass := hall ⟨(k % 12).toNat, hlt⟩
  rwa [Fin.val_mk, hcast] at hclass

/-- The written form of an integer is that of an octave. -/
theorem writesOctave_signed (o : Int) :
    WritesOctave (Decimal.signed (decide (o < 0)) (Nat.toDigits 10 o.natAbs)) (some o) := by
  have hdigits := isDigits_toDigits o.natAbs
  have hdecimal : IsDecimal (Nat.toDigits 10 o.natAbs) := by
    refine ⟨Nat.toDigits_ne_nil, fun c hc => ?_⟩
    obtain ⟨d, hd, rfl⟩ := exists_digitChar (hdigits c hc)
    rw [digitValue?_digitChar hd]
    rfl
  have hvalue : Decimal.value (Decimal.plainDigits (Nat.toDigits 10 o.natAbs)) = o.natAbs := by
    rw [Decimal.plainDigits_of_digits hdigits, Decimal.value_toDigits]
  by_cases ho : o < 0
  · have hbelow := WritesOctave.below hdecimal
    have heq : -((o.natAbs : Nat) : Int) = o := by omega
    rw [hvalue, heq] at hbelow
    simpa [Decimal.signed, ho] using hbelow
  · have hplain := WritesOctave.plain hdecimal
    have heq : ((o.natAbs : Nat) : Int) = o := by omega
    rw [hvalue, heq] at hplain
    simpa [Decimal.signed, ho] using hplain

/-- The name of a number is spelled with the class and the octave of the number. -/
theorem exists_spelling_name (m : Int) : ∃ n : Spelling,
    Text.ofString (name m) = Text.ofChars n.chars ∧ n.semitone = m % 12 ∧
      n.own = some (octave m) := by
  obtain ⟨n, hchars, hsemitone, hown⟩ := parts?_eq_some_iff.mp (className_spelled m).1
  -- The name of a class alone ends after its accidental, so an octave can be put there
  have hempty : n.octaveChars = [] := by
    have hwrites := n.writes
    rw [hown] at hwrites
    generalize n.octaveChars = s at hwrites
    cases hwrites
    rfl
  refine ⟨{ n with octaveChars := _, own := _, writes := writesOctave_signed (octave m) }, ?_,
    hsemitone, rfl⟩
  rw [name, Text.ofString_append, Value.ofString_toString_int, Text.ofString, ← hchars,
    Spelling.chars, hempty]
  simp [Text.ofChars, Spelling.chars]

/-- There is no blank in a written integer, and all of it but the sign is digits. -/
theorem toString_plain (o : Int) :
    (∀ p ∈ Text.ofString (toString o), Text.isBlank p = false) ∧
      Text.digitCount (Text.ofString (toString o)) = (Nat.toDigits 10 o.natAbs).length := by
  have hdigits := isDigits_toDigits o.natAbs
  have hplain : ∀ p ∈ Text.ofChars (Nat.toDigits 10 o.natAbs), Text.isBlank p = false := by
    intro p hp
    exact (Text.not_blank_of_digits hdigits hp).1
  rw [Value.ofString_toString_int]
  by_cases ho : o < 0
  · have hsign : Text.ofChars (Decimal.signed (decide (o < 0)) (Nat.toDigits 10 o.natAbs)) =
        .char '-' :: Text.ofChars (Nat.toDigits 10 o.natAbs) := by
      simp [Decimal.signed, ho, Text.ofChars]
    rw [hsign, ← Text.digitCount_of_digits hdigits]
    exact ⟨List.forall_mem_cons.mpr ⟨by decide, hplain⟩,
      List.countP_cons_of_neg (by decide +kernel)⟩
  · have hsign : Decimal.signed (decide (o < 0)) (Nat.toDigits 10 o.natAbs) =
        Nat.toDigits 10 o.natAbs := by
      simp [Decimal.signed, ho]
    rw [hsign]
    exact ⟨hplain, Text.digitCount_of_digits hdigits⟩

/-- There is no blank in the name of a number, and its digits are those of the octave. -/
theorem name_plain (m : Int) : Text.strip (name m) = Text.ofString (name m) ∧
    Text.digitCount (name m) = (Nat.toDigits 10 (octave m).natAbs).length := by
  obtain ⟨-, hclass, hnone⟩ := className_spelled m
  obtain ⟨hoctave, hcount⟩ := toString_plain (octave m)
  have hname : Text.ofString (name m) =
      Text.ofString (className m) ++ Text.ofString (toString (octave m)) :=
    Text.ofString_append _ _
  constructor
  · apply Text.strip_word
    intro p hp
    rw [hname] at hp
    rcases List.mem_append.mp hp with hp | hp
    · exact hclass p hp
    · exact hoctave p hp
  · calc Text.digitCount (Text.ofString (name m))
        = Text.digitCount (Text.ofString (className m)) +
            Text.digitCount (Text.ofString (toString (octave m))) := by
          rw [hname]
          exact List.countP_append
      _ = (Nat.toDigits 10 (octave m).natAbs).length := by rw [hnone, hcount, Nat.zero_add]

/-- The name of a number is read as the number, whatever its digits. -/
theorem ofName?_name (m : Int) (given : Option Int) :
    ofName? (name m) given = some (m % 12, some (octave m)) := by
  obtain ⟨n, htext, hsemitone, hown⟩ := exists_spelling_name m
  have ho : n.own.or given = some (octave m) := by rw [hown, Option.some_or]
  apply ofName?_eq_some_iff.mpr
  refine ⟨n, (name_plain m).1.trans htext, (Spelling.names_iff ho).mpr ?_⟩
  rw [hsemitone, number_octave]

/-! ## §4 Names and numbers -/

variable {text : Text} {n : Spelling} {given : Option Int}

/-- A text in an octave is read as the class and the octave of its number. -/
theorem Spells.ofName_eq (h : Spells text n) {o : Int} (ho : n.own.or given = some o) :
    ofName text given =
      .ok (number n.semitone o % 12, some (octave (number n.semitone o))) :=
  ofName_eq_ok_iff.mpr ⟨n, h, (Spelling.names_iff ho).mpr rfl⟩

/-- The name of a number is read as its class and its octave, unless they have too many digits. -/
theorem ofName_name (m : Int) (given : Option Int) : ofName (name m) given =
    if (octave m).natAbs < 10 ^ Decimal.digitLimit then .ok (m % 12, some (octave m))
    else .error (.tooManyDigits (Text.digitCount (name m))) := by
  have hcount : Decimal.digitLimit < Text.digitCount (name m) ↔
      ¬ (octave m).natAbs < 10 ^ Decimal.digitLimit := by
    rw [(name_plain m).2, ← Nat.not_le, Nat.length_toDigits_le_iff (by norm_num) (by decide)]
  simp only [ofName, ofName?_name, hcount, ite_not]

/-- A number has a name unless its octave has more digits than are written. -/
theorem nameOf_eq (m : Int) : nameOf m =
    if (octave m).natAbs < 10 ^ Decimal.digitLimit then .ok (name m) else .error .unwritable := by
  unfold nameOf
  rw [Nat.pow_eq]

/-- **Names and numbers lead to each other.** A number whose octave has more digits than are written
has no name. The name of any other number is read as its class and octave, whatever octave is given,
and they are those of the number alone. What is read otherwise is a letter, an accidental and an
octave or none, and stands for the number of the letter in the octave, moved by the accidental. Two
names of the same number are read as the same, and an octave in the name goes before any that is
given, also for the root of a tuning. -/
theorem names_and_numbers :
    (∀ m : Int, number (m % 12) (m / 12 - 1) = m ∧
      (10 ^ Decimal.digitLimit ≤ (m / 12 - 1).natAbs → nameOf m = .error .unwritable) ∧
      ((m / 12 - 1).natAbs < 10 ^ Decimal.digitLimit → ∃ text, nameOf m = .ok text ∧
        ∀ given, ofName text given = .ok (m % 12, some (m / 12 - 1)))) ∧
    (∀ (text : Text) (given : Option Int) (found : Int × Option Int),
      ofName text given = .ok found ↔ ∃ n : Spelling, Spells text n ∧ n.Names given found) ∧
    (∀ (text text' : Text) (n n' : Spelling) (given given' : Option Int) (o o' : Int),
      Spells text n → Spells text' n' → n.own.or given = some o → n'.own.or given' = some o' →
      (ofName text given = ofName text' given' ↔
        12 * (o + 1) + n.semitone = 12 * (o' + 1) + n'.semitone)) ∧
    (∀ (text : Text) (n : Spelling) (o : Int), Spells text n → n.own = some o →
      ∃ found, n.Names (some o) found ∧ ∀ given,
        ofName text given = .ok found ∧ Tuning.root text given = pure found) := by
  refine ⟨fun m => ⟨number_octave m, fun hlarge => ?_, fun hsmall => ?_⟩,
    fun text given found => ofName_eq_ok_iff, ?_, ?_⟩
  · exact (nameOf_eq m).trans (if_neg (Nat.not_lt.mpr hlarge))
  · exact ⟨name m, (nameOf_eq m).trans (if_pos hsmall), fun given => (ofName_name m given).trans (if_pos hsmall)⟩
  · intro text text' n n' given given' o o' h h' ho ho'
    have hnames := (Spelling.names_iff ho).mpr rfl
    have hnames' := (Spelling.names_iff ho').mpr rfl
    rw [h.ofName_eq ho, h'.ofName_eq ho', Except.ok.injEq]
    exact hnames.eq_iff hnames' ho ho'
  · intro text n o h hown
    have hgiven (given : Option Int) : n.own.or given = some o := by rw [hown, Option.some_or]
    refine ⟨_, (Spelling.names_iff (hgiven (some o))).mpr rfl, fun given => ?_⟩
    have hread := h.ofName_eq (hgiven given)
    refine ⟨hread, ?_⟩
    simp only [Tuning.root, hread]

example : ofName "Cb4" none = ofName "B3" (some 9) := by decide +kernel

/-- Not every number has a name that is read as it: the octave of this one has a digit more than are
written, and the text with all of them is not read either. -/
theorem huge_octave_unwritable : nameOf (12 * (10 ^ 4300 + 1)) = .error .unwritable ∧
    (∃ fault, ofName (name (12 * (10 ^ 4300 + 1))) none = .error fault) ∧
    ¬ ∀ m : Int, ∃ text, nameOf m = .ok text ∧
      ofName text none = .ok (m % 12, some (m / 12 - 1)) := by
  have hlarge : ¬ (octave (12 * (10 ^ 4300 + 1))).natAbs < 10 ^ Decimal.digitLimit := by
    decide +kernel
  have hnone : nameOf (12 * (10 ^ 4300 + 1)) = .error .unwritable :=
    (nameOf_eq _).trans (if_neg hlarge)
  refine ⟨hnone, ⟨_, (ofName_name _ none).trans (if_neg hlarge)⟩, fun h => ?_⟩
  obtain ⟨text, hname, -⟩ := h (12 * (10 ^ 4300 + 1))
  cases hnone.symm.trans hname

end Pitch

/-! ## §5 Names of keys -/

/-- A number that has a machine frequency has a name: it has less than 400 digits. -/
theorem Pitch.nameOf_of_frequency {m : Int} {f : Float} (h : frequencyOfNumber m = .ok f) :
    nameOf m = .ok (name m) := by
  obtain ⟨x, hx, -⟩ := Except.bind_eq_ok.mp h
  have hlimit : |m - 69| < 2 ^ 1024 := by
    have hpower (e : ℕ) : ((2 ^ e : ℤ) : ℚ) = 2 ^ (e : ℤ) := by
      rw [Int.cast_pow, Int.cast_two, zpow_natCast]
    have hreach := Machine.abs_lt_of_scalarOfInt hx
    rw [← Int.cast_abs] at hreach
    exact Int.cast_lt.mp (hreach.trans_eq (hpower 1024).symm)
  have hdigits : (2 : Int) ^ 1024 + 69 < ((10 ^ Decimal.digitLimit : Nat) : Int) := by decide +kernel
  obtain ⟨hlow, hhigh⟩ := abs_lt.mp hlimit
  refine (nameOf_eq m).trans (if_pos ?_)
  unfold octave
  generalize (2 : Int) ^ 1024 = reach at hdigits hlow hhigh
  generalize 10 ^ Decimal.digitLimit = most at hdigits ⊢
  omega

/-- **The keys of an instrument can be named.** -/
theorem Tuning.exists_nameOf_key {t : Tuning} {count step : Nat} {k : Key Float}
    (h : t.key count step = .ok k) : ∃ (m : Int) (written : String),
      Pitch.frequencyOfNumber m = .ok k.frequency ∧ Pitch.nameOf m = .ok written ∧
        k.noteName = written := by
  unfold key at h
  dsimp only at h
  obtain ⟨root, -, h⟩ := Except.bind_eq_ok.mp h
  obtain ⟨f, hf, h⟩ := Except.bind_eq_ok.mp h
  cases h
  exact ⟨_, _, hf, Pitch.nameOf_of_frequency hf, rfl⟩

end Lamella
