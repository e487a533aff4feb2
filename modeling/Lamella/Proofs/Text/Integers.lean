import Mathlib.Tactic.IntervalCases
import Lamella.Journal
import Lamella.Metre
import Lamella.Proofs.Text.Rows

/-!
# Written integers

An integer is written in ASCII digits, and a row of such digits is read as it stands: there is
nothing to strip off, no digit of another script to translate and no underscore to drop. So a
written integer is read back, unless it has more digits than are read at all.

## Main statements

- `Decimal.integer?_toDigits`: written naturals are read back.
- `Metre.ofValue_text`: so are written metres.
- `Journal.idText_injective`: no id is drawn twice.
-/

namespace Lamella

/-! ## §1 Rows of digits -/

/-- A row of ASCII digits. -/
def IsDigits (ds : List Char) : Prop := ∀ c ∈ ds, c.isDigit = true

theorem isDigits_toDigits (n : Nat) : IsDigits (Nat.toDigits 10 n) := by
  intro c hc
  exact Nat.isDigit_of_mem_toDigits (by omega) (by omega) hc

theorem exists_digitChar {c : Char} (hc : c.isDigit = true) : ∃ d < 10, c = d.digitChar := by
  obtain ⟨hlow, hhigh⟩ := Char.isDigit_iff_toNat.mp hc
  have hzero : '0'.toNat = 48 := rfl
  have hnine : '9'.toNat = 57 := rfl
  refine ⟨c.toNat - 48, by omega, ?_⟩
  rw [← Char.toNat_inj, Nat.toNat_digitChar_of_lt_ten (by omega)]
  omega

theorem digitValue?_digitChar {d : Nat} (hd : d < 10) : Text.digitValue? d.digitChar = some d := by
  interval_cases d <;> decide +kernel

theorem IsDigits.tail {c : Char} {ds : List Char} (hds : IsDigits (c :: ds)) : IsDigits ds :=
  fun d hd => hds d (List.mem_cons_of_mem c hd)

namespace Decimal

variable {ds : List Char}

/-- ASCII digits are translated into themselves. -/
theorem plainDigits_of_digits (hds : IsDigits ds) : plainDigits ds = ds := by
  induction ds with
  | nil => rfl
  | cons c ds ih =>
    obtain ⟨d, hd, rfl⟩ := exists_digitChar (hds c List.mem_cons_self)
    have hrest := ih hds.tail
    unfold plainDigits at hrest ⊢
    rw [List.map_cons, hrest, digitValue?_digitChar hd]
    dsimp only
    rw [← Nat.toNat_digitChar_of_lt_ten hd, Char.ofNat_toNat]

theorem dropUnderscores_of_digits (hds : IsDigits ds) : dropUnderscores ds = some ds := by
  have hunderscore : ('_' : Char).isDigit = false := by decide
  fun_induction dropUnderscores ds with
  | case1 => rfl
  | case2 rest =>
    have hmark := hds '_' List.mem_cons_self
    rw [hunderscore] at hmark
    cases hmark
  | case3 => rfl
  | case4 c d rest =>
    have hmark := hds.tail '_' List.mem_cons_self
    rw [hunderscore] at hmark
    cases hmark
  | case5 c d rest =>
    have hmark := hds.tail '_' List.mem_cons_self
    rw [hunderscore] at hmark
    cases hmark
  | case6 c d rest _ _ ih => rw [ih hds.tail, Option.map_some]

theorem normalized?_of_digits (hds : IsDigits ds) : normalized? ds = some ds := by
  have hblank : ∀ c ∈ ds, Text.isNumberBlank c = false := by
    intro c hc
    obtain ⟨d, hd, rfl⟩ := exists_digitChar (hds c hc)
    interval_cases d <;> decide
  rw [normalized?, Text.trim_word hblank, plainDigits_of_digits hds, dropUnderscores_of_digits hds]

/-- A row that begins with a digit has no sign. -/
theorem sign_of_digits (hds : IsDigits ds) : sign ds = (false, ds) := by
  unfold sign
  split
  · have hmark := hds '-' List.mem_cons_self
    cases hmark
  · have hmark := hds '+' List.mem_cons_self
    cases hmark
  · rfl

/-- **Written naturals are read back.** -/
theorem integer?_toDigits (n : Nat) : integer? (Nat.toDigits 10 n) = some (n : Int) := by
  have hds := isDigits_toDigits n
  have hvalue : value (Nat.toDigits 10 n) = n := Nat.ofDigitChars_ten_toDigits
  have hguard : (Nat.toDigits 10 n ≠ [] && (Nat.toDigits 10 n).all Char.isDigit) = true := by
    simpa [IsDigits] using hds
  rw [integer?, normalized?_of_digits hds]
  simp only [Option.bind_eq_bind, Option.bind_some, plainInteger?, sign_of_digits hds, hguard,
    hvalue, guard_true]
  rfl

end Decimal

/-! ## §2 Texts of digits -/

namespace Text

theorem chars?_ofChars (s : List Char) : (ofChars s).chars? = some s := by
  unfold chars? ofChars
  induction s with
  | nil => rfl
  | cons c s ih =>
    rw [List.map_cons, List.mapM_cons, ih]
    rfl

theorem ofString_append (s t : String) : ofString (s ++ t) = ofString s ++ ofString t := by
  simp [ofString, ofChars]

theorem ofString_toString (n : Nat) : ofString (toString n) = ofChars (Nat.toDigits 10 n) := by
  simp [ofString]

/-- Every character of a row of digits counts. -/
theorem digitCount_of_digits {ds : List Char} (hds : IsDigits ds) :
    digitCount (ofChars ds) = ds.length := by
  have hcounts : ∀ p ∈ ofChars ds, Point.is (fun c => (digitValue? c).isSome) p = true := by
    intro p hp
    obtain ⟨c, hc, rfl⟩ := List.mem_map.mp hp
    obtain ⟨d, hd, rfl⟩ := exists_digitChar (hds c hc)
    simp [Point.is, digitValue?_digitChar hd]
  rw [digitCount, List.countP_eq_length.mpr hcounts]
  exact List.length_map ..

/-- The points of a row of digits are neither blank nor a slash. -/
theorem not_blank_of_digits {ds : List Char} (hds : IsDigits ds) {p : Point} (hp : p ∈ ofChars ds) :
    isBlank p = false ∧ p ≠ .char '/' := by
  obtain ⟨c, hc, rfl⟩ := List.mem_map.mp hp
  obtain ⟨d, hd, rfl⟩ := exists_digitChar (hds c hc)
  interval_cases d <;> decide

end Text

theorem Value.integerOfText_toString {n : Nat} (hlength : (toString n).length ≤ Decimal.digitLimit) :
    Value.integerOfText (Text.ofString (toString n)) = .ok (n : Int) := by
  have hcount : ¬ Decimal.digitLimit < (Nat.toDigits 10 n).length := by
    rw [← Nat.toList_repr, String.length_toList]
    exact Nat.not_lt.mpr hlength
  rw [Text.ofString_toString]
  simp [Value.integerOfText, Text.chars?_ofChars, Decimal.integer?_toDigits,
    Text.digitCount_of_digits (isDigits_toDigits n), hcount]

/-! ## §3 Written metres -/

namespace Metre

theorem ofNumbers_self (m : Metre) : ofNumbers m.numerator m.denominator = .ok m := by
  rw [ofNumbers, dif_pos m.numerator_pos, dif_pos m.denominator_mem]

/-- **A written metre is read back**, unless its numerator has too many digits. -/
theorem ofValue_text {R : Type} [Scalar R] (m : Metre)
    (hlength : (toString m.numerator).length ≤ Decimal.digitLimit) :
    ofValue (.str m.text : Value R) = .ok m := by
  obtain ⟨n, hn⟩ := Int.eq_ofNat_of_zero_le (show 0 ≤ m.numerator by have := m.numerator_pos; omega)
  have hdenominator := m.denominator_mem
  obtain ⟨d, hd, hsmall⟩ : ∃ d : Nat, m.denominator = d ∧ d < 100 := by
    simp only [List.mem_cons, List.not_mem_nil, or_false] at hdenominator
    exact ⟨m.denominator.toNat, by omega, by omega⟩
  have hnumerator : (toString n).length ≤ Decimal.digitLimit := by
    rwa [hn] at hlength
  have hshort : (toString d).length ≤ Decimal.digitLimit := by
    have htwo : d.repr.length ≤ 2 := (Nat.length_repr_le_iff (by omega)).mpr (by omega)
    exact htwo.trans (by decide)
  -- The text is two rows of digits with a slash between them
  have htext : Text.ofString m.text =
      Text.ofChars (Nat.toDigits 10 n) ++ .char '/' :: Text.ofChars (Nat.toDigits 10 d) := by
    have hwritten : m.text = toString n ++ "/" ++ toString d := by
      unfold text
      rw [hn, hd]
      rfl
    rw [hwritten, Text.ofString_append, Text.ofString_append, Text.ofString_toString,
      Text.ofString_toString, List.append_assoc]
    rfl
  have hblank : ∀ p ∈ Text.ofString m.text, Text.isBlank p = false := by
    intro p hp
    rw [htext, List.mem_append, List.mem_cons] at hp
    rcases hp with hp | rfl | hp
    · exact (Text.not_blank_of_digits (isDigits_toDigits n) hp).1
    · decide
    · exact (Text.not_blank_of_digits (isDigits_toDigits d) hp).1
  have hpieces : Text.pieces (fun p : Point => decide (p = .char '/')) (Text.ofString m.text) =
      [Text.ofChars (Nat.toDigits 10 n), Text.ofChars (Nat.toDigits 10 d)] := by
    have hword : ∀ k : Nat, ∀ p ∈ Text.ofChars (Nat.toDigits 10 k),
        decide (p = Point.char '/') = false := by
      intro k p hp
      exact decide_eq_false (Text.not_blank_of_digits (isDigits_toDigits k) hp).2
    rw [htext, Text.pieces_append (hword n) (decide_eq_true rfl), Text.pieces_word (hword d)]
  have hreads := Value.integerOfText_toString hnumerator
  have hreads' := Value.integerOfText_toString hshort
  rw [Text.ofString_toString] at hreads hreads'
  have hself := ofNumbers_self m
  rw [hn, hd] at hself
  unfold ofValue
  simp only [Value.text, Text.strip_word hblank, hpieces, hreads, hreads', hself]
  rfl

end Metre

/-! ## §4 Fresh ids -/

/-- The value of a hexadecimal digit. -/
def hexValue (c : Char) : Nat := ((List.range 16).map Nat.digitChar).idxOf c

theorem hexValue_digitChar {d : Nat} (hd : d < 16) : hexValue d.digitChar = d := by
  interval_cases d <;> decide

/-- The value of a row of hexadecimal digits. -/
def hexNumber (ds : List Char) : Nat := ds.foldl (fun n c => 16 * n + hexValue c) 0

theorem hexNumber_toDigits (n : Nat) : hexNumber (Nat.toDigits 16 n) = n := by
  induction n using Nat.base_induction 16 (by omega) with
  | single m hm =>
    rw [Nat.toDigits_of_lt_base hm]
    simp [hexNumber, hexValue_digitChar hm]
  | digit m k hk hm ih =>
    rw [← Nat.toDigits_append_toDigits (by omega) hm hk, Nat.toDigits_of_lt_base hk]
    unfold hexNumber at ih ⊢
    rw [List.foldl_append, ih]
    simp [hexValue_digitChar hk]

/-- Zeros in front do not count. -/
theorem hexNumber_hex (width n : Nat) : hexNumber (Text.hex width n) = n := by
  have hzeros : ∀ k : Nat, hexNumber (List.replicate k '0') = 0 := by
    -- The fold reads from the front, so the last zero is split off
    intro k
    induction k with
    | zero => rfl
    | succ k ih =>
      rw [List.replicate_succ']
      unfold hexNumber at ih ⊢
      rw [List.foldl_append, ih]
      rfl
  have hdigits := hexNumber_toDigits n
  unfold Text.hex hexNumber at *
  dsimp only
  rw [List.foldl_append, hzeros, hdigits]

/-- **No id is drawn twice.** -/
theorem Journal.idText_injective {m n : Nat} (h : Journal.idText m = Journal.idText n) : m = n := by
  have hchars : some (Text.hex 12 m) = some (Text.hex 12 n) := by
    rw [← Text.chars?_ofChars, ← Text.chars?_ofChars]
    exact congrArg Text.chars? h
  rw [← hexNumber_hex 12 m, Option.some.inj hchars, hexNumber_hex]

end Lamella
