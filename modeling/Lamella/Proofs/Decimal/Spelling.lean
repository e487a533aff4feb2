import Lamella.Decimal.Written
import Lamella.Proofs.Scalar.Numerals
import Lamella.Proofs.Text.Integers

/-!
# The text of a decimal

A decimal is written with a point or with a power of ten, zeros at its end are dropped, and zeros
are put in front of it or after it to bring the point to its place. None of this changes the
rational that the text says.

## Main definitions

- `Decimal.layout`, `Decimal.spelled`: digits before and after a point, with a power of ten, and the
  decimal that they say.
- `Decimal.Spells`: what such a text must be like to be read.

## Main statements

- `Decimal.compact_spells`: the text of a decimal says the decimal.
-/

namespace Lamella.Decimal

/-! ## §1 Rows of digits -/

theorem value_append (a b : List Char) : value (a ++ b) = value a * 10 ^ b.length + value b := by
  have hshift (n : ℕ) (ds : List Char) :
      ds.foldl (fun n c => 10 * n + (c.toNat - 48)) n = n * 10 ^ ds.length + value ds := by
    unfold value
    induction ds generalizing n with
    | nil => simp
    | cons c ds ih =>
      rw [List.foldl_cons, List.foldl_cons, ih, ih (10 * 0 + _), List.length_cons, pow_succ]
      ring
  rw [value, List.foldl_append]
  exact hshift _ b

theorem value_toDigits (n : ℕ) : value (Nat.toDigits 10 n) = n := Nat.ofDigitChars_ten_toDigits

theorem value_zeros (k : ℕ) : value (List.replicate k '0') = 0 := by
  induction k with
  | zero => rfl
  | succ k ih =>
    rw [List.replicate_succ', value_append, ih]
    rfl

theorem isDigits_zeros (k : ℕ) : IsDigits (List.replicate k '0') := by
  intro c hc
  rw [List.eq_of_mem_replicate hc]
  rfl

theorem IsDigits.append {a b : List Char} (ha : IsDigits a) (hb : IsDigits b) :
    IsDigits (a ++ b) := by
  intro c hc
  rcases List.mem_append.mp hc with hc | hc
  · exact ha c hc
  · exact hb c hc

theorem value_padded (width n : ℕ) : value (padded width n) = n := by
  unfold padded
  rw [value_append, value_zeros, zero_mul, zero_add, value_toDigits]

theorem isDigits_padded (width n : ℕ) : IsDigits (padded width n) :=
  IsDigits.append (isDigits_zeros _) (isDigits_toDigits n)

/-- What is written to a count of places are digits, a point and a sign. -/
theorem mem_fixed {places : ℕ} {negative : Bool} {q : ℚ} {c : Char}
    (hc : c ∈ fixed places negative q) : c.isDigit = true ∨ c = '.' ∨ c = '-' := by
  have hpadded (n : ℕ) (hc : c ∈ padded (places + 1) n) : c.isDigit = true ∨ c = '.' ∨ c = '-' :=
    .inl (isDigits_padded _ n c hc)
  have hmagnitude (n : ℕ) (hc : c ∈ if places = 0 then padded (places + 1) n else
      (padded (places + 1) n).take ((padded (places + 1) n).length - places) ++
        '.' :: (padded (places + 1) n).drop ((padded (places + 1) n).length - places)) :
      c.isDigit = true ∨ c = '.' ∨ c = '-' := by
    split at hc
    · exact hpadded n hc
    · rcases List.mem_append.mp hc with hc | hc
      · exact hpadded n (List.mem_of_mem_take hc)
      · rcases List.mem_cons.mp hc with rfl | hc
        · exact .inr (.inl rfl)
        · exact hpadded n (List.mem_of_mem_drop hc)
  unfold fixed signed at hc
  split at hc
  · rcases List.mem_cons.mp hc with rfl | hc
    · exact .inr (.inr rfl)
    · exact hmagnitude _ hc
  · exact hmagnitude _ hc

/-- A character of a written number: a digit, a point, a sign or the mark of a power of ten. -/
def IsNumeric (c : Char) : Prop := c.isDigit = true ∨ c ∈ ['.', '-', '+', 'e']

theorem isNumeric_of_digits {ds : List Char} (hds : IsDigits ds) : ∀ c ∈ ds, IsNumeric c :=
  fun c hc => .inl (hds c hc)

theorem isNumeric_power (e : ℤ) : ∀ c ∈ power e, IsNumeric c := by
  have hsign : IsNumeric (if e < 0 then '-' else '+') := by
    split
    · exact .inr (by decide)
    · exact .inr (by decide)
  exact List.forall_mem_cons.mpr ⟨.inr (by decide),
    List.forall_mem_cons.mpr ⟨hsign, isNumeric_of_digits (isDigits_padded 2 e.natAbs)⟩⟩

theorem isNumeric_scientific (d : Decimal) : ∀ c ∈ scientific d, IsNumeric c := by
  have hdigits := isNumeric_of_digits (isDigits_toDigits d.digits)
  unfold scientific
  cases hds : Nat.toDigits 10 d.digits with
  | nil => exact nofun
  | cons first rest =>
    rw [hds] at hdigits
    obtain ⟨hfirst, hrest⟩ := List.forall_mem_cons.mp hdigits
    have hpoint : IsNumeric '.' := .inr (by decide)
    cases rest with
    | nil => exact List.forall_mem_cons.mpr ⟨hfirst, isNumeric_power _⟩
    | cons second rest =>
      exact List.forall_mem_append.mpr ⟨List.forall_mem_cons.mpr ⟨hfirst,
        List.forall_mem_cons.mpr ⟨hpoint, hrest⟩⟩, isNumeric_power _⟩

theorem isNumeric_positional (d : Decimal) : ∀ c ∈ positional d, IsNumeric c := by
  have hpadded (width : ℕ) := isNumeric_of_digits (isDigits_padded width d.digits)
  unfold positional
  dsimp only
  split
  · have hzeros := IsDigits.append (isDigits_toDigits d.digits) (isDigits_zeros d.exponent.toNat)
    refine List.forall_mem_append.mpr ⟨isNumeric_of_digits hzeros, ?_⟩
    exact List.forall_mem_cons.mpr ⟨.inr (by decide), List.forall_mem_singleton.mpr (.inl rfl)⟩
  · exact List.forall_mem_append.mpr ⟨fun c hc => hpadded _ c (List.mem_of_mem_take hc),
      List.forall_mem_cons.mpr ⟨.inr (by decide), fun c hc => hpadded _ c (List.mem_of_mem_drop hc)⟩⟩

/-- What is written to a count of digits is of such characters. -/
theorem isNumeric_general (count : ℕ) (negative : Bool) (q : ℚ) :
    ∀ c ∈ general count negative q, IsNumeric c := by
  have hsigned {text : List Char} (htext : ∀ c ∈ text, IsNumeric c) :
      ∀ c ∈ signed negative text, IsNumeric c := by
    unfold signed
    split
    · exact List.forall_mem_cons.mpr ⟨.inr (by decide), htext⟩
    · exact htext
  unfold general
  refine hsigned ?_
  dsimp only
  split
  · exact List.forall_mem_singleton.mpr (.inl rfl)
  split
  · exact isNumeric_scientific _
  split
  · exact isNumeric_of_digits (isDigits_toDigits _)
  · exact isNumeric_positional _

theorem length_padded (width n : ℕ) : (padded width n).length = max width (digitCount n) := by
  unfold padded digitCount
  rw [List.length_append, List.length_replicate]
  omega

/-- The digits of a number above zero begin with none. -/
theorem head?_toDigits {n : ℕ} (hn : 0 < n) : (Nat.toDigits 10 n).head? ≠ some '0' := by
  induction n using Nat.base_induction 10 (by norm_num) with
  | single m hm =>
    rw [Nat.toDigits_of_lt_base hm]
    interval_cases m <;> decide
  | digit m k hk hm ih =>
    rw [← Nat.toDigits_append_toDigits (by norm_num) hm hk,
      List.head?_append_of_ne_nil _ Nat.toDigits_ne_nil]
    exact ih hm

/-! ## §2 Texts of digits, with a point or a power of ten -/

/-- Digits before a point, digits after it if there are any, and a power of ten if there is one. -/
def layout (whole fraction : List Char) (p : Option ℤ) : List Char :=
  whole ++ (if fraction = [] then [] else '.' :: fraction) ++ p.elim [] power

/-- The decimal that digits before and after a point and a power of ten say. -/
def spelled (whole fraction : List Char) (p : Option ℤ) : Decimal :=
  ⟨value (whole ++ fraction), p.getD 0 - fraction.length⟩

/-- Digits as they may stand before and after a point: there are some before it, which begin with no
zero unless they are a single one, and there is a point or a power of ten. -/
structure IsSpelling (whole fraction : List Char) (p : Option ℤ) : Prop where
  before : IsDigits whole
  some : whole ≠ []
  leading : whole = ['0'] ∨ whole.head? ≠ Option.some '0'
  after : IsDigits fraction
  marked : fraction ≠ [] ∨ p ≠ none

/-- A text says a decimal. -/
def Spells (text : List Char) (d : Decimal) : Prop :=
  ∃ whole fraction p, IsSpelling whole fraction p ∧ text = layout whole fraction p ∧
    (spelled whole fraction p).amount = d.amount ∧
    (d.digits = 0 → (spelled whole fraction p).digits = 0)

/-- Zeros at the end of the digits may be dropped. -/
theorem stripZeros_amount (fuel : ℕ) (d : Decimal) : (stripZeros fuel d).amount = d.amount ∧
    ((stripZeros fuel d).digits = 0 ↔ d.digits = 0) := by
  induction fuel generalizing d with
  | zero => exact ⟨rfl, Iff.rfl⟩
  | succ fuel ih =>
    rw [stripZeros]
    split_ifs with hzero
    · obtain ⟨hamount, hdigits⟩ := ih ⟨d.digits / 10, d.exponent + 1⟩
      have hten : d.digits = d.digits / 10 * 10 := by omega
      refine ⟨hamount.trans ?_, hdigits.trans ?_⟩
      · -- A digit less, for a power of ten more
        unfold amount
        dsimp only
        rw [zpow_add_one₀ (by norm_num)]
        conv_rhs => rw [hten]
        push_cast
        ring
      · dsimp only
        omega
    · exact ⟨rfl, Iff.rfl⟩

/-! ## §3 The two forms -/

theorem amount_of_eq {d e : Decimal} (hdigits : e.digits = d.digits) (hexponent : e.exponent = d.exponent) :
    e.amount = d.amount := by
  unfold amount
  rw [hdigits, hexponent]

/-- One digit before the point. -/
theorem scientific_spells {d : Decimal} (hd : d.digits ≠ 0) : Spells (scientific d) d := by
  have hhead := head?_toDigits (Nat.pos_of_ne_zero hd)
  have hdigits := isDigits_toDigits d.digits
  have hvalue := value_toDigits d.digits
  unfold scientific
  cases hds : Nat.toDigits 10 d.digits with
  | nil => exact absurd hds Nat.toDigits_ne_nil
  | cons c rest =>
    rw [hds] at hhead hdigits hvalue
    refine ⟨[c], rest, some (d.exponent + (c :: rest).length - 1), ?_, ?_, ?_, ?_⟩
    · refine ⟨?_, List.cons_ne_nil c [], .inr hhead, hdigits.tail, .inr (Option.some_ne_none _)⟩
      intro c' hc'
      exact hdigits c' (List.mem_cons.mpr (.inl (List.mem_singleton.mp hc')))
    · cases rest <;> rfl
    · refine amount_of_eq hvalue ?_
      show d.exponent + (c :: rest).length - 1 - rest.length = d.exponent
      rw [List.length_cons]
      omega
    · intro hzero
      exact absurd hzero hd

/-- Zeros before the point, and one after it. -/
theorem positional_spells_of_nonneg {d : Decimal} (hd : d.digits ≠ 0) (he : 0 ≤ d.exponent) :
    Spells (positional d) d := by
  have hhead := head?_toDigits (Nat.pos_of_ne_zero hd)
  have hwhole : IsDigits (Nat.toDigits 10 d.digits ++ List.replicate d.exponent.toNat '0') :=
    IsDigits.append (isDigits_toDigits _) (isDigits_zeros _)
  refine ⟨Nat.toDigits 10 d.digits ++ List.replicate d.exponent.toNat '0', ['0'], none, ?_, ?_, ?_,
    fun hzero => absurd hzero hd⟩
  · refine ⟨hwhole, List.append_ne_nil_of_left_ne_nil Nat.toDigits_ne_nil _, .inr ?_, ?_,
      .inl (List.cons_ne_nil _ _)⟩
    · rwa [List.head?_append_of_ne_nil _ Nat.toDigits_ne_nil]
    · exact isDigits_zeros 1
  · rw [positional, if_pos he, layout]
    simp
  · -- The zeros and the digit after the point make up for the power of ten
    obtain ⟨k, hk⟩ := Int.eq_ofNat_of_zero_le he
    have hdigits : value (Nat.toDigits 10 d.digits ++ List.replicate d.exponent.toNat '0' ++ ['0']) =
        d.digits * 10 ^ (k + 1) := by
      have hzero : value ['0'] = 0 := rfl
      rw [value_append, value_append, value_toDigits, value_zeros, hzero, hk, List.length_replicate,
        List.length_singleton, Int.toNat_natCast, pow_succ]
      ring
    show ((value _ : ℕ) : ℚ) * 10 ^ ((0 : ℤ) - (1 : ℕ)) = d.digits * 10 ^ d.exponent
    rw [hdigits, hk, zpow_natCast, pow_succ]
    push_cast
    norm_num
    ring

/-- What stands before the point of padded digits is a single zero, or begins with none. -/
theorem leading_padded {n : ℕ} (hn : 0 < n) (places : ℕ) :
    let all := padded (places + 1) n
    all.take (all.length - places) = ['0'] ∨ (all.take (all.length - places)).head? ≠ some '0' := by
  intro all
  have hall : all = List.replicate (places + 1 - digitCount n) '0' ++ Nat.toDigits 10 n := rfl
  have hlength : all.length = max (places + 1) (digitCount n) := length_padded _ _
  by_cases hshort : digitCount n ≤ places
  · left
    obtain ⟨k, hk⟩ : ∃ k, places + 1 - digitCount n = k + 1 := ⟨places - digitCount n, by omega⟩
    rw [hk, List.replicate_succ, List.cons_append] at hall
    have hone : all.length - places = 1 := by omega
    rw [hone, hall]
    rfl
  · right
    have hnone : places + 1 - digitCount n = 0 := by omega
    rw [hnone, List.replicate_zero, List.nil_append] at hall
    rw [List.head?_take, if_neg (by omega), hall]
    exact head?_toDigits hn

/-- Digits after the point, with zeros in front of them as far as they are needed. -/
theorem positional_spells_of_neg {d : Decimal} (hd : d.digits ≠ 0) (he : d.exponent < 0) :
    Spells (positional d) d := by
  obtain ⟨places, hplaces, hexponent, hpos⟩ : ∃ places : ℕ, (-d.exponent).toNat = places ∧
      d.exponent = -places ∧ 0 < places := ⟨_, rfl, by omega, by omega⟩
  have htext : positional d = (padded (places + 1) d.digits).take
      ((padded (places + 1) d.digits).length - places) ++
      '.' :: (padded (places + 1) d.digits).drop
        ((padded (places + 1) d.digits).length - places) := by
    rw [positional, if_neg (not_le.mpr he), hplaces]
  have hleading := leading_padded (Nat.pos_of_ne_zero hd) places
  have hlength := length_padded (places + 1) d.digits
  have hdigits := isDigits_padded (places + 1) d.digits
  have hvalue := value_padded (places + 1) d.digits
  rw [htext]
  generalize padded (places + 1) d.digits = all at hleading hlength hdigits hvalue
  have hsome : all.take (all.length - places) ≠ [] := by
    intro hnil
    have := congrArg List.length hnil
    rw [List.length_take, List.length_nil] at this
    omega
  have hmark : all.drop (all.length - places) ≠ [] := by
    intro hnil
    have := congrArg List.length hnil
    rw [List.length_drop, List.length_nil] at this
    omega
  refine ⟨all.take (all.length - places), all.drop (all.length - places), none,
    ⟨fun c hc => hdigits c (List.mem_of_mem_take hc), hsome, hleading,
      fun c hc => hdigits c (List.mem_of_mem_drop hc), .inl hmark⟩, ?_, ?_,
    fun hzero => absurd hzero hd⟩
  · rw [layout, if_neg hmark, Option.elim_none, List.append_nil]
  · refine amount_of_eq ?_ ?_
    · show value (_ ++ _) = _
      rw [List.take_append_drop, hvalue]
    · show (0 : ℤ) - (all.drop (all.length - places)).length = d.exponent
      rw [List.length_drop, hexponent]
      omega

/-- **The text of a decimal says the decimal**, after its sign. -/
theorem compact_spells (negative : Bool) (d : Decimal) :
    ∃ text, compact negative d = signed negative text ∧ Spells text d := by
  obtain ⟨hamount, hdigits⟩ := stripZeros_amount (digitCount d.digits) d
  refine ⟨_, rfl, ?_⟩
  generalize stripZeros (digitCount d.digits) d = e at hamount hdigits
  have hspells : Spells (if e.digits = 0 then ['0', '.', '0']
      else if -4 ≤ e.exponent + digitCount e.digits - 1 ∧ e.exponent + digitCount e.digits - 1 < 16
      then positional e else scientific e) e := by
    split_ifs with hzero hplain
    · refine ⟨['0'], ['0'], none, ⟨isDigits_zeros 1, List.cons_ne_nil _ _, .inl rfl,
        isDigits_zeros 1, .inl (List.cons_ne_nil _ _)⟩, rfl, ?_, fun _ => rfl⟩
      show ((0 : ℕ) : ℚ) * _ = _
      rw [amount, hzero, Nat.cast_zero, zero_mul, zero_mul]
    · rcases lt_or_ge e.exponent 0 with he | he
      · exact positional_spells_of_neg hzero he
      · exact positional_spells_of_nonneg hzero he
    · exact scientific_spells hzero
  obtain ⟨whole, fraction, p, hspelling, htext, hsame, hnone⟩ := hspells
  exact ⟨whole, fraction, p, hspelling, htext, hsame.trans hamount,
    fun hzero => hnone (hdigits.mpr hzero)⟩

end Lamella.Decimal
