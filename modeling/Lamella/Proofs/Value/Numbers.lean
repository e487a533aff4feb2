import Lamella.Proofs.Decimal.Shortest
import Lamella.Proofs.Decimal.Spelling
import Lamella.Value.Reader

/-!
# Numbers are read back

A number is read up to the first point that no number goes on with. What is written of an integer,
of a machine number or of an exact number is read to its end and as the same number.

## Main definitions

- `Value.EndsNumber`: a text that no number goes on with.
- `Scalar.Legible`: the class of scalar types whose written numbers are read back.

## Main statements

- `Value.readNumber_int`: integers of not too many digits are read back.
- Machine numbers and exact numbers are legible.
-/

namespace Lamella

/-- A text that no number goes on with. -/
def Value.EndsNumber (rest : Text) : Prop :=
  ∀ c, rest.head? = some (.char c) →
    c.isDigit = false ∧ c ≠ '.' ∧ c ≠ 'e' ∧ c ≠ 'E' ∧ c ≠ '/'

/-- Scalars whose written numbers are read back, where no number goes on after them. -/
class Scalar.Legible (R : Type) [Scalar R] : Prop where
  readNumber_written {x : R} {q : ℚ} (h : Scalar.reading x = .finite q) {rest : Text}
    (hrest : Value.EndsNumber rest) :
    Value.readNumber (Text.ofString (Scalar.written x) ++ rest) = .ok (.num x, rest)

namespace Value

/-! ## §1 Rows of digits -/

/-- A text that no row of digits goes on with. -/
def EndsDigits (rest : Text) : Prop := ∀ c, rest.head? = some (.char c) → c.isDigit = false

theorem EndsNumber.digits {rest : Text} (h : EndsNumber rest) : EndsDigits rest :=
  fun c hc => (h c hc).1

theorem endsDigits_cons {c : Char} (hc : c.isDigit = false) (rest : Text) :
    EndsDigits (.char c :: rest) := by
  intro c' hc'
  obtain rfl : c = c' := Point.char.inj (Option.some.inj hc')
  exact hc

theorem digits?_none {rest : Text} (h : EndsDigits rest) : digits? rest = none := by
  cases rest with
  | nil => rfl
  | cons p rest =>
    cases p with
    | half _ => rfl
    | char c =>
      unfold digits?
      rw [if_neg]
      rw [h c rfl]
      exact Bool.false_ne_true

/-- A row of digits is read to its end. -/
theorem digits?_of_digits {ds : List Char} (hds : IsDigits ds) (hne : ds ≠ []) {rest : Text}
    (hrest : EndsDigits rest) : digits? (Text.ofChars ds ++ rest) = some (ds, rest) := by
  induction ds with
  | nil => exact absurd rfl hne
  | cons c ds ih =>
    have hc := hds c List.mem_cons_self
    show digits? (.char c :: (Text.ofChars ds ++ rest)) = _
    rw [digits?, if_pos hc]
    by_cases hlast : ds = []
    · rw [hlast, show Text.ofChars [] ++ rest = rest from rfl, digits?_none hrest]
    · rw [ih hds.tail hlast]

/-- A row of digits before a point, which begins with no zero unless it is a single one. -/
theorem wholePart?_of_digits {ds : List Char} (hds : IsDigits ds) (hne : ds ≠ [])
    (hleading : ds = ['0'] ∨ ds.head? ≠ some '0') {rest : Text} (hrest : EndsDigits rest) :
    wholePart? (Text.ofChars ds ++ rest) = some (ds, rest) := by
  rcases hleading with rfl | hhead
  · rfl
  · cases ds with
    | nil => exact absurd rfl hne
    | cons c ds =>
      have hc : c ≠ '0' := fun h => hhead (congrArg some h)
      have hread := digits?_of_digits hds hne hrest
      unfold wholePart?
      split
      · rename_i h
        have : c = '0' := Point.char.inj (List.cons.inj h).1
        exact absurd this hc
      · exact hread

/-! ## §2 Points and powers of ten -/

theorem fraction?_none {rest : Text} (h : rest.head? ≠ some (.char '.')) : fraction? rest = none := by
  unfold fraction?
  split
  · exact absurd rfl h
  · rfl

theorem fraction?_of_digits {ds : List Char} (hds : IsDigits ds) (hne : ds ≠ []) {rest : Text}
    (hrest : EndsDigits rest) :
    fraction? (.char '.' :: (Text.ofChars ds ++ rest)) = some (ds, rest) :=
  digits?_of_digits hds hne hrest

theorem exponent?_none {rest : Text} (h : rest.head? ≠ some (.char 'e'))
    (h' : rest.head? ≠ some (.char 'E')) : exponent? rest = none := by
  cases rest with
  | nil => rfl
  | cons p rest =>
    rw [exponent?, if_neg]
    rintro (rfl | rfl)
    · exact h rfl
    · exact h' rfl

/-- A written power of ten is read back. -/
theorem exponent?_power (e : ℤ) {rest : Text} (hrest : EndsDigits rest) :
    exponent? (Text.ofChars (Decimal.power e) ++ rest) = some (e, rest) := by
  have hdigits := Decimal.isDigits_padded 2 e.natAbs
  have hne : Decimal.padded 2 e.natAbs ≠ [] := by
    intro hnil
    have := congrArg List.length hnil
    rw [Decimal.length_padded, List.length_nil] at this
    omega
  have hread := digits?_of_digits hdigits hne hrest
  have hvalue := Decimal.value_padded 2 e.natAbs
  by_cases he : e < 0
  · have htext : Text.ofChars (Decimal.power e) ++ rest =
        .char 'e' :: .char '-' :: (Text.ofChars (Decimal.padded 2 e.natAbs) ++ rest) := by
      rw [Decimal.power, if_pos he]
      rfl
    rw [htext, exponent?, if_pos (.inl rfl)]
    simp only [sign, hread, Option.map_some, hvalue, if_true]
    rw [show -((e.natAbs : ℕ) : ℤ) = e by omega]
  · have htext : Text.ofChars (Decimal.power e) ++ rest =
        .char 'e' :: .char '+' :: (Text.ofChars (Decimal.padded 2 e.natAbs) ++ rest) := by
      rw [Decimal.power, if_neg he]
      rfl
    rw [htext, exponent?, if_pos (.inl rfl)]
    simp only [sign, hread, Option.map_some, hvalue, Bool.false_eq_true, if_false]
    rw [show ((e.natAbs : ℕ) : ℤ) = e by omega]

/-! ## §3 Numerals -/

variable {R : Type} [Scalar R]

/-- What follows the digits of a numeral: a power of ten, if there is one. -/
theorem power_tail (p : Option ℤ) {rest : Text} (hrest : EndsNumber rest) :
    let tail := Text.ofChars (p.elim [] Decimal.power) ++ rest
    EndsDigits tail ∧ tail.head? ≠ some (.char '.') ∧ exponent? tail = p.map (·, rest) ∧
      (p = none → tail = rest) := by
  cases p with
  | none =>
    refine ⟨hrest.digits, fun h => (hrest '.' h).2.1 rfl, exponent?_none ?_ ?_, fun _ => rfl⟩
    · exact fun h => (hrest 'e' h).2.2.1 rfl
    · exact fun h => (hrest 'E' h).2.2.2.1 rfl
  | some e =>
    refine ⟨endsDigits_cons (by decide) _, fun h => ?_, exponent?_power e hrest.digits, nofun⟩
    exact absurd (Point.char.inj (Option.some.inj h)) (by decide)

/-- A text of digits with a point or a power of ten is read as the numeral that it says. -/
theorem readUnsigned_layout {whole fraction : List Char} {p : Option ℤ}
    (h : Decimal.IsSpelling whole fraction p) (negative : Bool) {rest : Text}
    (hrest : EndsNumber rest) {x : R}
    (hx : Scalar.ofNumeral? (.finite negative (Decimal.spelled whole fraction p)) = some x) :
    readUnsigned negative (Text.ofChars (Decimal.layout whole fraction p) ++ rest) =
      .ok (.num x, rest) := by
  obtain ⟨hends, hpoint, hpower, hplain⟩ := power_tail p hrest
  have htext : Text.ofChars (Decimal.layout whole fraction p) ++ rest = Text.ofChars whole ++
      (Text.ofChars (if fraction = [] then [] else '.' :: fraction) ++
        (Text.ofChars (p.elim [] Decimal.power) ++ rest)) := by
    simp [Decimal.layout, Text.ofChars]
  rw [htext]
  generalize Text.ofChars (p.elim [] Decimal.power) ++ rest = tail at hends hpoint hpower hplain
  unfold readUnsigned
  by_cases hfraction : fraction = []
  · -- Without a point there is a power of ten
    obtain ⟨e, rfl⟩ := Option.ne_none_iff_exists'.mp (h.marked.resolve_left (not_not_intro hfraction))
    rw [hfraction, if_pos rfl, show Text.ofChars [] ++ tail = tail from rfl,
      wholePart?_of_digits h.before h.some h.leading hends]
    rw [hfraction] at hx
    simp only [fraction?_none hpoint, hpower, Option.elim_none, Option.map_some, Option.map_none,
      Option.getD_some, Option.getD_none]
    rw [show (⟨Decimal.value (whole ++ []), e - (([] : List Char).length : ℕ)⟩ : Decimal) =
      Decimal.spelled whole [] (some e) from rfl, hx]
  · have hread := fraction?_of_digits h.after hfraction hends
    rw [if_neg hfraction, show Text.ofChars ('.' :: fraction) ++ tail =
        .char '.' :: (Text.ofChars fraction ++ tail) from rfl,
      wholePart?_of_digits h.before h.some h.leading (endsDigits_cons (by decide) _)]
    simp only [hread, hpower, Option.elim_some, Option.map_some, Option.getD_some]
    cases p with
    | none =>
      simp only [Option.map_none, Option.getD_none]
      rw [show (⟨Decimal.value (whole ++ fraction), 0 - (fraction.length : ℕ)⟩ : Decimal) =
        Decimal.spelled whole fraction none from rfl, hx, hplain rfl]
    | some e =>
      simp only [Option.map_some, Option.getD_some]
      rw [show (⟨Decimal.value (whole ++ fraction), e - (fraction.length : ℕ)⟩ : Decimal) =
        Decimal.spelled whole fraction (some e) from rfl, hx]

/-- A text that begins with a digit has no sign in front of it. -/
theorem readNumber_unsigned {ds : List Char} (hds : IsDigits ds) (hne : ds ≠ []) (rest : Text) :
    (readNumber (Text.ofChars ds ++ rest) : Except Flaw.Cause (Value R × Text)) =
      readUnsigned false (Text.ofChars ds ++ rest) := by
  cases ds with
  | nil => exact absurd rfl hne
  | cons c ds =>
    have hc := hds c List.mem_cons_self
    unfold readNumber
    split
    · rename_i h
      obtain rfl : c = '-' := Point.char.inj (List.cons.inj h).1
      cases hc
    · rfl

/-- **A decimal is read back as the numeral that it says**, with its sign. -/
theorem readNumber_compact (negative : Bool) (d : Decimal) : ∃ e : Decimal, e.amount = d.amount ∧
    (d.digits = 0 → e.digits = 0) ∧
    ∀ {x : R}, Scalar.ofNumeral? (.finite negative e) = some x → ∀ {rest : Text}, EndsNumber rest →
      readNumber (Text.ofChars (Decimal.compact negative d) ++ rest) = .ok (.num x, rest) := by
  obtain ⟨text, htext, whole, fraction, p, hspelling, rfl, hamount, hzero⟩ :=
    Decimal.compact_spells negative d
  refine ⟨Decimal.spelled whole fraction p, hamount, hzero, fun hx rest hrest => ?_⟩
  have hread := readUnsigned_layout hspelling negative hrest hx
  rw [htext]
  cases negative with
  | true => exact hread
  | false =>
    rw [Decimal.signed, if_neg Bool.false_ne_true]
    have hlayout : Text.ofChars (Decimal.layout whole fraction p) ++ rest = Text.ofChars whole ++
        (Text.ofChars ((if fraction = [] then [] else '.' :: fraction) ++ p.elim [] Decimal.power) ++
          rest) := by
      simp [Decimal.layout, Text.ofChars]
    rw [hlayout] at hread ⊢
    rw [readNumber_unsigned hspelling.before hspelling.some, hread]

/-! ## §4 Integers and fractions -/

/-- The digits of an integer, after its sign. -/
theorem ofString_toString_int (n : ℤ) : Text.ofString (toString n) =
    Text.ofChars (Decimal.signed (decide (n < 0)) (Nat.toDigits 10 n.natAbs)) := by
  cases n with
  | ofNat n => exact Text.ofString_toString n
  | negSucc n =>
    have htext : toString (Int.negSucc n) = "-" ++ toString (n + 1) := rfl
    rw [htext, Text.ofString_append, Text.ofString_toString,
      decide_eq_true (Int.negSucc_lt_zero n)]
    rfl

theorem leading_toDigits (n : ℕ) :
    Nat.toDigits 10 n = ['0'] ∨ (Nat.toDigits 10 n).head? ≠ some '0' := by
  rcases n.eq_zero_or_pos with rfl | hn
  · exact .inl rfl
  · exact .inr (Decimal.head?_toDigits hn)

theorem signedValue_toDigits (n : ℤ) :
    signedValue (decide (n < 0)) (Nat.toDigits 10 n.natAbs) = n := by
  unfold signedValue
  rw [Decimal.value_toDigits]
  by_cases hn : n < 0
  · rw [decide_eq_true hn, if_pos rfl]
    omega
  · rw [decide_eq_false hn, if_neg Bool.false_ne_true]
    omega

/-- An integer is read up to a point that no power of ten or fraction of ten begins at. -/
theorem readNumber_toString {n : ℤ} {tail : Text} (hends : EndsDigits tail)
    (hpoint : tail.head? ≠ some (.char '.')) (hpower : exponent? tail = none) :
    (readNumber (Text.ofString (toString n) ++ tail) : Except Flaw.Cause (Value R × Text)) =
      match fractionOf? (decide (n < 0)) (Nat.toDigits 10 n.natAbs) tail with
      | some (x, rest) => .ok (.num x, rest)
      | none =>
        if Decimal.digitLimit < (Nat.toDigits 10 n.natAbs).length then
          .error (.digits (Nat.toDigits 10 n.natAbs).length)
        else .ok (.int n, tail) := by
  have hdigits := isDigits_toDigits n.natAbs
  have hread (negative : Bool) : (readUnsigned negative (Text.ofChars (Nat.toDigits 10 n.natAbs) ++
      tail) : Except Flaw.Cause (Value R × Text)) =
      match fractionOf? negative (Nat.toDigits 10 n.natAbs) tail with
      | some (x, rest) => .ok (.num x, rest)
      | none =>
        if Decimal.digitLimit < (Nat.toDigits 10 n.natAbs).length then
          .error (.digits (Nat.toDigits 10 n.natAbs).length)
        else .ok (.int (signedValue negative (Nat.toDigits 10 n.natAbs)), tail) := by
    unfold readUnsigned
    rw [wholePart?_of_digits hdigits Nat.toDigits_ne_nil (leading_toDigits _) hends]
    cases hfraction : (fractionOf? negative (Nat.toDigits 10 n.natAbs) tail : Option (R × Text)) with
    | none => simp [hfraction, fraction?_none hpoint, hpower]
    | some found => simp [hfraction, fraction?_none hpoint, hpower]
  have hvalue := signedValue_toDigits n
  rw [ofString_toString_int]
  by_cases hn : n < 0
  · rw [decide_eq_true hn] at hvalue ⊢
    exact (hread true).trans (by rw [hvalue])
  · rw [decide_eq_false hn] at hvalue ⊢
    rw [Decimal.signed, if_neg Bool.false_ne_true,
      readNumber_unsigned hdigits Nat.toDigits_ne_nil, hread false, hvalue]

/-- **Integers of not too many digits are read back.** -/
theorem readNumber_int {n : ℤ} (hn : (Nat.toDigits 10 n.natAbs).length ≤ Decimal.digitLimit)
    {rest : Text} (hrest : EndsNumber rest) :
    (readNumber (Text.ofString (toString n) ++ rest) : Except Flaw.Cause (Value R × Text)) =
      .ok (.int n, rest) := by
  have hpower : exponent? rest = none :=
    exponent?_none (fun h => (hrest 'e' h).2.2.1 rfl) (fun h => (hrest 'E' h).2.2.2.1 rfl)
  have hfraction : (fractionOf? (decide (n < 0)) (Nat.toDigits 10 n.natAbs) rest :
      Option (R × Text)) = none := by
    have hslash : divisor? rest = none := by
      unfold divisor?
      split
      · exact absurd rfl (hrest '/' rfl).2.2.2.2
      · rfl
    rw [fractionOf?, hslash]
    rfl
  rw [readNumber_toString hrest.digits (fun h => (hrest '.' h).2.1 rfl) hpower, hfraction]
  exact if_neg (Nat.not_lt.mpr hn)

end Value

/-- **Exact numbers are read back** as the fractions that they are written as. -/
instance : Scalar.Legible Rat where
  readNumber_written {x q} _ {rest} hrest := by
    have htext : Text.ofString (Scalar.written x) ++ rest = Text.ofString (toString x.num) ++
        (.char '/' :: (Text.ofChars (Nat.toDigits 10 x.den) ++ rest)) := by
      have hwritten : Scalar.written x = toString x.num ++ "/" ++ toString x.den := rfl
      rw [hwritten, Text.ofString_append, Text.ofString_append, Text.ofString_toString,
        List.append_assoc, List.append_assoc]
      rfl
    have hfraction : Value.fractionOf? (decide (x.num < 0)) (Nat.toDigits 10 x.num.natAbs)
        (.char '/' :: (Text.ofChars (Nat.toDigits 10 x.den) ++ rest)) = some (x, rest) := by
      have hdivisor : Value.divisor? (.char '/' :: (Text.ofChars (Nat.toDigits 10 x.den) ++ rest)) =
          some (Nat.toDigits 10 x.den, rest) :=
        Value.digits?_of_digits (isDigits_toDigits _) Nat.toDigits_ne_nil hrest.digits
      have hself : Scalar.ofFraction? x.num (Decimal.value (Nat.toDigits 10 x.den)) = some x := by
        show some (mkRat x.num _) = some x
        rw [Decimal.value_toDigits, Rat.mkRat_self]
      rw [Value.fractionOf?, hdivisor, Value.signedValue_toDigits]
      simp only [Option.bind_eq_bind, Option.bind_some, hself]
      rfl
    rw [htext, Value.readNumber_toString (Value.endsDigits_cons (by decide) _) ?_ ?_, hfraction]
    · exact fun h => absurd (Point.char.inj (Option.some.inj h)) (by decide)
    · refine Value.exponent?_none ?_ ?_ <;>
        exact fun h => absurd (Point.char.inj (Option.some.inj h)) (by decide)

/-- **Machine numbers are read back**: of a finite number the shortest decimal is written, and that
rounds to the number. -/
instance : Scalar.Legible Float where
  readNumber_written {x q} h {rest} hrest := by
    obtain ⟨negative, m, e, hx⟩ : ∃ negative m e, Binary.ofFloat x = .finite negative m e := by
      have hreading : (Binary.ofFloat x).reading = .finite q := h
      cases hx : Binary.ofFloat x with
      | finite negative m e => exact ⟨negative, m, e, rfl⟩
      | infinite negative => rw [hx] at hreading; cases hreading
      | undefined => rw [hx] at hreading; cases hreading
    obtain ⟨hm, hleast, hshape⟩ := Machine.canonical_of_ofFloat hx
    obtain ⟨d, hamount, hzero, hread⟩ :=
      Value.readNumber_compact (R := Float) negative (Decimal.shortest m e)
    have hnumber : Numeral.toFloat (.finite negative d) = x := by
      refine Machine.toFloat_eq hx ?_ fun hnone => hzero ?_
      · rw [hamount, Decimal.nearest_shortest hm hleast hshape]
      · rw [hnone]
        rfl
    have hwritten : Text.ofString (Scalar.written x) =
        Text.ofChars (Decimal.compact negative (Decimal.shortest m e)) := by
      have htext : Scalar.written x = Decimal.ofBinary (Binary.ofFloat x) := rfl
      rw [htext, hx, Decimal.ofBinary, Text.ofString, String.toList_ofList]
    rw [hwritten]
    exact hread (congrArg some hnumber) hrest

end Lamella
