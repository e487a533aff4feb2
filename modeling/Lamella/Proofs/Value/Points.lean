import Lamella.Proofs.Value.Exchange

/-!
# Points of written values

What is written of a value are the points of its texts and numbers, and marks between them. So a
written value has no half of a pair just if none of its texts has one, and as controls in texts are
escaped, it has no carriage return.

## Main statements

- `Value.forall_write_list`, `Value.forall_write_object`: what is written of lists and objects.
- `Value.forall_writtenText`: a written text has halves just if the text does.
- `Value.unifyLineEnds_toText`: line ends of a written value are line feeds.
-/

namespace Lamella

/-- Characters that are all different from one, as a test of the list finds. -/
theorem forall_ne_of_all {cs : List Char} {c : Char} (h : (cs.all fun d => d != c) = true) :
    ∀ d ∈ cs, d ≠ c := by
  simpa using h

namespace Value

variable {R : Type} [Scalar R]

/-- The marks that lists and objects are written with. -/
def marks : List Char := ['[', ']', '\x7b', '\x7d', ',', ':', ' ', '\n']

/-! ## §1 Lists and objects -/

section

variable {P : Point → Prop} (hmarks : ∀ c ∈ marks, P (.char c))

include hmarks

theorem forall_colon : ∀ p ∈ Text.ofString ": ", P p := by
  rw [show Text.ofString ": " = [.char ':', .char ' '] by decide]
  exact List.forall_mem_cons.mpr ⟨hmarks _ (by decide),
    List.forall_mem_singleton.mpr (hmarks _ (by decide))⟩

theorem forall_newLine (level : ℕ) : ∀ p ∈ Text.ofString (newLine level), P p := by
  rw [newLine, Text.ofString, String.toList_ofList, Text.ofChars]
  refine List.forall_mem_map.mpr (List.forall_mem_cons.mpr ⟨hmarks _ (by decide), fun c hc => ?_⟩)
  rw [List.eq_of_mem_replicate hc]
  exact hmarks _ (by decide)

theorem forall_writeItems (level : ℕ) (items : List (Value R)) :
    (∀ p ∈ writeItems level items, P p) ↔ ∀ v ∈ items, ∀ p ∈ write level v, P p := by
  have hline := forall_newLine hmarks level
  have hcomma : ∀ p ∈ Text.ofString ",", P p := List.forall_mem_singleton.mpr (hmarks ',' (by decide))
  induction items with
  | nil =>
    rw [writeItems]
    exact iff_of_true (List.forall_mem_nil _) (List.forall_mem_nil _)
  | cons v items ih =>
    simp only [writeItems, List.forall_mem_append, List.forall_mem_cons]
    tauto

theorem forall_writeFields (level : ℕ) (fields : List (Text × Value R)) :
    (∀ p ∈ writeFields level fields, P p) ↔ ∀ field ∈ fields,
      (∀ p ∈ writtenText field.1, P p) ∧ ∀ p ∈ write level field.2, P p := by
  have hline := forall_newLine hmarks level
  have hcomma : ∀ p ∈ Text.ofString ",", P p := List.forall_mem_singleton.mpr (hmarks ',' (by decide))
  have hcolon := forall_colon hmarks
  induction fields with
  | nil =>
    rw [writeFields]
    exact iff_of_true (List.forall_mem_nil _) (List.forall_mem_nil _)
  | cons field fields ih =>
    obtain ⟨name, v⟩ := field
    simp only [writeFields, List.forall_mem_append, List.forall_mem_cons]
    tauto

/-- What is written of a list is what is written of its items, and marks. -/
theorem forall_write_list (level : ℕ) (items : List (Value R)) :
    (∀ p ∈ write level (.list items), P p) ↔ ∀ v ∈ items, ∀ p ∈ write (level + 1) v, P p := by
  have hopen : ∀ p ∈ Text.ofString "[", P p := List.forall_mem_singleton.mpr (hmarks '[' (by decide))
  have hclose : ∀ p ∈ Text.ofString "]", P p := List.forall_mem_singleton.mpr (hmarks ']' (by decide))
  have hline := forall_newLine hmarks
  cases items with
  | nil =>
    rw [write]
    refine iff_of_true ?_ (List.forall_mem_nil _)
    rw [show Text.ofString "[]" = Text.ofString "[" ++ Text.ofString "]" by decide]
    exact List.forall_mem_append.mpr ⟨hopen, hclose⟩
  | cons v items =>
    have hitems := forall_writeItems hmarks (level + 1) items
    simp only [write, List.forall_mem_append, List.forall_mem_cons]
    tauto

/-- What is written of an object is what is written of its names and values, and marks. -/
theorem forall_write_object (level : ℕ) (fields : List (Text × Value R)) :
    (∀ p ∈ write level (.object fields), P p) ↔ ∀ field ∈ fields,
      (∀ p ∈ writtenText field.1, P p) ∧ ∀ p ∈ write (level + 1) field.2, P p := by
  have hopen : ∀ p ∈ Text.ofString "\x7b", P p :=
    List.forall_mem_singleton.mpr (hmarks '\x7b' (by decide))
  have hclose : ∀ p ∈ Text.ofString "\x7d", P p :=
    List.forall_mem_singleton.mpr (hmarks '\x7d' (by decide))
  have hcolon := forall_colon hmarks
  have hline := forall_newLine hmarks
  cases fields with
  | nil =>
    rw [write]
    refine iff_of_true ?_ (List.forall_mem_nil _)
    rw [show Text.ofString "\x7b\x7d" = Text.ofString "\x7b" ++ Text.ofString "\x7d" by decide]
    exact List.forall_mem_append.mpr ⟨hopen, hclose⟩
  | cons field fields =>
    obtain ⟨name, v⟩ := field
    have hfields := forall_writeFields hmarks (level + 1) fields
    simp only [write, List.forall_mem_append, List.forall_mem_cons]
    tauto

end

/-! ## §2 Halves -/

theorem not_half_ofString (s : String) : ∀ p ∈ Text.ofString s, p.isHalf = false :=
  List.forall_mem_map.mpr fun _ _ => rfl

/-- A text is written with a half just if it has one. -/
theorem forall_writtenText (s : Text) :
    (∀ p ∈ writtenText s, p.isHalf = false) ↔ ∀ p ∈ s, p.isHalf = false := by
  have hpoint (p : Point) : (∀ q ∈ writtenPoint p, q.isHalf = false) ↔ p.isHalf = false := by
    cases p with
    | char c => exact iff_of_true (List.forall_mem_map.mpr fun _ _ => rfl) rfl
    | half unit => exact List.forall_mem_singleton
  have hquote := not_half_ofString "\""
  rw [writtenText, List.forall_mem_append, List.forall_mem_append]
  simp only [List.forall_mem_flatMap, hpoint]
  tauto

/-- Numbers are written without halves. -/
theorem not_half_write_int (level : ℕ) (n : Int) :
    ∀ p ∈ write level (.int n : Value R), p.isHalf = false := by
  rw [write]
  exact not_half_ofString _

theorem not_half_write_num (level : ℕ) (x : R) : ∀ p ∈ write level (.num x), p.isHalf = false := by
  rw [write]
  exact not_half_ofString _

/-- A record is written with halves just if one of its values is. -/
theorem not_half_write_record (level : ℕ) (fields : List (String × Value R)) :
    (∀ p ∈ write level (.record fields), p.isHalf = false) ↔
      ∀ field ∈ fields, ∀ p ∈ write (level + 1) field.2, p.isHalf = false := by
  rw [record, forall_write_object fun _ _ => rfl]
  constructor
  · intro h field hfield
    exact (h _ (List.mem_map_of_mem hfield)).2
  · intro h
    refine List.forall_mem_map.mpr fun field hfield => ⟨?_, h field hfield⟩
    exact (forall_writtenText _).mpr (not_half_ofString field.1)

/-! ## §3 Texts without carriage returns -/

/-- A text without carriage returns has line feeds only. -/
theorem unifyLineEnds_eq_self {s : Text} (h : ∀ p ∈ s, p ≠ .char '\r') : Text.unifyLineEnds s = s := by
  induction s with
  | nil => rfl
  | cons p s ih =>
    obtain ⟨hp, hs⟩ := List.forall_mem_cons.mp h
    rw [Text.unifyLineEnds.eq_def]
    split
    · rename_i heq
      cases heq
    · rename_i heq
      exact absurd (List.cons.inj heq).1 hp
    · rename_i heq
      obtain ⟨rfl, rfl⟩ := List.cons.inj heq
      rw [if_neg hp, ih hs]

/-- A written text has no carriage return, since controls are escaped. -/
theorem writtenText_ne_return (s : Text) : ∀ p ∈ writtenText s, p ≠ .char '\r' := by
  have hchar (c : Char) : ∀ d ∈ writtenChar c, d ≠ '\r' := by
    unfold writtenChar
    split_ifs with hslash hfeed hreturn htab hback hpage hcontrol
    · rcases hslash with rfl | rfl <;> exact forall_ne_of_all (by decide)
    · exact forall_ne_of_all (by decide)
    · exact forall_ne_of_all (by decide)
    · exact forall_ne_of_all (by decide)
    · exact forall_ne_of_all (by decide)
    · exact forall_ne_of_all (by decide)
    · -- Of a control only its number is left, which is written in letters and digits
      generalize c.toNat = n at hcontrol
      interval_cases n <;> exact forall_ne_of_all (by decide)
    · exact List.forall_mem_singleton.mpr hreturn
  have hquote : ∀ p ∈ Text.ofString "\"", p ≠ .char '\r' := by decide
  rw [writtenText, List.forall_mem_append, List.forall_mem_append, List.forall_mem_flatMap]
  refine ⟨⟨hquote, fun p _ => ?_⟩, hquote⟩
  cases p with
  | char c =>
    refine List.forall_mem_map.mpr fun d hd h => ?_
    exact hchar c d hd (Point.char.inj h)
  | half unit => exact List.forall_mem_singleton.mpr fun h => Point.noConfusion h

/-- Digits and signs are no carriage returns. -/
theorem toString_ne_return (n : ℤ) : ∀ p ∈ Text.ofString (toString n), p ≠ .char '\r' := by
  have hdigits : ∀ c ∈ Nat.toDigits 10 n.natAbs, c ≠ '\r' := by
    rintro c hc rfl
    exact absurd (isDigits_toDigits _ _ hc) (by decide)
  rw [ofString_toString_int]
  refine List.forall_mem_map.mpr fun c hc h => ?_
  unfold Decimal.signed at hc
  split at hc
  · rcases List.mem_cons.mp hc with rfl | hc
    · exact absurd (Point.char.inj h) (by decide)
    · exact hdigits c hc (Point.char.inj h)
  · exact hdigits c hc (Point.char.inj h)

/-! ## §4 Numbers without carriage returns -/

/-- What is read over in front of a rest has no carriage return. -/
def ReadsOver (s rest : Text) : Prop := ∃ front, s = front ++ rest ∧ ∀ p ∈ front, p ≠ .char '\r'

theorem ReadsOver.refl (s : Text) : ReadsOver s s := ⟨[], rfl, nofun⟩

theorem ReadsOver.cons {s rest : Text} (h : ReadsOver s rest) {p : Point} (hp : p ≠ .char '\r') :
    ReadsOver (p :: s) rest := by
  obtain ⟨front, rfl, hfront⟩ := h
  exact ⟨p :: front, rfl, List.forall_mem_cons.mpr ⟨hp, hfront⟩⟩

theorem ReadsOver.trans {s between rest : Text} (h : ReadsOver s between)
    (h' : ReadsOver between rest) : ReadsOver s rest := by
  obtain ⟨front, rfl, hfront⟩ := h
  obtain ⟨front', rfl, hfront'⟩ := h'
  exact ⟨front ++ front', by rw [List.append_assoc],
    List.forall_mem_append.mpr ⟨hfront, hfront'⟩⟩

theorem readsOver_digits {s : Text} {ds : List Char} {rest : Text} (h : digits? s = some (ds, rest)) :
    ReadsOver s rest := by
  have hpoint {c : Char} (hc : c.isDigit = true) : Point.char c ≠ .char '\r' := by
    intro heq
    obtain rfl := Point.char.inj heq
    cases hc
  fun_induction digits? s generalizing ds with
  | case1 c tail hc ds' rest' hread ih =>
    cases h
    exact (ih hread).cons (hpoint hc)
  | case2 c tail hc hread =>
    cases h
    exact (ReadsOver.refl _).cons (hpoint hc)
  | case3 => cases h
  | case4 => cases h

theorem readsOver_whole {s : Text} {ds : List Char} {rest : Text}
    (h : wholePart? s = some (ds, rest)) : ReadsOver s rest := by
  unfold wholePart? at h
  split at h
  · cases h
    exact (ReadsOver.refl _).cons (by decide)
  · exact readsOver_digits h

theorem readsOver_fraction {s : Text} {ds : List Char} {rest : Text}
    (h : fraction? s = some (ds, rest)) : ReadsOver s rest := by
  unfold fraction? at h
  split at h
  · exact (readsOver_digits h).cons (by decide)
  · cases h

theorem readsOver_sign (s : Text) : ReadsOver s (sign s).2 := by
  unfold sign
  split
  · exact (ReadsOver.refl _).cons (by decide)
  · exact (ReadsOver.refl _).cons (by decide)
  · exact .refl _

theorem readsOver_exponent {s : Text} {e : ℤ} {rest : Text} (h : exponent? s = some (e, rest)) :
    ReadsOver s rest := by
  unfold exponent? at h
  split at h
  · split at h
    · rename_i hc
      obtain ⟨⟨ds, after⟩, hread, hafter⟩ := Option.map_eq_some_iff.mp h
      cases hafter
      refine ((readsOver_sign _).trans (readsOver_digits hread)).cons ?_
      rcases hc with rfl | rfl <;> decide
    · cases h
  · cases h

theorem readsOver_divided {negative : Bool} {ds : List Char} {s rest : Text} {x : R}
    (h : fractionOf? negative ds s = some (x, rest)) : ReadsOver s rest := by
  simp only [fractionOf?, Option.bind_eq_bind, Option.bind_eq_some_iff, Option.pure_def,
    Option.some.injEq, Prod.mk.injEq] at h
  obtain ⟨⟨below, after⟩, hdivisor, y, -, -, rfl⟩ := h
  unfold divisor? at hdivisor
  split at hdivisor
  · exact (readsOver_digits hdivisor).cons (by decide)
  · cases hdivisor

theorem readsOver_unsigned {negative : Bool} {s rest : Text} {v : Value R}
    (h : readUnsigned negative s = .ok (v, rest)) : ReadsOver s rest := by
  unfold readUnsigned at h
  split at h
  · cases h
  · rename_i whole after hwhole
    refine (readsOver_whole hwhole).trans ?_
    dsimp only at h
    cases hfraction : fraction? after with
    | none =>
      rw [hfraction] at h
      cases hpower : exponent? after with
      | none =>
        -- Neither fraction nor exponent: digits alone, or digits above a divisor
        simp only [Option.elim_none, hpower] at h
        split at h
        · rename_i hdivided
          cases h
          exact readsOver_divided hdivided
        · split at h
          · cases h
          · cases h
            exact .refl _
      | some power =>
        simp only [Option.elim_none, hpower] at h
        split at h
        · cases h
          exact readsOver_exponent hpower
        · cases h
    | some fraction =>
      rw [hfraction] at h
      refine (readsOver_fraction hfraction).trans ?_
      cases hpower : exponent? fraction.2 with
      | none =>
        simp only [Option.elim_some, hpower] at h
        split at h
        · cases h
          exact .refl _
        · cases h
      | some power =>
        simp only [Option.elim_some, hpower] at h
        split at h
        · cases h
          exact readsOver_exponent hpower
        · cases h

/-- What is read as a number has no carriage return. -/
theorem readsOver_number {s rest : Text} {v : Value R} (h : readNumber s = .ok (v, rest)) :
    ReadsOver s rest := by
  unfold readNumber at h
  split at h
  · exact (readsOver_unsigned h).cons (by decide)
  · exact readsOver_unsigned h

/-- A scalar is written without carriage returns, as it is read back or has a name. -/
theorem writtenScalar_ne_return [Scalar.Legible R] (x : R) :
    ∀ p ∈ Text.ofString (writtenScalar x), p ≠ .char '\r' := by
  have hname (name : String) (h : '\r' ∉ name.toList) :
      ∀ p ∈ Text.ofString name, p ≠ .char '\r' := by
    refine List.forall_mem_map.mpr fun c hc heq => ?_
    obtain rfl := Point.char.inj heq
    exact h hc
  unfold writtenScalar
  cases hreading : Scalar.reading x with
  | finite q =>
    have hread : readNumber (Text.ofString (Scalar.written x) ++ []) = .ok (.num x, []) :=
      Scalar.Legible.readNumber_written hreading nofun
    rw [List.append_nil] at hread
    obtain ⟨front, hfront, hplain⟩ := readsOver_number hread
    rw [hfront, List.append_nil]
    exact hplain
  | infinite negative =>
    cases negative with
    | true => exact hname "-Infinity" (by decide)
    | false => exact hname "Infinity" (by decide)
  | undefined => exact hname "NaN" (by decide)

/-! ## §5 Line ends -/

/-- **A written value has no carriage return.** -/
theorem write_ne_return [Scalar.Legible R] (v : Value R) (level : ℕ) : ∀ p ∈ write level v, p ≠ .char '\r' := by
  have hmarks : ∀ c ∈ marks, Point.char c ≠ .char '\r' :=
    fun c hc h => forall_ne_of_all (by decide) c hc (Point.char.inj h)
  match v with
  | .null =>
    rw [write]
    decide
  | .bool b =>
    rw [write]
    cases b <;> decide
  | .int n =>
    rw [write]
    exact toString_ne_return n
  | .num x =>
    rw [write]
    exact writtenScalar_ne_return x
  | .str s =>
    rw [write]
    exact writtenText_ne_return s
  | .list items =>
    exact (forall_write_list hmarks level items).mpr fun v _ => write_ne_return v (level + 1)
  | .object fields =>
    refine (forall_write_object hmarks level fields).mpr fun field hfield => ?_
    have hsmaller : sizeOf field.2 < sizeOf field := by
      obtain ⟨name, v⟩ := field
      rw [Prod.mk.sizeOf_spec]
      dsimp only
      omega
    have hfields := List.sizeOf_lt_of_mem hfield
    exact ⟨writtenText_ne_return field.1, write_ne_return field.2 (level + 1)⟩
termination_by sizeOf v

/-- **Line ends of a written value are line feeds.** -/
theorem unifyLineEnds_toText [Scalar.Legible R] (v : Value R) : Text.unifyLineEnds v.toText = v.toText :=
  unifyLineEnds_eq_self (write_ne_return v 0)

end Value

end Lamella
