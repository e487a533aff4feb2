import Lamella.Proofs.Result
import Lamella.Proofs.Value.Numbers

/-!
# Digits of integers that are read

An integer may be written in the digits of any script, with underscores between them, a sign and
zeros in front, but not with more digits than a limit. So an integer that was read can be written and
read again.

## Main statements

- `Value.digits_le_of_integerOfText`: integers that are read have no more digits than are read.
- `Metre.length_numerator_le`: nor have the metres that are read of texts.
-/

namespace Lamella

/-! ## §1 Rows of digits -/

namespace Decimal

/-- The value of digits is below the power of ten that has more of them. -/
theorem value_lt {ds : List Char} (hds : IsDigits ds) : value ds < 10 ^ ds.length := by
  induction ds using List.reverseRecOn with
  | nil => decide
  | append_singleton ds c ih =>
    have hc := hds c (by simp)
    have hrest := ih fun d hd => hds d (List.mem_append_left _ hd)
    obtain ⟨d, hd, rfl⟩ := exists_digitChar hc
    have hvalue : value [d.digitChar] = d := by
      have := Nat.toNat_digitChar_of_lt_ten hd
      simp [value, this]
    rw [value_append, hvalue, List.length_append, List.length_singleton, pow_add, pow_one]
    omega

/-- Underscores are dropped, and nothing is put in. -/
theorem dropUnderscores_sublist {s t : List Char} (h : dropUnderscores s = some t) :
    t.Sublist s := by
  fun_induction dropUnderscores s generalizing t with
  | case1 =>
    cases h
    exact .refl _
  | case2 => cases h
  | case3 =>
    cases h
    exact .refl _
  | case4 c d rest hdigits _ ih =>
    obtain ⟨t, ht, rfl⟩ := Option.map_eq_some_iff.mp h
    exact .cons_cons c ((ih ht).cons _)
  | case5 => cases h
  | case6 c d rest _ _ ih =>
    obtain ⟨t, ht, rfl⟩ := Option.map_eq_some_iff.mp h
    exact .cons_cons c (ih ht)

/-- Digits are those of some script. -/
theorem countP_plainDigits_le (s : List Char) :
    (plainDigits s).countP Char.isDigit ≤ s.countP fun c => (Text.digitValue? c).isSome := by
  induction s with
  | nil => exact Nat.le_refl 0
  | cons c s ih =>
    have hcons : plainDigits (c :: s) = plainDigits [c] ++ plainDigits s := rfl
    rw [hcons, List.countP_append, List.countP_cons, Nat.add_comm]
    refine Nat.add_le_add ih ?_
    cases hvalue : Text.digitValue? c with
    | some d =>
      exact List.countP_le_length
    | none =>
      have hc : c.isDigit = false := by
        by_contra hc
        obtain ⟨d, hd, rfl⟩ := exists_digitChar (Bool.eq_true_of_not_eq_false hc)
        rw [digitValue?_digitChar hd] at hvalue
        cases hvalue
      simp [plainDigits, hvalue, hc]

end Decimal

/-! ## §2 Integers of texts -/

theorem Text.trim_sublist {α : Type} (p : α → Bool) (s : List α) : (Text.trim p s).Sublist s := by
  rw [Text.trim]
  refine List.Sublist.trans ?_ (List.dropWhile_sublist p)
  rw [← List.reverse_sublist, List.reverse_reverse]
  exact List.dropWhile_sublist p

/-- A text of characters only is that text. -/
theorem Text.eq_ofChars {s : Text} {cs : List Char} (h : chars? s = some cs) : s = ofChars cs := by
  induction s generalizing cs with
  | nil =>
    cases h
    rfl
  | cons p s ih =>
    simp only [chars?, List.mapM_cons, Option.bind_eq_bind, Option.bind_eq_some_iff,
      Option.pure_def, Option.some.injEq] at h
    obtain ⟨c, hc, rest, hrest, rfl⟩ := h
    cases p with
    | half unit => cases hc
    | char c' =>
      cases hc
      rw [ih hrest]
      rfl

/-- **An integer that is read has no more digits than are read**, whatever script they are of. -/
theorem Value.digits_le_of_integerOfText {s : Text} {n : ℤ} (h : integerOfText s = .ok n) :
    (Nat.toDigits 10 n.natAbs).length ≤ Decimal.digitLimit := by
  unfold integerOfText at h
  split at h
  · rename_i m hm
    dsimp only at h
    split at h
    · cases h
    · rename_i hcount
      cases h
      obtain ⟨cs, hcs, hread⟩ := Option.bind_eq_some_iff.mp hm
      simp only [Decimal.integer?, Decimal.normalized?, Decimal.plainInteger?, Option.bind_eq_bind,
        Option.bind_eq_some_iff, Option.pure_def, Option.some.injEq, Option.guard_eq_some'] at hread
      obtain ⟨t, ht, -, hdigits, rfl⟩ := hread
      rw [Bool.and_eq_true, decide_eq_true_iff, List.all_eq_true] at hdigits
      obtain ⟨hsome, hdigits⟩ := hdigits
      set ds := (Decimal.sign t).2 with hds
      -- The digits that are read are among those of the text
      have hsign : ds.Sublist t := by
        rw [hds]
        unfold Decimal.sign
        split
        · exact List.sublist_cons_self _ _
        · exact List.sublist_cons_self _ _
        · exact .refl _
      have hlength : ds.length ≤ Decimal.digitLimit := by
        calc ds.length
            = ds.countP Char.isDigit := (List.countP_eq_length.mpr hdigits).symm
          _ ≤ (Decimal.plainDigits (Text.trim Text.isNumberBlank cs)).countP Char.isDigit :=
              (hsign.trans (Decimal.dropUnderscores_sublist ht)).countP_le
          _ ≤ (Text.trim Text.isNumberBlank cs).countP fun c => (Text.digitValue? c).isSome :=
              Decimal.countP_plainDigits_le _
          _ ≤ cs.countP fun c => (Text.digitValue? c).isSome :=
              (Text.trim_sublist _ cs).countP_le
          _ = Text.digitCount s := by
              rw [Text.eq_ofChars hcs, Text.digitCount, Text.ofChars, List.countP_map]
              rfl
          _ ≤ Decimal.digitLimit := Nat.not_lt.mp hcount
      have hvalue : (if (Decimal.sign t).1 = true then -(Decimal.value ds : ℤ)
          else Decimal.value ds).natAbs = Decimal.value ds := by
        split <;> simp
      rw [hvalue, Nat.length_toDigits_le_iff (by norm_num) (by decide)]
      exact lt_of_lt_of_le (Decimal.value_lt hdigits) (Nat.pow_le_pow_right (by norm_num) hlength)
  · cases h

/-- The numerator of a metre that is read has no more digits than are read. -/
theorem Metre.length_numerator_le {R : Type} [Scalar R] {s : Text} {m : Metre}
    (h : ofValue (.str s : Value R) = .ok m) : (toString m.numerator).length ≤ Decimal.digitLimit := by
  unfold ofValue at h
  dsimp only at h
  split at h
  · split at h
    · rename_i n d hn hd
      obtain ⟨m', hmetre, rfl⟩ : ∃ m', ofNumbers n d = .ok m' ∧ m' = m :=
        ⟨m, Except.mapError_eq_ok.mp h, rfl⟩
      have hnumerator : m'.numerator = n := by
        unfold ofNumbers at hmetre
        split_ifs at hmetre
        cases hmetre
        rfl
      have hdigits := Value.digits_le_of_integerOfText hn
      rw [← hnumerator] at hdigits
      obtain ⟨k, hk⟩ := Int.eq_ofNat_of_zero_le (le_trans Int.one_nonneg m'.numerator_pos)
      rw [hk, Int.natAbs_natCast, ← Nat.toList_repr, String.length_toList] at hdigits
      rw [hk]
      exact hdigits
    · cases h
  · cases h

end Lamella
