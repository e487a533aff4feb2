import Lamella.Proofs.Scalar.Division
import Lamella.Scalar

/-!
# Orderly scalars

Machine numbers round, overflow and have a value that is no number, so that they obey few laws of
arithmetic. The laws that they share with exact numbers, in the order of scalars and its dealings
with sums and differences, are enough to tell how the tests of a session relate.

## Main definitions

- `Scalar.Orderly`: the class of scalar types with these laws.
- `Scalar.Comparable`: those of which any two numbers compare.
- `Scalar.Ranked`: those whose two comparisons tell the same.

## Main statements

- Exact numbers and machine numbers are orderly, comparable and ranked.
-/

namespace Lamella

/-- Scalars whose order survives rounding. A scalar that is no number compares with nothing, so each
law that speaks of a comparison speaks of numbers. -/
class Scalar.Orderly (R : Type) [Scalar R] : Prop where
  le_trans {a b c : R} : a ≤ b → b ≤ c → a ≤ c
  lt_of_le_of_lt {a b c : R} : a ≤ b → b < c → a < c
  lt_of_lt_of_le {a b c : R} : a < b → b ≤ c → a < c
  not_lt_of_le {a b : R} : a ≤ b → ¬ b < a
  le_refl_of_lt_sub {w a c : R} : w < a - c → a ≤ a ∧ c ≤ c
  exists_lt_of_lt_sub {w a c : R} : w < a - c → ∃ z, z < a
  sub_le_sub {w a b c d : R} : w < a - c → a ≤ b → d ≤ c → a - c ≤ b - d
  not_lt_sub_of_add_lt {a w t : R} : ¬ w < Scalar.ofInt 0 → a + w < t → ¬ w < a - t
  not_milli_neg {h : R} : ¬ h ≤ Scalar.ofInt 0 → ¬ h / 1000.0 < Scalar.ofInt 0
  le_of_le_mul {d h q : R} : ¬ h ≤ Scalar.ofInt 0 → q ≤ Scalar.ofInt 1 → d ≤ h * q → d ≤ h

/-- What lies below a difference lies below each larger one. -/
theorem Scalar.lt_sub_of_le {R : Type} [Scalar R] [Scalar.Orderly R] {w a b c d : R}
    (h : w < a - c) (hab : a ≤ b) (hdc : d ≤ c) : w < b - d :=
  Orderly.lt_of_lt_of_le h (Orderly.sub_le_sub h hab hdc)

/-! ## §1 Exact numbers -/

instance : Scalar.Orderly Rat where
  le_trans hab hbc := hab.trans hbc
  lt_of_le_of_lt hab hbc := hab.trans_lt hbc
  lt_of_lt_of_le hab hbc := hab.trans_le hbc
  not_lt_of_le := not_lt.mpr
  le_refl_of_lt_sub _ := ⟨le_rfl, le_rfl⟩
  exists_lt_of_lt_sub {_ a _} _ := ⟨a - 1, by linarith⟩
  sub_le_sub {_ a b c d} _ hab hdc := by
    have hab' : a ≤ b := hab
    have hdc' : d ≤ c := hdc
    linarith
  not_lt_sub_of_add_lt {a w t} hw h h' := by
    have hw0 : 0 ≤ w := not_lt.mp hw
    linarith
  not_milli_neg {h} hh := by
    have hpos : 0 < h := not_le.mp hh
    exact not_lt.mpr (div_pos hpos (by norm_num)).le
  le_of_le_mul {d h q} hh hq hd := by
    have hpos : 0 < h := not_le.mp hh
    have hq1 : q ≤ 1 := hq
    exact hd.trans (mul_le_of_le_one_right hpos.le hq1)

/-! ## §2 Machine numbers -/

namespace Machine

open Float.Model (Format UnpackedFloat)
open Float.Model.UnpackedFloat

/-- A machine number taken apart. -/
def view (x : Float) : UnpackedFloat := x.toModel.unpack

/-- Whether a machine number is a number. -/
def IsNumber (x : Float) : Prop := view x ≠ .notANumber

/-- The exact value of a machine number. -/
def val (x : Float) : ℚ := value (view x)

theorem view_canonical (x : Float) : Canonical (view x) ∧ Fits (view x) := unpack_canonical _

theorem view_sub (a b : Float) : view (a - b) =
    unpack Format.binary64 (pack Format.binary64 (sub Format.binary64 (view a) (view b))) := rfl

theorem view_add (a b : Float) : view (a + b) =
    unpack Format.binary64 (pack Format.binary64 (add Format.binary64 (view a) (view b))) := rfl

theorem view_mul (a b : Float) : view (a * b) =
    unpack Format.binary64 (pack Format.binary64 (mul Format.binary64 (view a) (view b))) := rfl

theorem view_div (a b : Float) : view (a / b) =
    unpack Format.binary64 (pack Format.binary64 (div Format.binary64 (view a) (view b))) := rfl

/-- Digits make a number, with their value. -/
theorem number_of_view {x : Float} {s : Sign} {m : ℕ} {e : ℤ} {hm : 0 < m}
    (h : view x = .finite s m e hm) : IsNumber x ∧ val x = (s.apply m : ℤ) * 2 ^ e := by
  constructor
  · intro hnone
    rw [h] at hnone
    cases hnone
  · rw [val, h]
    rfl

/-- Machine numbers compare as their values do, if they are numbers. -/
theorem compare_view (a b : Float) : (¬ (IsNumber a ∧ IsNumber b) ∧
      UnpackedFloat.compare (view a) (view b) = none) ∨
    ((IsNumber a ∧ IsNumber b) ∧
      UnpackedFloat.compare (view a) (view b) = some (compare (val a) (val b))) := by
  by_cases ha : view a = .notANumber
  · refine .inl ⟨fun h => h.1 ha, ?_⟩
    rw [ha]
    rfl
  by_cases hb : view b = .notANumber
  · refine .inl ⟨fun h => h.2 hb, ?_⟩
    rw [hb]
    cases view a <;> rfl
  · obtain ⟨hca, hfa⟩ := view_canonical a
    obtain ⟨hcb, hfb⟩ := view_canonical b
    exact .inr ⟨⟨ha, hb⟩, compare_eq hca hcb hfa hfb ha hb⟩

theorem lt_iff {a b : Float} : a < b ↔ IsNumber a ∧ IsNumber b ∧ val a < val b := by
  have hlt : a < b ↔ UnpackedFloat.lt (view a) (view b) = true := decide_eq_true_iff
  rw [hlt, UnpackedFloat.lt]
  rcases compare_view a b with ⟨hnone, hcompare⟩ | ⟨⟨ha, hb⟩, hcompare⟩
  · rw [hcompare]
    exact ⟨fun h => (by cases h), fun h => absurd ⟨h.1, h.2.1⟩ hnone⟩
  · rw [hcompare, beq_iff_eq, Option.some.injEq, compare_lt_iff_lt]
    exact ⟨fun h => ⟨ha, hb, h⟩, fun h => h.2.2⟩

theorem le_iff {a b : Float} : a ≤ b ↔ IsNumber a ∧ IsNumber b ∧ val a ≤ val b := by
  have hle : a ≤ b ↔ UnpackedFloat.le (view a) (view b) = true := decide_eq_true_iff
  rw [hle, UnpackedFloat.le]
  rcases compare_view a b with ⟨hnone, hcompare⟩ | ⟨⟨ha, hb⟩, hcompare⟩
  · rw [hcompare]
    exact ⟨fun h => (by cases h), fun h => absurd ⟨h.1, h.2.1⟩ hnone⟩
  · rw [hcompare, Option.any_some, ← compare_le_iff_le, Ordering.isLE_iff_ne_gt]
    exact ⟨fun h => ⟨ha, hb, h⟩, fun h => h.2.2⟩

/-- The value of a machine number is that of an infinity, or below the limit. -/
theorem val_cases {a : Float} (ha : IsNumber a) :
    (view a = .infinity .positive ∧ val a = beyond) ∨
    (view a = .infinity .negative ∧ val a = -beyond) ∨
    ((view a).isFinite = true ∧ |val a| < limit) := by
  obtain ⟨hcanonical, hfits⟩ := view_canonical a
  have hfinite := fun h => abs_value_lt hcanonical hfits h
  unfold val
  cases hview : view a with
  | notANumber => exact absurd hview ha
  | infinity s =>
    cases s
    · exact .inr (.inl ⟨rfl, value_negative⟩)
    · exact .inl ⟨rfl, value_positive⟩
  | zero s =>
    rw [hview] at hfinite
    exact .inr (.inr ⟨rfl, hfinite rfl⟩)
  | finite s m e hm =>
    rw [hview] at hfinite
    exact .inr (.inr ⟨rfl, hfinite rfl⟩)

theorem abs_val_le {a : Float} (ha : IsNumber a) : |val a| ≤ beyond := by
  have hpos := limit_pos
  have hbeyond := beyond_eq
  rcases val_cases ha with ⟨-, h⟩ | ⟨-, h⟩ | ⟨-, h⟩
  · rw [h, abs_of_pos (by linarith)]
  · rw [h, abs_neg, abs_of_pos (by linarith)]
  · linarith

/-- A machine number is its own nearest. -/
theorem clamp_val {a : Float} (ha : IsNumber a) : clamp (nearest (val a)) = val a := by
  have hpos := limit_pos
  have hbeyond := beyond_eq
  rw [val, nearest_value (view_canonical a).1]
  rcases val_cases ha with ⟨-, h⟩ | ⟨-, h⟩ | ⟨-, h⟩
  · rw [val] at h
    rw [h, clamp, if_pos (by linarith)]
  · rw [val] at h
    rw [h, clamp, if_neg (by linarith), if_pos (by linarith)]
  · exact clamp_of_abs_lt h

/-! ## §3 Sums and differences of machine numbers -/

theorem unpack_pack_infinity (s : Sign) :
    unpack Format.binary64 (pack Format.binary64 (.infinity s)) = .infinity s := by
  cases s <;> rfl

/-- What an operation makes of anything that is no number is no number. -/
theorem isNumber_operands {op : UnpackedFloat → UnpackedFloat → UnpackedFloat}
    (hleft : ∀ u, op .notANumber u = .notANumber) (hright : ∀ u, op u .notANumber = .notANumber)
    {x a b : Float}
    (hview : view x = unpack Format.binary64 (pack Format.binary64 (op (view a) (view b))))
    (h : IsNumber x) : op (view a) (view b) ≠ .notANumber ∧ IsNumber a ∧ IsNumber b := by
  have hresult : op (view a) (view b) ≠ .notANumber := fun hnone => by
    rw [hnone] at hview
    exact h hview
  refine ⟨hresult, fun ha => hresult ?_, fun hb => hresult ?_⟩
  · rw [ha, hleft]
  · rw [hb, hright]

theorem isNumber_of_add {a b : Float} (h : IsNumber (a + b)) : IsNumber a ∧ IsNumber b :=
  (isNumber_operands (fun _ => rfl) (fun u => by cases u <;> rfl) (view_add a b) h).2

theorem isNumber_of_mul {a b : Float} (h : IsNumber (a * b)) : IsNumber a ∧ IsNumber b :=
  (isNumber_operands (fun _ => rfl) (fun u => by cases u <;> rfl) (view_mul a b) h).2

theorem isNumber_of_div {a b : Float} (h : IsNumber (a / b)) : IsNumber a ∧ IsNumber b :=
  (isNumber_operands (fun _ => rfl) (fun u => by cases u <;> rfl) (view_div a b) h).2

section

variable {a b : Float}

/-- Of an infinity and a number that is none, sums and differences keep the infinity. -/
theorem add_infinity_left (s : Sign) {u : UnpackedFloat} (hu : u.isFinite = true) :
    add Format.binary64 (.infinity s) u = .infinity s ∧
      sub Format.binary64 (.infinity s) u = .infinity s := by
  cases u with
  | zero t => exact ⟨rfl, rfl⟩
  | finite t n f hn => exact ⟨rfl, rfl⟩
  | _ => cases hu

theorem add_infinity_right (s : Sign) {u : UnpackedFloat} (hu : u.isFinite = true) :
    add Format.binary64 u (.infinity s) = .infinity s ∧
      sub Format.binary64 u (.infinity s) = .infinity (-s) := by
  cases u with
  | zero t => exact ⟨rfl, rfl⟩
  | finite t n f hn => exact ⟨rfl, rfl⟩
  | _ => cases hu

/-- **A difference of machine numbers** is the exact difference, rounded and put into their range,
unless it is one of two infinities on one side. -/
theorem val_sub (ha : IsNumber a) (hb : IsNumber b) (habove : ¬ (val a = beyond ∧ val b = beyond))
    (hbelow : ¬ (val a = -beyond ∧ val b = -beyond)) :
    IsNumber (a - b) ∧ val (a - b) = clamp (nearest (val a - val b)) := by
  have hpos := limit_pos
  have hbeyond := beyond_eq
  -- With an infinity among the operands the difference is one, as is the exact difference
  have hinfinite : ∀ s, sub Format.binary64 (view a) (view b) = .infinity s →
      IsNumber (a - b) ∧ val (a - b) = value (.infinity s) := by
    intro s hs
    have hview : view (a - b) = .infinity s := by rw [view_sub, hs, unpack_pack_infinity]
    exact ⟨by rw [IsNumber, hview]; exact nofun, by rw [val, hview]⟩
  rcases val_cases ha with ⟨hva, h⟩ | ⟨hva, h⟩ | ⟨hfa, h⟩ <;>
    rcases val_cases hb with ⟨hvb, h'⟩ | ⟨hvb, h'⟩ | ⟨hfb, h'⟩
  · -- Two infinities above: excluded
    exact absurd ⟨h, h'⟩ habove
  · obtain ⟨hnumber, hval⟩ := hinfinite .positive (by rw [hva, hvb]; rfl)
    exact ⟨hnumber, by rw [hval, h, h', value_positive, clamp_of_far (by linarith)]⟩
  · obtain ⟨hnumber, hval⟩ := hinfinite .positive (by rw [hva, (add_infinity_left _ hfb).2])
    have := (abs_lt.mp h').2
    exact ⟨hnumber, by rw [hval, h, value_positive, clamp_of_far (by linarith)]⟩
  · obtain ⟨hnumber, hval⟩ := hinfinite .negative (by rw [hva, hvb]; rfl)
    exact ⟨hnumber, by rw [hval, h, h', value_negative, clamp_of_far_below (by linarith)]⟩
  · -- Two infinities below: excluded
    exact absurd ⟨h, h'⟩ hbelow
  · obtain ⟨hnumber, hval⟩ := hinfinite .negative (by rw [hva, (add_infinity_left _ hfb).2])
    have := (abs_lt.mp h').1
    exact ⟨hnumber, by rw [hval, h, value_negative, clamp_of_far_below (by linarith)]⟩
  · obtain ⟨hnumber, hval⟩ := hinfinite .negative (by rw [hvb, (add_infinity_right _ hfa).2]; rfl)
    have := (abs_lt.mp h).2
    exact ⟨hnumber, by rw [hval, h', value_negative, clamp_of_far_below (by linarith)]⟩
  · obtain ⟨hnumber, hval⟩ := hinfinite .positive (by rw [hvb, (add_infinity_right _ hfa).2]; rfl)
    have := (abs_lt.mp h).1
    exact ⟨hnumber, by rw [hval, h', value_positive, clamp_of_far (by linarith)]⟩
  · -- Both are finite
    have hpacked := (sub_rounds (view_canonical a).1 (view_canonical b).1 hfa hfb).packed
    rwa [← view_sub] at hpacked

/-- What has a difference that is a number: two numbers, not infinities on one side. -/
theorem isNumber_of_sub (h : IsNumber (a - b)) :
    IsNumber a ∧ IsNumber b ∧ ¬ (val a = beyond ∧ val b = beyond) ∧
      ¬ (val a = -beyond ∧ val b = -beyond) := by
  have hpos := limit_pos
  have hbeyond := beyond_eq
  obtain ⟨hnone, ha, hb⟩ :=
    isNumber_operands (fun _ => rfl) (fun u => by cases u <;> rfl) (view_sub a b) h
  refine ⟨ha, hb, fun ⟨hva, hvb⟩ => ?_, fun ⟨hva, hvb⟩ => ?_⟩
  · rcases val_cases ha with ⟨h1, -⟩ | ⟨-, h1⟩ | ⟨-, h1⟩
    · rcases val_cases hb with ⟨h2, -⟩ | ⟨-, h2⟩ | ⟨-, h2⟩
      · rw [h1, h2] at hnone
        exact hnone rfl
      · linarith
      · linarith [(abs_lt.mp h2).2]
    · linarith
    · linarith [(abs_lt.mp h1).2]
  · rcases val_cases ha with ⟨-, h1⟩ | ⟨h1, -⟩ | ⟨-, h1⟩
    · linarith
    · rcases val_cases hb with ⟨-, h2⟩ | ⟨h2, -⟩ | ⟨-, h2⟩
      · linarith
      · rw [h1, h2] at hnone
        exact hnone rfl
      · linarith [(abs_lt.mp h2).1]
    · linarith [(abs_lt.mp h1).1]

/-- Adding what is not below zero goes not down. -/
theorem val_le_add (h : IsNumber (a + b)) (hb : 0 ≤ val b) : val a ≤ val (a + b) := by
  have hpos := limit_pos
  have hbeyond := beyond_eq
  obtain ⟨hna, hnb⟩ := isNumber_of_add h
  have hinfinite : add Format.binary64 (view a) (view b) = .infinity .positive →
      val (a + b) = beyond := by
    intro hadd
    rw [val, view_add, hadd, unpack_pack_infinity, value_positive]
  -- An infinity above stays, one below is below everything, and finite numbers are rounded
  rcases val_cases hna with ⟨hva, h1⟩ | ⟨-, h1⟩ | ⟨hfa, h1⟩
  · rcases val_cases hnb with ⟨hvb, -⟩ | ⟨-, h2⟩ | ⟨hfb, -⟩
    · rw [h1, hinfinite (by rw [hva, hvb]; rfl)]
    · linarith
    · rw [h1, hinfinite (by rw [hva, (add_infinity_left _ hfb).1])]
  · rw [h1]
    exact (abs_le.mp (abs_val_le h)).1
  · rcases val_cases hnb with ⟨hvb, -⟩ | ⟨-, h2⟩ | ⟨hfb, -⟩
    · rw [hinfinite (by rw [hvb, (add_infinity_right _ hfa).1])]
      linarith [(abs_lt.mp h1).2]
    · linarith
    · have hpacked := (add_rounds (view_canonical a).1 (view_canonical b).1 hfa hfb).packed.2
      rw [← view_add] at hpacked
      rw [← clamp_val hna]
      refine le_of_le_of_eq ?_ hpacked.symm
      exact clamp_mono (nearest_mono (le_add_of_nonneg_right hb))

/-! ## §4 Products and quotients of machine numbers -/

/-- Scaling a number above zero by at most one goes not up. -/
theorem mul_val_le (h : IsNumber (a * b)) (ha : 0 < val a) (hb : val b ≤ 1) :
    val (a * b) ≤ val a := by
  have hpos := limit_pos
  have hbeyond := beyond_eq
  obtain ⟨hna, hnb⟩ := isNumber_of_mul h
  rcases val_cases hna with ⟨-, h1⟩ | ⟨-, h1⟩ | ⟨hfa, h1⟩
  · rw [h1]
    exact (abs_le.mp (abs_val_le h)).2
  · linarith
  · rcases val_cases hnb with ⟨-, h2⟩ | ⟨hvb, -⟩ | ⟨hfb, -⟩
    · -- An infinity above zero is more than one
      have : (1 : ℚ) ≤ limit := by
        rw [limit]
        exact one_le_zpow₀ (by norm_num) (by norm_num)
      linarith
    · -- The scaled number goes below all others
      have hbelow : mul Format.binary64 (view a) (view b) = .infinity .negative := by
        rw [hvb]
        cases hva : view a with
        | finite s m e hm =>
          cases s with
          | positive => rfl
          | negative =>
            rw [val, hva, value_below hm] at ha
            linarith [magnitude_pos e hm]
        | zero s =>
          rw [val, hva] at ha
          exact absurd ha (lt_irrefl 0)
        | _ =>
          rw [hva] at hfa
          cases hfa
      rw [val, view_mul, hbelow, unpack_pack_infinity, value_negative]
      linarith [(abs_lt.mp h1).1]
    · have hpacked := (mul_rounds (view_canonical a).1 (view_canonical b).1 hfa hfb).packed.2
      rw [← view_mul] at hpacked
      rw [← clamp_val hna]
      refine le_of_eq_of_le hpacked ?_
      exact clamp_mono (nearest_mono (mul_le_of_le_one_right ha.le hb))

/-- A number above zero has a positive sign. -/
theorem view_of_pos (ha : IsNumber a) (hpos : 0 < val a) :
    view a = .infinity .positive ∨ ∃ m e hm, view a = .finite .positive m e hm := by
  unfold val at hpos
  cases hview : view a with
  | notANumber => exact absurd hview ha
  | infinity s =>
    cases s with
    | positive => exact .inl rfl
    | negative =>
      rw [hview, value_negative, beyond_eq] at hpos
      linarith [limit_pos]
  | zero s =>
    rw [hview] at hpos
    exact absurd hpos (lt_irrefl 0)
  | finite s m e hm =>
    cases s with
    | positive => exact .inr ⟨m, e, hm, rfl⟩
    | negative =>
      rw [hview, value_below hm] at hpos
      linarith [magnitude_pos e hm]

/-- A quotient of numbers above zero is not below it. -/
theorem div_val_nonneg (h : IsNumber (a / b)) (ha : 0 < val a) (hb : 0 < val b) :
    0 ≤ val (a / b) := by
  obtain ⟨hna, hnb⟩ := isNumber_of_div h
  -- The signs are positive, so only the four shapes of the operands are left
  have hresult : ∀ u, div Format.binary64 (view a) (view b) = u →
      val (a / b) = value (unpack Format.binary64 (pack Format.binary64 u)) := by
    intro u hu
    rw [val, view_div, hu]
  rcases view_of_pos hna ha with hva | ⟨m, e, hm, hva⟩ <;>
    rcases view_of_pos hnb hb with hvb | ⟨n, f, hn, hvb⟩
  · -- The quotient of two infinities is no number
    have hnone : div Format.binary64 (view a) (view b) = .notANumber := by rw [hva, hvb]; rfl
    rw [hresult _ hnone]
    exact le_rfl
  · have hinfinite : div Format.binary64 (view a) (view b) = .infinity .positive := by
      rw [hva, hvb]
      rfl
    rw [hresult _ hinfinite, unpack_pack_infinity, value_positive, beyond_eq]
    linarith [limit_pos]
  · have hzero : div Format.binary64 (view a) (view b) = .zero .positive := by rw [hva, hvb]; rfl
    rw [hresult _ hzero]
    exact le_rfl
  · have hpacked := (div_rounds (a := view a) (b := view b) (by rw [hva]; rfl) (by rw [hvb]; rfl)
      hb.ne').packed.2
    rw [← view_div] at hpacked
    refine le_of_le_of_eq ?_ hpacked.symm
    rw [← clamp_zero]
    exact clamp_mono (nearest_nonneg (div_nonneg ha.le hb.le))

end

theorem val_zero : IsNumber (Scalar.ofInt 0) ∧ val (Scalar.ofInt 0) = 0 := ⟨nofun, rfl⟩

theorem val_one : IsNumber (Scalar.ofInt 1) ∧ val (Scalar.ofInt 1) = 1 := by
  have hview : view (Scalar.ofInt 1) = .finite .positive (2 ^ 52) (-52) (by norm_num) := rfl
  obtain ⟨hnumber, hval⟩ := number_of_view hview
  refine ⟨hnumber, hval.trans ?_⟩
  show ((2 ^ 52 : ℕ) : ℚ) * 2 ^ (-52 : ℤ) = 1
  norm_num

/-- A machine number that is not at most zero is above it, if it is a number at all. -/
theorem val_pos_of_not_le {a : Float} (ha : IsNumber a) (h : ¬ a ≤ Scalar.ofInt 0) : 0 < val a := by
  by_contra hle
  refine h (le_iff.mpr ⟨ha, val_zero.1, ?_⟩)
  rw [val_zero.2]
  exact not_lt.mp hle

theorem val_nonneg_of_not_lt {a : Float} (ha : IsNumber a) (h : ¬ a < Scalar.ofInt 0) :
    0 ≤ val a := by
  by_contra hlt
  refine h (lt_iff.mpr ⟨ha, val_zero.1, ?_⟩)
  rw [val_zero.2]
  exact not_le.mp hlt

/-- A difference that is above something is that of numbers which are no infinities in its way. -/
theorem val_of_lt_sub {w a c : Float} (h : w < a - c) :
    (IsNumber a ∧ -beyond < val a) ∧ (IsNumber c ∧ val c < beyond) := by
  obtain ⟨hnw, hnumber, hlt⟩ := lt_iff.mp h
  obtain ⟨ha, hc, habove, hbelow⟩ := isNumber_of_sub hnumber
  have hval := (val_sub ha hc habove hbelow).2
  have hleast := (abs_le.mp (abs_val_le hnw)).1
  have hlimit := limit_pos
  have hbeyond := beyond_eq
  obtain ⟨hlowa, -⟩ := abs_le.mp (abs_val_le ha)
  obtain ⟨-, hhighc⟩ := abs_le.mp (abs_val_le hc)
  refine ⟨⟨ha, lt_of_le_of_ne hlowa fun heq => ?_⟩, hc, lt_of_le_of_ne hhighc fun heq => ?_⟩
  · -- An infinity below zero stays one, so nothing is below the difference
    have hlowc : -limit ≤ val c := by
      rcases val_cases hc with ⟨-, h'⟩ | ⟨-, h'⟩ | ⟨-, h'⟩
      · linarith
      · exact absurd ⟨heq.symm, h'⟩ hbelow
      · exact (abs_lt.mp h').1.le
    rw [clamp_of_far_below (by linarith)] at hval
    linarith
  · have hhigha : val a ≤ limit := by
      rcases val_cases ha with ⟨-, h'⟩ | ⟨-, h'⟩ | ⟨-, h'⟩
      · exact absurd ⟨h', heq⟩ habove
      · linarith
      · exact (abs_lt.mp h').2.le
    rw [clamp_of_far_below (by linarith)] at hval
    linarith

end Machine

open Machine in
instance : Scalar.Orderly Float where
  le_trans hab hbc := by
    obtain ⟨ha, -, hab⟩ := le_iff.mp hab
    obtain ⟨-, hc, hbc⟩ := le_iff.mp hbc
    exact le_iff.mpr ⟨ha, hc, hab.trans hbc⟩
  lt_of_le_of_lt hab hbc := by
    obtain ⟨ha, -, hab⟩ := le_iff.mp hab
    obtain ⟨-, hc, hbc⟩ := lt_iff.mp hbc
    exact lt_iff.mpr ⟨ha, hc, hab.trans_lt hbc⟩
  lt_of_lt_of_le hab hbc := by
    obtain ⟨ha, -, hab⟩ := lt_iff.mp hab
    obtain ⟨-, hc, hbc⟩ := le_iff.mp hbc
    exact lt_iff.mpr ⟨ha, hc, hab.trans_le hbc⟩
  not_lt_of_le hab hba := by
    obtain ⟨-, -, hab⟩ := le_iff.mp hab
    obtain ⟨-, -, hba⟩ := lt_iff.mp hba
    exact absurd hab (not_le.mpr hba)
  le_refl_of_lt_sub h := by
    obtain ⟨⟨ha, -⟩, hc, -⟩ := val_of_lt_sub h
    exact ⟨le_iff.mpr ⟨ha, ha, le_rfl⟩, le_iff.mpr ⟨hc, hc, le_rfl⟩⟩
  exists_lt_of_lt_sub {w a c} h := by
    -- Only the infinity below zero has nothing below it
    obtain ⟨⟨ha, hlow⟩, -⟩ := val_of_lt_sub h
    have hview : view (-(1.0 / 0.0) : Float) = .infinity .negative := rfl
    have hval : val (-(1.0 / 0.0) : Float) = -beyond := (congrArg value hview).trans value_negative
    refine ⟨-(1.0 / 0.0), lt_iff.mpr ⟨?_, ha, hval.trans_lt hlow⟩⟩
    rw [IsNumber, hview]
    exact nofun
  sub_le_sub {w a b c d} h hab hdc := by
    -- The larger difference is none of two infinities on one side, since the smaller is not
    obtain ⟨⟨-, hlowa⟩, -, hhighc⟩ := val_of_lt_sub h
    obtain ⟨-, hnumber, -⟩ := lt_iff.mp h
    obtain ⟨ha, hc, habove, hbelow⟩ := isNumber_of_sub hnumber
    obtain ⟨-, hb, hab⟩ := le_iff.mp hab
    obtain ⟨hd, -, hdc⟩ := le_iff.mp hdc
    obtain ⟨hnumber', hval'⟩ :=
      val_sub hb hd (fun ⟨_, h'⟩ => by linarith) (fun ⟨h', _⟩ => by linarith)
    refine le_iff.mpr ⟨hnumber, hnumber', ?_⟩
    rw [(val_sub ha hc habove hbelow).2, hval']
    exact clamp_mono (nearest_mono (by linarith))
  not_lt_sub_of_add_lt {a w t} hw h h' := by
    obtain ⟨hnw, hnumber', hlt'⟩ := lt_iff.mp h'
    obtain ⟨hnumber, -, hlt⟩ := lt_iff.mp h
    have hw0 := val_nonneg_of_not_lt hnw hw
    have hat := val_le_add hnumber hw0
    obtain ⟨ha, ht, habove, hbelow⟩ := isNumber_of_sub hnumber'
    rw [(val_sub ha ht habove hbelow).2] at hlt'
    -- The later of two times is not before the earlier, rounded or not
    have hdown : clamp (nearest (val a - val t)) ≤ 0 := by
      rw [← clamp_zero]
      exact clamp_mono (nearest_nonpos (by linarith))
    linarith
  not_milli_neg {h} hh hneg := by
    obtain ⟨hnumber, -, hlt⟩ := lt_iff.mp hneg
    have hpos := val_pos_of_not_le (isNumber_of_div hnumber).1 hh
    -- A quotient of numbers above zero is not below it
    have hthousand : (Scalar.ofInt 0 : Float) < 1000.0 := by decide +kernel
    have hk0 := (lt_iff.mp hthousand).2.2
    rw [val_zero.2] at hk0 hlt
    linarith [div_val_nonneg hnumber hpos hk0]
  le_of_le_mul {d h q} hh hq hd := by
    obtain ⟨hnd, hnumber, hle⟩ := le_iff.mp hd
    obtain ⟨hnh, -⟩ := isNumber_of_mul hnumber
    have hq1 := (le_iff.mp hq).2.2
    rw [val_one.2] at hq1
    exact le_iff.mpr ⟨hnd, hnh, hle.trans (mul_val_le hnumber (val_pos_of_not_le hnh hh) hq1)⟩

/-! ## §5 Numbers compare -/

/-- Orderly scalars of which any two numbers compare. -/
class Scalar.Comparable (R : Type) [Scalar R] : Prop extends Scalar.Orderly R where
  le_total {a b : R} : a ≤ a → b ≤ b → a ≤ b ∨ b ≤ a
  zero_le_zero : (Scalar.ofInt 0 : R) ≤ Scalar.ofInt 0

instance : Scalar.Comparable Rat where
  le_total {a b} _ _ := le_total a b
  zero_le_zero := le_refl (0 : ℚ)

open Machine in
instance : Scalar.Comparable Float where
  le_total {a b} ha hb := by
    have hnumber := (le_iff.mp ha).1
    have hnumber' := (le_iff.mp hb).1
    rcases le_total (val a) (val b) with h | h
    · exact .inl (le_iff.mpr ⟨hnumber, hnumber', h⟩)
    · exact .inr (le_iff.mpr ⟨hnumber', hnumber, h⟩)
  zero_le_zero := le_iff.mpr ⟨val_zero.1, val_zero.1, le_rfl⟩

/-- Comparable scalars of which one is below another just if it is at most the other, and not the
other way round. -/
class Scalar.Ranked (R : Type) [Scalar R] : Prop extends Scalar.Comparable R where
  lt_iff_le_not_le {a b : R} : a < b ↔ a ≤ b ∧ ¬ b ≤ a

instance : Scalar.Ranked Rat where
  lt_iff_le_not_le := lt_iff_le_not_ge

open Machine in
instance : Scalar.Ranked Float where
  lt_iff_le_not_le {a b} := by
    rw [lt_iff, le_iff, le_iff]
    constructor
    · rintro ⟨ha, hb, hlt⟩
      exact ⟨⟨ha, hb, hlt.le⟩, fun h => absurd h.2.2 (not_le.mpr hlt)⟩
    · rintro ⟨⟨ha, hb, -⟩, hnot⟩
      exact ⟨ha, hb, lt_of_not_ge fun h => hnot ⟨hb, ha, h⟩⟩

end Lamella
