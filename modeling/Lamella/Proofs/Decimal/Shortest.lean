import Lamella.Decimal.Shortest
import Lamella.Proofs.Scalar.Numerals

/-!
# The shortest decimal rounds back

The search for the shortest decimal of a binary number compares natural numbers only. What it
compares are rationals, and what it looks for are those that round to the number. It finds one:
with 17 digits the decimal grid is finer than the spacing of binary numbers, so that one of the two
neighbours of the number on it rounds back.

## Main statements

- `Decimal.contains_iff`: the interval of a number, as rationals.
- `Decimal.nearest_of_contains`: what lies in the interval rounds to the number.
- `Decimal.nearest_shortest`: the shortest decimal rounds to the number.
-/

namespace Lamella

/-- At one half an even integer is the nearest. -/
theorem roundHalfEven_of_within {q : ℚ} {n : ℤ} (hlow : n - 1 / 2 ≤ q) (hhigh : q ≤ n + 1 / 2)
    (htie : n % 2 = 0 ∨ (n - 1 / 2 < q ∧ q < n + 1 / 2)) : roundHalfEven q = n := by
  rcases htie with heven | ⟨hlow', hhigh'⟩
  · have hq : q.floor = ⌊q⌋ := rfl
    unfold roundHalfEven
    dsimp only
    rw [hq]
    rcases lt_or_ge q n with hlt | hge
    · have hfloor : ⌊q⌋ = n - 1 := by
        rw [Int.floor_eq_iff]
        push_cast
        constructor <;> linarith
      rw [hfloor]
      push_cast
      split_ifs <;> first | omega | (exfalso; linarith)
    · have hfloor : ⌊q⌋ = n := by
        rw [Int.floor_eq_iff]
        constructor <;> linarith
      rw [hfloor]
      split_ifs <;> first | rfl | (exfalso; linarith)
  · refine roundHalfEven_of_near (abs_lt.mpr ⟨?_, ?_⟩) <;> linarith

namespace Decimal

/-! ## §1 What is compared -/

theorem zpow_split (b : ℚ) (p : ℤ) : b ^ p = b ^ p.toNat / b ^ (-p).toNat := by
  rcases le_total 0 p with hp | hp
  · obtain ⟨k, rfl⟩ := Int.eq_ofNat_of_zero_le hp
    simp
  · obtain ⟨k, hk⟩ := Int.eq_ofNat_of_zero_le (show 0 ≤ -p by omega)
    obtain rfl : p = -k := by omega
    simp

theorem compare_of_scaled {n k : ℕ} {x y c : ℚ} (hc : 0 < c) (hx : n = x * c) (hy : k = y * c) :
    compare n k = compare x y := by
  rcases lt_trichotomy x y with hlt | heq | hgt
  · have hnk : (n : ℚ) < k := by
      rw [hx, hy]
      exact mul_lt_mul_of_pos_right hlt hc
    rw [compare_lt_iff_lt.mpr hlt, compare_lt_iff_lt.mpr (Nat.cast_lt.mp hnk)]
  · have hnk : (n : ℚ) = k := by rw [hx, hy, heq]
    rw [compare_eq_iff_eq.mpr heq, compare_eq_iff_eq.mpr (Nat.cast_inj.mp hnk)]
  · have hnk : (k : ℚ) < n := by
      rw [hx, hy]
      exact mul_lt_mul_of_pos_right hgt hc
    rw [compare_gt_iff_gt.mpr hgt, compare_gt_iff_gt.mpr (Nat.cast_lt.mp hnk)]

/-- Both sides are brought to integers by the same factor. -/
theorem compareScaled_eq (a : ℕ) (p : ℤ) (b : ℕ) (q : ℤ) :
    compareScaled a p b q = compare ((a : ℚ) * 10 ^ p) (b * 2 ^ q) := by
  have hfactor : (0 : ℚ) < 2 ^ (-q).toNat * 10 ^ (-p).toNat := by positivity
  refine compare_of_scaled hfactor ?_ ?_
  · rw [zpow_split 10 p, Nat.pow_eq, Nat.pow_eq]
    push_cast
    field_simp
  · rw [zpow_split 2 q, Nat.pow_eq, Nat.pow_eq]
    push_cast
    field_simp

/-- **The interval of a number**, as rationals. -/
theorem contains_iff {i : Interval} {c : ℕ} {p : ℤ} : i.contains c p = true ↔
    (i.low * 2 ^ i.unit < (c : ℚ) * 10 ^ p ∨ (i.closed ∧ i.low * 2 ^ i.unit = (c : ℚ) * 10 ^ p)) ∧
    ((c : ℚ) * 10 ^ p < i.high * 2 ^ i.unit ∨
      (i.closed ∧ (c : ℚ) * 10 ^ p = i.high * 2 ^ i.unit)) := by
  simp only [Interval.contains, compareScaled_eq, Bool.and_eq_true, Bool.or_eq_true, beq_iff_eq,
    compare_gt_iff_gt, compare_lt_iff_lt, compare_eq_iff_eq]
  rw [eq_comm (a := (c : ℚ) * 10 ^ p) (b := i.low * 2 ^ i.unit)]

/-! ## §2 What lies in the interval rounds to the number -/

theorem two_zpow_add (q : ℤ) (k : ℕ) : (2 : ℚ) ^ (q + k) = 2 ^ k * 2 ^ q := by
  rw [zpow_add₀ (by norm_num), zpow_natCast, mul_comm]

/-- The spacing of machine numbers around a rational, from the binary digits before it. -/
theorem spacing_of_bounds {y : ℚ} {e : ℤ} (he : -1074 ≤ e) (hlow : e = -1074 ∨ 2 ^ (e + 52) ≤ y)
    (hy : 0 < y) (hhigh : y < 2 ^ (e + 53)) : spacing y = e := by
  have hlog : Int.log 2 |y| < e + 53 := by
    rw [abs_of_pos hy]
    exact (Int.lt_zpow_iff_log_lt (by norm_num) hy).mp (by exact_mod_cast hhigh)
  rcases hlow with hleast | hlow
  · exact le_antisymm (max_le (by omega) (by omega)) (hleast ▸ le_max_right _ _)
  · have hlog' : e + 52 ≤ Int.log 2 |y| := by
      rw [abs_of_pos hy]
      exact (Int.zpow_le_iff_le_log (by norm_num) hy).mp (by exact_mod_cast hlow)
    have heq : Int.log 2 |y| - 52 = e := by omega
    rw [spacing, heq, max_eq_left he]

theorem nearest_of_near {y : ℚ} {n e : ℤ} (hspacing : spacing y = e)
    (hlow : (n - 1 / 2) * 2 ^ e ≤ y) (hhigh : y ≤ (n + 1 / 2) * 2 ^ e)
    (htie : n % 2 = 0 ∨ ((n - 1 / 2) * 2 ^ e < y ∧ y < (n + 1 / 2) * 2 ^ e)) :
    nearest y = n * 2 ^ e := by
  have hpos := zpow_two_pos e
  rw [nearest, hspacing, roundHalfEven_of_within ((le_div_iff₀ hpos).mpr hlow)
    ((div_le_iff₀ hpos).mpr hhigh)
    (htie.imp id fun h => ⟨(lt_div_iff₀ hpos).mpr h.1, (div_lt_iff₀ hpos).mpr h.2⟩)]

theorem interval_high (m : ℕ) (q : ℤ) :
    ((interval m q).high : ℚ) * 2 ^ (interval m q).unit = (m + 1 / 2) * 2 ^ q := by
  show ((4 * m + 2 : ℕ) : ℚ) * 2 ^ (q - 2) = _
  rw [zpow_sub₀ (by norm_num)]
  push_cast
  ring

theorem interval_low {m : ℕ} (hm : 0 < m) (q : ℤ) (hdense : ¬ (m = 2 ^ 52 ∧ -1074 < q)) :
    ((interval m q).low : ℚ) * 2 ^ (interval m q).unit = (m - 1 / 2) * 2 ^ q := by
  show ((if m = Nat.pow 2 52 ∧ -1074 < q then 4 * m - 1 else 4 * m - 2 : ℕ) : ℚ) * 2 ^ (q - 2) = _
  rw [Nat.pow_eq, if_neg hdense, zpow_sub₀ (by norm_num), Nat.cast_sub (by omega)]
  push_cast
  ring

/-- Below a power of two the spacing is half as wide. -/
theorem interval_low_dense {q : ℤ} (hq : -1074 < q) :
    ((interval (2 ^ 52) q).low : ℚ) * 2 ^ (interval (2 ^ 52) q).unit =
      (2 ^ 53 - 1 / 2) * 2 ^ (q - 1) := by
  show ((if 2 ^ 52 = Nat.pow 2 52 ∧ -1074 < q then 4 * 2 ^ 52 - 1 else 4 * 2 ^ 52 - 2 : ℕ) : ℚ) *
    2 ^ (q - 2) = _
  rw [Nat.pow_eq, if_pos ⟨rfl, hq⟩, show q - 2 = q - 1 - 1 by omega, zpow_sub₀ (by norm_num),
    zpow_one]
  norm_num
  ring

/-- Just below a power of two. -/
theorem nearest_of_dense {q : ℤ} {y : ℚ} (hq : -1074 < q) (hlow : (2 ^ 53 - 1 / 2) * 2 ^ (q - 1) ≤ y)
    (hlt : y < 2 ^ 52 * 2 ^ q) : nearest y = 2 ^ 52 * 2 ^ q := by
  have hpos := zpow_two_pos (q - 1)
  have hpower : (2 : ℚ) ^ 52 * 2 ^ q = 2 ^ 53 * 2 ^ (q - 1) := by
    rw [show q = q - 1 + 1 by omega, zpow_add₀ (by norm_num), zpow_one, add_sub_cancel_right]
    ring
  have hleast : (2 : ℚ) ^ (q - 1 + 52) ≤ y := by
    rw [show (52 : ℤ) = (52 : ℕ) from rfl, two_zpow_add]
    exact (mul_le_mul_of_nonneg_right (by norm_num) hpos.le).trans hlow
  have hspacing : spacing y = q - 1 := by
    refine spacing_of_bounds (by omega) (.inr hleast) ((zpow_two_pos _).trans_le hleast) ?_
    rwa [show (53 : ℤ) = (53 : ℕ) from rfl, two_zpow_add, ← hpower]
  have hnearest := nearest_of_near (n := 2 ^ 53) hspacing (by exact_mod_cast hlow)
    (by
      rw [hpower] at hlt
      refine hlt.le.trans (mul_le_mul_of_nonneg_right ?_ hpos.le)
      norm_num)
    (.inl (by norm_num))
  rw [hnearest, hpower]
  norm_num

/-- **What lies in the interval of a number rounds to it.** -/
theorem nearest_of_contains {m c : ℕ} {q p : ℤ} (hm : 0 < m) (hm53 : m < 2 ^ 53)
    (hleast : -1074 ≤ q) (hshape : 2 ^ 52 ≤ m ∨ q = -1074)
    (h : (interval m q).contains c p = true) : nearest (c * 10 ^ p) = m * 2 ^ q := by
  obtain ⟨hlow, hhigh⟩ := contains_iff.mp h
  have hclosed : (interval m q).closed = true ↔ m % 2 = 0 := by
    show (m % 2 == 0) = true ↔ _
    rw [beq_iff_eq]
  rw [interval_high, hclosed] at hhigh
  rw [hclosed] at hlow
  have hpos := zpow_two_pos q
  generalize (c : ℚ) * 10 ^ p = y at hlow hhigh
  have hmost : y ≤ (m + 1 / 2) * 2 ^ q := hhigh.elim le_of_lt fun h => h.2.le
  by_cases hdense : (m = 2 ^ 52 ∧ -1074 < q) ∧ y < m * 2 ^ q
  · obtain ⟨⟨rfl, hq⟩, hlt⟩ := hdense
    rw [interval_low_dense hq] at hlow
    push_cast at hlt ⊢
    exact nearest_of_dense hq (hlow.elim le_of_lt fun h => h.2.le) hlt
  -- Elsewhere the spacing is the same on both sides of the number
  have hleft : (m - 1 / 2) * 2 ^ q ≤ y ∧ (m % 2 = 0 ∨ (m - 1 / 2) * 2 ^ q < y) := by
    by_cases hpower : m = 2 ^ 52 ∧ -1074 < q
    · have hge : (m : ℚ) * 2 ^ q ≤ y := not_lt.mp fun hlt => hdense ⟨hpower, hlt⟩
      have hlt : ((m : ℚ) - 1 / 2) * 2 ^ q < m * 2 ^ q := mul_lt_mul_of_pos_right (by linarith) hpos
      exact ⟨(hlt.trans_le hge).le, .inr (hlt.trans_le hge)⟩
    · rw [interval_low hm q hpower] at hlow
      exact ⟨hlow.elim le_of_lt fun h => h.2.le, hlow.elim .inr fun h => .inl h.1⟩
  have hspacing : spacing y = q := by
    refine spacing_of_bounds hleast ?_ ?_ ?_
    · rcases hshape with h52 | hq
      · by_cases hq : q = -1074
        · exact .inl hq
        right
        rw [show (52 : ℤ) = (52 : ℕ) from rfl, two_zpow_add]
        rcases h52.eq_or_lt with heq | hlt
        · have hge : (m : ℚ) * 2 ^ q ≤ y :=
            not_lt.mp fun hlt => hdense ⟨⟨heq.symm, by omega⟩, hlt⟩
          rw [← heq] at hge
          exact_mod_cast hge
        · refine le_trans (mul_le_mul_of_nonneg_right ?_ hpos.le) hleft.1
          have hsucc : (2 : ℚ) ^ 52 + 1 ≤ m := by exact_mod_cast hlt
          linarith
      · exact .inl hq
    · refine lt_of_lt_of_le (mul_pos ?_ hpos) hleft.1
      have hone : (1 : ℚ) ≤ m := by exact_mod_cast hm
      linarith
    · rw [show (53 : ℤ) = (53 : ℕ) from rfl, two_zpow_add]
      refine hmost.trans_lt (mul_lt_mul_of_pos_right ?_ hpos)
      have hsucc : (m : ℚ) + 1 ≤ 2 ^ 53 := by exact_mod_cast hm53
      linarith
  have hnearest := nearest_of_near (n := m) hspacing (by exact_mod_cast hleft.1)
    (by exact_mod_cast hmost) (by
      rcases hleft.2 with heven | hleft
      · exact .inl (by omega)
      · rcases hhigh with hright | ⟨heven, -⟩
        · exact .inr ⟨by exact_mod_cast hleft, by exact_mod_cast hright⟩
        · exact .inl (by omega))
  exact_mod_cast hnearest

/-! ## §3 The search -/

theorem lt_pow_digitCount (n : ℕ) : n < 10 ^ digitCount n :=
  (Nat.length_toDigits_le_iff (by norm_num) Nat.length_toDigits_pos).mp le_rfl

theorem pow_digitCount_le {n : ℕ} (hn : 0 < n) : 10 ^ (digitCount n - 1) ≤ n := by
  by_cases hone : digitCount n - 1 = 0
  · rwa [hone]
  · by_contra hlt
    have hle := (Nat.length_toDigits_le_iff (b := 10) (by norm_num) (Nat.pos_of_ne_zero hone)).mpr
      (not_le.mp hlt)
    have hcount : digitCount n = (Nat.toDigits 10 n).length := rfl
    omega

/-- The number is at least the power of ten of its leading digit. -/
theorem magnitude_le {m : ℕ} (hm : 0 < m) (q : ℤ) : (10 : ℚ) ^ magnitude m q ≤ m * 2 ^ q := by
  have hguess : ∀ guess : ℤ, (10 : ℚ) ^ (guess - 1) ≤ m * 2 ^ q →
      (10 : ℚ) ^ (if compareScaled 1 guess m q == .gt then guess - 1 else guess) ≤ m * 2 ^ q := by
    intro guess hpred
    split_ifs with hgt
    · exact hpred
    · rw [beq_iff_eq, compareScaled_eq, compare_gt_iff_gt, Nat.cast_one, one_mul] at hgt
      exact not_lt.mp hgt
  refine hguess _ ?_
  -- The count of digits of a quotient is off by one at most
  simp only [Nat.pow_eq]
  set a := m * 2 ^ q.toNat with ha
  set b := 2 ^ (-q).toNat with hb
  have hapos : 0 < a := Nat.mul_pos hm (Nat.two_pow_pos _)
  have hbpos : 0 < b := Nat.two_pow_pos _
  have hvalue : (m : ℚ) * 2 ^ q = a / b := by
    rw [zpow_split 2 q, ha, hb]
    push_cast
    ring
  have hlow : (10 : ℚ) ^ (digitCount a - 1) ≤ a := by exact_mod_cast pow_digitCount_le hapos
  have hhigh : (b : ℚ) ≤ 10 ^ digitCount b := by exact_mod_cast (lt_pow_digitCount b).le
  have hcount : 0 < digitCount a := Nat.length_toDigits_pos
  rw [hvalue]
  calc (10 : ℚ) ^ ((digitCount a : ℤ) - digitCount b - 1)
      = 10 ^ (digitCount a - 1) / 10 ^ digitCount b := by
        rw [← zpow_natCast, ← zpow_natCast, ← zpow_sub₀ (by norm_num)]
        congr 1
        omega
    _ ≤ a / b := div_le_div₀ (Nat.cast_nonneg a) hlow (Nat.cast_pos.mpr hbpos) hhigh

/-- The number lies between its neighbours on a decimal grid. -/
theorem gridFloor_bounds (m : ℕ) (q p : ℤ) : gridFloor m q p * (10 : ℚ) ^ p ≤ m * 2 ^ q ∧
    m * 2 ^ q < (gridFloor m q p + 1 : ℕ) * (10 : ℚ) ^ p := by
  have hpos : 0 < 2 ^ (-q).toNat * 10 ^ p.toNat := by positivity
  have hfloor : gridFloor m q p = m * 2 ^ q.toNat * 10 ^ (-p).toNat /
      (2 ^ (-q).toNat * 10 ^ p.toNat) := rfl
  have hvalue : (m : ℚ) * 2 ^ q = ((m * 2 ^ q.toNat * 10 ^ (-p).toNat : ℕ) : ℚ) /
      (2 ^ (-q).toNat * 10 ^ p.toNat : ℕ) * 10 ^ p := by
    rw [zpow_split 2 q, zpow_split 10 p]
    push_cast
    field_simp
  have hten : (0 : ℚ) < 10 ^ p := zpow_pos (by norm_num) p
  rw [hvalue, hfloor]
  generalize m * 2 ^ q.toNat * 10 ^ (-p).toNat = n
  generalize 2 ^ (-q).toNat * 10 ^ p.toNat = d at hpos
  have hd : (0 : ℚ) < d := Nat.cast_pos.mpr hpos
  constructor
  · refine mul_le_mul_of_nonneg_right ((le_div_iff₀ hd).mpr ?_) hten.le
    exact_mod_cast Nat.div_mul_le_self n d
  · refine mul_lt_mul_of_pos_right ((div_lt_iff₀ hd).mpr ?_) hten
    exact_mod_cast Nat.lt_mul_of_div_lt (Nat.lt_succ_self _) hpos

/-- A candidate is one of the two neighbours, and lies in the interval of the number. -/
theorem contains_of_candidate {m count : ℕ} {q : ℤ} {d : Decimal}
    (h : candidate m q count = some d) : (interval m q).contains d.digits d.exponent = true := by
  unfold candidate at h
  dsimp only at h
  generalize magnitude m q - count + 1 = p at h
  generalize gridFloor m q p = c at h
  generalize interval m q = i at h ⊢
  generalize compareScaled (2 * c + 1) p (2 * m) q = nearer at h
  cases hc : i.contains c p <;> cases hc' : i.contains (c + 1) p <;>
    simp only [hc, hc', Option.some.injEq, reduceCtorEq] at h
  · rw [← h, hc']
  · rw [← h, hc]
  · cases nearer <;> simp only [Option.some.injEq] at h <;> rw [← h]
    · exact hc'
    · dsimp only
      split_ifs
      · exact hc
      · exact hc'
    · exact hc

/-- Half the step of 17 digits is less than half the spacing. -/
theorem half_step_lt {m : ℕ} (hm53 : m < 2 ^ 53) (q : ℤ) :
    m * 2 ^ q / (2 * 10 ^ 16) < (1 / 2 : ℚ) * 2 ^ q := by
  have hbound : (m : ℚ) < 2 ^ 53 := by exact_mod_cast hm53
  rw [mul_div_right_comm]
  refine mul_lt_mul_of_pos_right ?_ (zpow_two_pos q)
  rw [div_lt_iff₀ (by norm_num)]
  linarith

/-- It is so below a power of two as well. -/
theorem low_lt {m : ℕ} (hm : 0 < m) (hm53 : m < 2 ^ 53) (q : ℤ) :
    ((interval m q).low : ℚ) * 2 ^ (interval m q).unit < m * 2 ^ q - m * 2 ^ q / (2 * 10 ^ 16) := by
  by_cases hdense : m = 2 ^ 52 ∧ -1074 < q
  · obtain ⟨rfl, hq⟩ := hdense
    have hpower : ((2 ^ 52 : ℕ) : ℚ) * 2 ^ q = 2 ^ 53 * 2 ^ (q - 1) := by
      rw [show q = q - 1 + 1 by omega, zpow_add₀ (by norm_num), zpow_one, add_sub_cancel_right]
      push_cast
      ring
    rw [interval_low_dense hq, hpower, mul_div_right_comm, ← sub_mul]
    exact mul_lt_mul_of_pos_right (by norm_num) (zpow_two_pos (q - 1))
  · have hhalf := half_step_lt hm53 q
    rw [interval_low hm q hdense, sub_mul]
    exact sub_lt_sub_left hhalf _

/-- A decimal that is nearer to the number than half the step of 17 digits lies in its interval. -/
theorem contains_of_near {m c : ℕ} {q p : ℤ} (hm : 0 < m) (hm53 : m < 2 ^ 53)
    (h : |(c : ℚ) * 10 ^ p - m * 2 ^ q| ≤ m * 2 ^ q / (2 * 10 ^ 16)) :
    (interval m q).contains c p = true := by
  have hlow := low_lt hm hm53 q
  have hhigh := half_step_lt hm53 q
  rw [abs_le] at h
  refine contains_iff.mpr ⟨.inl ?_, .inl ?_⟩
  · exact hlow.trans_le (by linarith [h.1])
  · rw [interval_high, add_mul]
    linarith [h.2]

/-- With 17 digits there is a candidate. -/
theorem candidate_ne_none {m : ℕ} (hm : 0 < m) (hm53 : m < 2 ^ 53) (q : ℤ) :
    candidate m q 17 ≠ none := by
  set p := magnitude m q - (17 : ℕ) + 1 with hp
  set c := gridFloor m q p with hc
  obtain ⟨hlow, hhigh⟩ := gridFloor_bounds m q p
  rw [← hc] at hlow hhigh
  have hgrid : (10 : ℚ) ^ p ≤ m * 2 ^ q / 10 ^ 16 := by
    rw [show p = magnitude m q - 16 by omega, zpow_sub₀ (by norm_num)]
    exact div_le_div_of_nonneg_right (magnitude_le hm q) (by norm_num)
  -- One of the two neighbours is at most half a step away
  have hsome : (interval m q).contains c p = true ∨ (interval m q).contains (c + 1) p = true := by
    push_cast at hhigh
    rcases le_total ((m : ℚ) * 2 ^ q - c * 10 ^ p) (10 ^ p / 2) with hnear | hfar
    · refine .inl (contains_of_near hm hm53 ?_)
      rw [abs_sub_comm, abs_of_nonneg (by linarith)]
      linarith
    · refine .inr (contains_of_near hm hm53 ?_)
      push_cast
      rw [abs_of_nonneg (by linarith)]
      linarith
  unfold candidate
  dsimp only
  rw [← hp, ← hc]
  generalize interval m q = i at hsome
  generalize compareScaled (2 * c + 1) p (2 * m) q = nearer
  cases hlower : i.contains c p <;> cases hupper : i.contains (c + 1) p
  · rw [hlower, hupper] at hsome
    cases hsome <;> contradiction
  · exact Option.some_ne_none _
  · exact Option.some_ne_none _
  · cases nearer <;> exact Option.some_ne_none _

/-- **The shortest decimal of a number lies in its interval.** -/
theorem contains_shortest {m : ℕ} (hm : 0 < m) (hm53 : m < 2 ^ 53) (q : ℤ) :
    (interval m q).contains (shortest m q).digits (shortest m q).exponent = true := by
  unfold shortest
  rw [if_neg hm.ne']
  cases hfound : (List.range 17).findSome? fun k => candidate m q (k + 1) with
  | some d =>
    obtain ⟨k, -, hk⟩ := List.exists_of_findSome?_eq_some hfound
    exact contains_of_candidate hk
  | none =>
    -- The search does not end without a candidate
    have hnone := List.findSome?_eq_none_iff.mp hfound 16 (by decide)
    exact absurd hnone (candidate_ne_none hm hm53 q)

/-- **The shortest decimal of a number rounds to it.** -/
theorem nearest_shortest {m : ℕ} {q : ℤ} (hm53 : m < 2 ^ 53) (hleast : -1074 ≤ q)
    (hshape : 2 ^ 52 ≤ m ∨ q = -1074) : nearest (shortest m q).amount = m * 2 ^ q := by
  rcases m.eq_zero_or_pos with rfl | hm
  · simp [shortest, amount]
  · exact nearest_of_contains hm hm53 hleast hshape (contains_shortest hm hm53 q)

end Decimal

end Lamella
