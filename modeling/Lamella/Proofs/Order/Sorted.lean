import Lamella.Proofs.Order.Permuted
import Lamella.Proofs.Scalar.Exact

/-!
# Sorted rows

Sorting by a comparison that holds of every element and itself puts the row in order. In a row where
a property holds of a front part only, searching by halving finds the end of that part.

## Main statements

- `Order.sortBy_pairwise`, `Order.sortBy_of_pairwise`: a sorted row is in order, and sorting it
  again leaves it as it is.
- `Order.sortBy_stable`: what need not change places does not.
- `Order.map_eq_of_perm`: arrangements of a row that are in order read alike.
- `Order.dedup_spec`: sorting out equal elements leaves each once.
- `Order.partitionPoint_spec`: searching by halving splits a row into what has the property and what
  has not.
- `Order.slice_eq_filter`: what lies between two places found by halving.
-/

namespace Lamella.Order

section Sorting

variable {α : Type} {le : α → α → Bool}

theorem sortBy_eq_mergeSort {xs : List α} (hrefl : ∀ a ∈ xs, le a a = true) :
    sortBy le xs = xs.mergeSort le := by
  rw [sortBy, if_pos (List.all_eq_true.mpr hrefl)]

/-- A comparison of all elements: what compares with nothing comes last. -/
def totalized (le : α → α → Bool) (a b : α) : Bool := !le b b || (le a a && le a b)

theorem totalized_trans (htrans : ∀ a b c, le a b = true → le b c = true → le a c = true)
    (a b c : α) (hab : totalized le a b = true) (hbc : totalized le b c = true) :
    totalized le a c = true := by
  simp only [totalized, Bool.or_eq_true, Bool.not_eq_true', Bool.and_eq_true] at hab hbc ⊢
  rcases hbc with hc | ⟨hb, hbc⟩
  · exact .inl hc
  · rcases hab with hb' | ⟨ha, hab⟩
    · rw [hb'] at hb
      cases hb
    · exact .inr ⟨ha, htrans a b c hab hbc⟩

theorem totalized_total
    (htotal : ∀ a b, le a a = true → le b b = true → le a b = true ∨ le b a = true) (a b : α) :
    (totalized le a b || totalized le b a) = true := by
  cases ha : le a a with
  | false => simp [totalized, ha]
  | true =>
    cases hb : le b b with
    | false => simp [totalized, hb]
    | true => simpa [totalized, ha, hb] using htotal a b ha hb

/-- Sorting takes an order of all elements, which is no other on those that compare. -/
theorem sortBy_eq_totalized {xs : List α} (hrefl : ∀ a ∈ xs, le a a = true) :
    sortBy le xs = xs.mergeSort (totalized le) := by
  have hsame : ∀ a ∈ xs, ∀ b ∈ xs, le a b = totalized le (id a) (id b) := by
    intro a ha b hb
    simp [totalized, hrefl a ha, hrefl b hb]
  have hmerge := List.map_mergeSort hsame
  rw [List.map_id, List.map_id] at hmerge
  rw [sortBy_eq_mergeSort hrefl, hmerge]

/-- **Sorting is stable.** The row comes out in order, and of two elements that could stand in either
order the one that was first is still first. -/
theorem sortBy_stable {r : α → α → Prop} {xs : List α} (hrefl : ∀ a ∈ xs, le a a = true)
    (htrans : ∀ a b c, le a b = true → le b c = true → le a c = true)
    (htotal : ∀ a b, le a a = true → le b b = true → le a b = true ∨ le b a = true)
    (hxs : xs.Pairwise r) :
    (sortBy le xs).Pairwise fun a b => le a b = true ∧ (le b a = true → r a b) := by
  -- The places in the row decide where the comparison does not
  let placed := xs.zipIdx.mergeSort (List.zipIdxLE (totalized le))
  have hsorted : placed.Pairwise fun x y => List.zipIdxLE (totalized le) x y = true :=
    List.pairwise_mergeSort (List.zipIdxLE_trans (totalized_trans htrans))
      (List.zipIdxLE_total (totalized_total htotal)) xs.zipIdx
  have hperm : placed.Perm xs.zipIdx := List.mergeSort_perm _ _
  have hplaces : placed.Pairwise fun x y => x.2 ≠ y.2 := by
    refine (hperm.pairwise_iff fun h => h.symm).mpr (List.pairwise_map.mp ?_)
    rw [List.zipIdx_map_snd]
    exact List.nodup_range'
  rw [sortBy_eq_totalized hrefl, ← List.mergeSort_zipIdx, List.pairwise_map]
  refine (hsorted.and hplaces).imp_of_mem ?_
  rintro ⟨a, i⟩ ⟨b, j⟩ ha hb ⟨hle, hne⟩
  obtain ⟨hi, rfl⟩ :=
    List.getElem?_eq_some_iff.mp (List.mk_mem_zipIdx_iff_getElem?.mp (hperm.mem_iff.mp ha))
  obtain ⟨hj, rfl⟩ :=
    List.getElem?_eq_some_iff.mp (List.mk_mem_zipIdx_iff_getElem?.mp (hperm.mem_iff.mp hb))
  simp only [List.zipIdxLE, totalized, hrefl _ (List.getElem_mem hi), hrefl _ (List.getElem_mem hj),
    Bool.not_true, Bool.true_and, Bool.false_or] at hle
  split_ifs at hle with hab hba
  · have hij : i < j := lt_of_le_of_ne (of_decide_eq_true hle) hne
    exact ⟨hab, fun _ => List.pairwise_iff_getElem.mp hxs i j hi hj hij⟩
  · exact ⟨hab, fun h => absurd h hba⟩

/-- Elements of which each two compare are in order once they are sorted. -/
theorem sortBy_pairwise {xs : List α} (hrefl : ∀ a ∈ xs, le a a = true)
    (htrans : ∀ a b c, le a b = true → le b c = true → le a c = true)
    (htotal : ∀ a b, le a a = true → le b b = true → le a b = true ∨ le b a = true) :
    (sortBy le xs).Pairwise fun a b => le a b = true := by
  have hanyhow : xs.Pairwise fun _ _ => True := List.pairwise_of_forall fun _ _ => trivial
  exact (sortBy_stable hrefl htrans htotal hanyhow).imp And.left

/-- Images are sorted as what they are images of. -/
theorem sortBy_map {β : Type} (f : β → α) {ys : List β} (hrefl : ∀ b ∈ ys, le (f b) (f b) = true) :
    sortBy le (ys.map f) = (sortBy (fun a b => le (f a) (f b)) ys).map f := by
  have himages : ∀ a ∈ ys.map f, le a a = true := List.forall_mem_map.mpr hrefl
  rw [sortBy_eq_mergeSort himages, sortBy_eq_mergeSort hrefl]
  exact (List.map_mergeSort (f := f) fun _ _ _ _ => rfl).symm

/-- It is enough that the elements of the row compare so. -/
theorem sortBy_pairwise_of_mem {xs : List α} (hrefl : ∀ a ∈ xs, le a a = true)
    (htrans : ∀ a ∈ xs, ∀ b ∈ xs, ∀ c ∈ xs, le a b = true → le b c = true → le a c = true)
    (htotal : ∀ a ∈ xs, ∀ b ∈ xs, le a b = true ∨ le b a = true) :
    (sortBy le xs).Pairwise fun a b => le a b = true := by
  have hattach : ∀ a ∈ xs.attach, le a.1 a.1 = true := fun a _ => hrefl a.1 a.2
  have hsorted : (sortBy (fun a b : {a // a ∈ xs} => le a.1 b.1) xs.attach).Pairwise
      fun a b => le a.1 b.1 = true :=
    sortBy_pairwise hattach (fun a b c => htrans a.1 a.2 b.1 b.2 c.1 c.2)
      fun a b _ _ => htotal a.1 a.2 b.1 b.2
  have hmap := sortBy_map Subtype.val hattach
  rw [List.attach_map_subtype_val] at hmap
  rw [hmap]
  exact List.pairwise_map.mpr hsorted

/-- Sorting leaves a row in order as it is. -/
theorem sortBy_of_pairwise {xs : List α} (hrefl : ∀ a ∈ xs, le a a = true)
    (hsorted : xs.Pairwise fun a b => le a b = true) : sortBy le xs = xs := by
  rw [sortBy_eq_mergeSort hrefl, List.mergeSort_of_pairwise hsorted]

/-- What is read off each element of a row is the same of any arrangement of the row that is in
order, if elements that could change places are read alike. -/
theorem map_eq_of_perm {β : Type} {r : α → α → Prop} {f : α → β} {xs ys : List α}
    (hperm : xs.Perm ys) (hxs : xs.Pairwise r) (hys : ys.Pairwise r)
    (halike : ∀ a ∈ xs, ∀ b ∈ xs, r a b → r b a → f a = f b) : xs.map f = ys.map f := by
  induction xs generalizing ys with
  | nil => rw [← hperm.nil_eq]
  | cons a xs ih =>
    -- The first element of one row stands somewhere in the other
    obtain ⟨front, back, rfl⟩ := List.append_of_mem (hperm.subset List.mem_cons_self)
    have hrest : xs.Perm (front ++ back) := (List.perm_cons a).mp (hperm.trans List.perm_middle)
    have hfirst := (List.pairwise_cons.mp hxs).1
    have hbehind := (List.pairwise_append.mp hys).2.2
    have hfront : front.map f = List.replicate front.length (f a) := by
      refine List.map_eq_replicate_iff.mpr fun b hb => ?_
      -- What is before it there is behind it here, so the two could change places
      have hmem : b ∈ xs := hrest.mem_iff.mpr (List.mem_append_left back hb)
      exact halike b (List.mem_cons_of_mem a hmem) a List.mem_cons_self
        (hbehind b hb a List.mem_cons_self) (hfirst b hmem)
    have hsorted : (front ++ back).Pairwise r :=
      hys.sublist ((List.sublist_cons_self a back).append_left front)
    calc (a :: xs).map f = f a :: (front ++ back).map f := by
          rw [List.map_cons, ih hrest (List.pairwise_cons.mp hxs).2 hsorted fun b hb c hc =>
            halike b (List.mem_cons_of_mem a hb) c (List.mem_cons_of_mem a hc)]
      _ = List.replicate (front.length + 1) (f a) ++ back.map f := by
          rw [List.map_append, hfront, List.replicate_succ, List.cons_append]
      _ = (front ++ a :: back).map f := by
          rw [List.replicate_succ', List.map_append, hfront, List.map_cons, List.append_assoc,
            List.singleton_append]

end Sorting

/-- Sorting out equal elements leaves each that there is, once. -/
theorem dedup_spec {α : Type} [DecidableEq α] (xs : List α) :
    (dedup (· == ·) xs).Nodup ∧ ∀ a, a ∈ dedup (· == ·) xs ↔ a ∈ xs := by
  let keep (kept : List α) (a : α) : List α := if kept.any (a == ·) then kept else a :: kept
  -- The invariant: what is kept holds no element twice, and all elements that were met
  have hkeep (kept : List α) (hkept : kept.Nodup) :
      (xs.foldl keep kept).Nodup ∧ ∀ a, a ∈ xs.foldl keep kept ↔ a ∈ kept ∨ a ∈ xs := by
    induction xs generalizing kept with
    | nil => exact ⟨hkept, by simp⟩
    | cons b xs ih =>
      rw [List.foldl_cons]
      by_cases hb : b ∈ kept
      · have hold : keep kept b = kept := if_pos (by simpa using hb)
        obtain ⟨hnodup, hmem⟩ := ih kept hkept
        rw [hold]
        refine ⟨hnodup, fun a => ?_⟩
        rw [hmem, List.mem_cons]
        constructor
        · exact Or.imp_right .inr
        · rintro (ha | rfl | ha)
          · exact .inl ha
          · exact .inl hb
          · exact .inr ha
      · have hnew : keep kept b = b :: kept := if_neg (by simpa using hb)
        obtain ⟨hnodup, hmem⟩ := ih (b :: kept) (List.nodup_cons.mpr ⟨hb, hkept⟩)
        rw [hnew]
        refine ⟨hnodup, fun a => ?_⟩
        rw [hmem, List.mem_cons, List.mem_cons, or_assoc, or_left_comm]
  obtain ⟨hnodup, hmem⟩ := hkeep [] List.nodup_nil
  refine ⟨List.nodup_reverse.mpr hnodup, fun a => ?_⟩
  rw [dedup, List.mem_reverse, hmem, or_iff_right List.not_mem_nil]

/-! ## Searching -/

/-- Halving ends at an index up to which the property holds and from which on it does not, if it
holds before each index at which it holds. -/
theorem halving_spec {p : Nat → Bool} {low high : Nat} (hle : low ≤ high)
    (hfront : ∀ i j, i ≤ j → j < high → p j = true → p i = true) :
    low ≤ halving p low high ∧ halving p low high ≤ high ∧
      (∀ i, low ≤ i → i < halving p low high → p i = true) ∧
      ∀ i, halving p low high ≤ i → i < high → p i = false := by
  fun_induction halving p low high with
  | case1 low high hlt middle hholds ih =>
    -- The property holds up to the middle, and the search goes on behind it
    obtain ⟨hlow, hhigh, hbefore, hafter⟩ := ih (by omega) hfront
    refine ⟨by omega, hhigh, fun i hi hlast => ?_, hafter⟩
    by_cases hmiddle : i ≤ middle
    · exact hfront i middle hmiddle (by omega) hholds
    · exact hbefore i (by omega) hlast
  | case2 low high hlt middle hfails ih =>
    -- Nothing from the middle on has the property, and the search goes on before it
    obtain ⟨hlow, hhigh, hbefore, hafter⟩ :=
      ih (by omega) fun i j hij hj => hfront i j hij (by omega)
    refine ⟨hlow, by omega, hbefore, fun i hi hlast => ?_⟩
    by_cases hmiddle : i < middle
    · exact hafter i hi hmiddle
    · refine Bool.eq_false_iff.mpr fun hi' => hfails ?_
      exact hfront middle i (by omega) hlast hi'
  | case3 low high hge => exact ⟨le_rfl, hle, fun i _ _ => by omega, fun i _ _ => by omega⟩

section Searching

variable {α β : Type} {p : α → Bool} {xs : List α}

theorem partitionPoint_map (f : β → α) (ys : List β) :
    partitionPoint p (ys.map f).toArray = partitionPoint (p ∘ f) ys.toArray := by
  -- The test of an index reads the same element, mapped before or after
  have hany : (fun i : Nat => (ys.map f).toArray[i]?.any p) =
      fun i : Nat => ys.toArray[i]?.any (p ∘ f) := by
    funext i
    simp only [List.getElem?_toArray, List.getElem?_map]
    cases ys[i]? <;> rfl
  rw [partitionPoint, partitionPoint, hany]
  simp

/-- The place found by halving splits a row into the elements with the property and those without,
if each element before one with the property has it. -/
theorem partitionPoint_spec (hfront : xs.Pairwise fun a b => p b = true → p a = true) :
    xs.take (partitionPoint p xs.toArray) = xs.filter p ∧
      xs.drop (partitionPoint p xs.toArray) = xs.filter fun a => !p a := by
  set k := partitionPoint p xs.toArray with hk
  -- Reading by index inside the row is reading the element
  have hindex : ∀ i (hi : i < xs.length), xs.toArray[i]?.any p = p xs[i] := by
    intro i hi
    simp [hi]
  obtain ⟨-, hhigh, hbefore, hafter⟩ :=
    halving_spec (p := fun i => xs.toArray[i]?.any p) (Nat.zero_le xs.toArray.size) (by
      intro i j hij hj hholds
      have hj' : j < xs.length := by simpa using hj
      have hi' : i < xs.length := by omega
      rw [hindex j hj'] at hholds
      rw [hindex i hi']
      rcases hij.lt_or_eq with hlt | rfl
      · exact List.pairwise_iff_getElem.mp hfront i j hi' hj' hlt hholds
      · exact hholds)
  have htake : ∀ a ∈ xs.take k, p a = true := by
    intro a ha
    obtain ⟨i, hi, rfl⟩ := List.getElem_of_mem ha
    have hi' : i < k ∧ i < xs.length := by simpa using hi
    rw [List.getElem_take, ← hindex i hi'.2]
    exact hbefore i (Nat.zero_le i) hi'.1
  have hdrop : ∀ a ∈ xs.drop k, p a = false := by
    intro a ha
    obtain ⟨i, hi, rfl⟩ := List.getElem_of_mem ha
    have hi' : k + i < xs.length := by
      have := List.length_drop (l := xs) (i := k)
      omega
    rw [List.getElem_drop, ← hindex (k + i) hi']
    exact hafter (k + i) (Nat.le_add_right k i) (by simpa using hi')
  -- So the filter keeps one of the two parts whole and drops the other
  have hsplit := List.take_append_drop k xs
  constructor
  · conv_rhs => rw [← hsplit, List.filter_append]
    rw [List.filter_eq_self.mpr htake, List.filter_eq_nil_iff.mpr, List.append_nil]
    exact fun a ha => by simp [hdrop a ha]
  · conv_rhs => rw [← hsplit, List.filter_append]
    rw [List.filter_eq_nil_iff.mpr, List.filter_eq_self.mpr, List.nil_append]
    · exact fun a ha => by simp [hdrop a ha]
    · exact fun a ha => by simp [htake a ha]

/-- What lies between two places found by halving: what has the property of the second place, and no
longer that of the first. -/
theorem slice_eq_filter {q : α → Bool} (hp : xs.Pairwise fun a b => p b = true → p a = true)
    (hq : xs.Pairwise fun a b => q b = true → q a = true) :
    (xs.take (partitionPoint q xs.toArray)).drop (partitionPoint p xs.toArray) =
      xs.filter fun a => !p a && q a := by
  obtain ⟨htakep, hdropp⟩ := partitionPoint_spec hp
  obtain ⟨htakeq, -⟩ := partitionPoint_spec hq
  set i := partitionPoint p xs.toArray
  rw [← List.filter_filter, ← htakeq]
  set front := xs.take (partitionPoint q xs.toArray) with hfront
  -- Of what is before the second place, all before the first has its property, and nothing after it
  have hbefore : (front.take i).filter (fun a => !p a) = [] := by
    refine List.filter_eq_nil_iff.mpr fun a ha => ?_
    rw [hfront, List.take_take, min_comm, ← List.take_take] at ha
    have hmem := List.mem_of_mem_take ha
    rw [htakep] at hmem
    simp [(List.mem_filter.mp hmem).2]
  have hafter : (front.drop i).filter (fun a => !p a) = front.drop i := by
    refine List.filter_eq_self.mpr fun a ha => ?_
    rw [hfront, List.drop_take] at ha
    have hmem := List.mem_of_mem_take ha
    rw [hdropp] at hmem
    exact (List.mem_filter.mp hmem).2
  conv_rhs => rw [← List.take_append_drop i front, List.filter_append, hbefore, hafter]
  rfl

/-- Where a property of a front part stops, nothing has it any more. -/
theorem takeWhile_eq_filter (hfront : xs.Pairwise fun a b => p b = true → p a = true) :
    xs.takeWhile p = xs.filter p := by
  induction xs with
  | nil => rfl
  | cons a rest ih =>
    obtain ⟨hfirst, hrest⟩ := List.pairwise_cons.mp hfront
    cases hp : p a with
    | true =>
      rw [List.takeWhile_cons_of_pos hp, List.filter_cons_of_pos hp, ih hrest]
    | false =>
      -- An element without the property has none with it behind it
      have hnone : ∀ b ∈ rest, ¬ p b = true := fun b hb h => by
        rw [hfirst b hb h] at hp
        cases hp
      rw [List.takeWhile_cons_of_neg (by simp [hp]), List.filter_cons_of_neg (by simp [hp]),
        List.filter_eq_nil_iff.mpr hnone]

theorem dropWhile_eq_filter (hfront : xs.Pairwise fun a b => p b = true → p a = true) :
    xs.dropWhile p = xs.filter fun a => !p a := by
  induction xs with
  | nil => rfl
  | cons a rest ih =>
    obtain ⟨hfirst, hrest⟩ := List.pairwise_cons.mp hfront
    cases hp : p a with
    | true =>
      rw [List.dropWhile_cons_of_pos hp, List.filter_cons_of_neg (by simp [hp]), ih hrest]
    | false =>
      rw [List.dropWhile_cons_of_neg (by simp [hp]), eq_comm, List.filter_eq_self]
      intro b hb
      rcases List.mem_cons.mp hb with rfl | hb
      · simp [hp]
      · have hnone : p b ≠ true := fun h => absurd ((hfirst b hb h).symm.trans hp) nofun
        simp [hnone]

/-- A weaker property holds of a front part at least as long, also when more comes before it. -/
theorem takeWhile_prefix {q : α → Bool} (front : List α) {back : List α}
    (hpq : ∀ a ∈ back, p a = true → q a = true) :
    (front ++ back).takeWhile p <+: front ++ back.takeWhile q := by
  induction front with
  | nil =>
    rw [List.nil_append, List.nil_append]
    induction back with
    | nil => exact List.prefix_rfl
    | cons a rest ih =>
      cases hp : p a with
      | false =>
        rw [List.takeWhile_cons_of_neg (by simp [hp])]
        exact List.nil_prefix
      | true =>
        rw [List.takeWhile_cons_of_pos hp,
          List.takeWhile_cons_of_pos (hpq a List.mem_cons_self hp), List.prefix_cons_inj]
        exact ih fun b hb => hpq b (List.mem_cons_of_mem _ hb)
  | cons a rest ih =>
    cases hp : p a with
    | false =>
      rw [List.cons_append, List.takeWhile_cons_of_neg (by simp [hp])]
      exact List.nil_prefix
    | true =>
      rw [List.cons_append, List.takeWhile_cons_of_pos hp, List.cons_append, List.prefix_cons_inj]
      exact ih

/-- So it goes on from the end of the other front part, and both leave the same to be dropped. -/
theorem dropWhile_ahead {q : α → Bool} (front : List α) {back : List α}
    (hpq : ∀ a ∈ back, p a = true → q a = true) :
    ∃ rest, (front ++ back).takeWhile p ++ rest = front ++ back.takeWhile q ∧
      (front ++ back).dropWhile p = rest ++ back.dropWhile q := by
  obtain ⟨rest, hrest⟩ := takeWhile_prefix front hpq
  have hsame : (front ++ back).takeWhile p ++ (front ++ back).dropWhile p =
      (front ++ back).takeWhile p ++ (rest ++ back.dropWhile q) := by
    rw [List.takeWhile_append_dropWhile, ← List.append_assoc, hrest, List.append_assoc,
      List.takeWhile_append_dropWhile]
  exact ⟨rest, hrest, List.append_cancel_left hsame⟩

end Searching

end Lamella.Order
