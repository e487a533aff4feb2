import Lamella.Proofs.Layout.Tuned
import Mathlib.Order.Bounds.Basic

/-!
# Where labels lead

Keys make a layout if their indices count up from zero, in whatever order they are given, and that
order has no part in the layout. Of the keys that display a label, those of its own degree are
preferred, and of equals the last one in the row; this is what is left of the table of addresses when
all keys have entered it. A key has a written label just if the label that it displays leads to it.

## Main definitions

- `Layout.Consecutive`: keys whose indices count up from zero, in some order.
- `Layout.preferred`: the key that a label leads to, said without a table.
- `Layout.Leads`: that key by its index, in whatever order the keys are given.

## Main statements

- `Layout.exists_make`, `Layout.make_eq_of_perm`: which keys make a layout, in any order.
- `Layout.find?_foldl_enter`: the table has the preferred key for each label.
- `Layout.lookup_eq_some_iff`, `Layout.labelFor_eq_some_iff`: labels to keys and back.
- `Layout.labels_of_keys`: the law of labels, for all lists of keys.
-/

namespace Lamella.Layout

variable {F : Type}

/-! ## §1 Keys in any order -/

/-- There is a key at least, and the indices count up from zero, in some order. -/
structure Consecutive (keys : List (Key F)) : Prop where
  ne_nil : keys ≠ []
  indices_perm : (keys.map Key.index).Perm ((List.range keys.length).map Int.ofNat)

/-- Why keys make no layout, told from their indices. -/
def refusal (indices : List Int) : Fault := if indices = [] then .noKeys else .scattered indices

variable {keys keys' : List (Key F)}

theorem Consecutive.of_perm (h : Consecutive keys) (hperm : keys'.Perm keys) :
    Consecutive keys' where
  ne_nil := fun hnil => h.ne_nil (hnil ▸ hperm).symm.eq_nil
  indices_perm := by
    rw [hperm.length_eq]
    exact (hperm.map Key.index).trans h.indices_perm

theorem inOrder_perm (keys : List (Key F)) : (inOrder keys).Perm keys := List.mergeSort_perm keys _

theorem inOrder_pairwise (keys : List (Key F)) :
    (inOrder keys).Pairwise fun a b => a.index ≤ b.index := by
  have hle : (inOrder keys).Pairwise fun a b => decide (a.index ≤ b.index) = true :=
    List.pairwise_mergeSort (fun a b c => by simpa using fun hab hbc => Int.le_trans hab hbc)
      (fun a b => by simpa using Int.le_total a.index b.index) keys
  exact hle.imp of_decide_eq_true

/-- Indices have one order only. -/
theorem map_index_inOrder {indices : List Int} (h : (keys.map Key.index).Perm indices)
    (hsorted : indices.Pairwise (· ≤ ·)) : (inOrder keys).map Key.index = indices :=
  List.Perm.eq_of_pairwise (fun _ _ _ _ => Int.le_antisymm)
    (List.pairwise_map.mpr (inOrder_pairwise keys)) hsorted
    (((inOrder_perm keys).map Key.index).trans h)

theorem Consecutive.map_index_inOrder (h : Consecutive keys) :
    (inOrder keys).map Key.index = (List.range (inOrder keys).length).map Int.ofNat := by
  rw [(inOrder_perm keys).length_eq]
  exact Layout.map_index_inOrder h.indices_perm
    (List.pairwise_map.mpr (List.pairwise_le_range.imp Int.ofNat_le.mpr))

/-- Consecutive keys make a layout, in which they are in order. -/
theorem exists_make (h : Consecutive keys) (name : Text) (calibrated : Bool) :
    ∃ l, make keys name calibrated = .ok l ∧ l.keys = inOrder keys := by
  have hne : inOrder keys ≠ [] := (h.of_perm (inOrder_perm keys)).ne_nil
  exact ⟨⟨inOrder keys, name, calibrated, hne, h.map_index_inOrder⟩, by
    rw [make, dif_neg hne, dif_pos h.map_index_inOrder], rfl⟩

/-- All other keys are refused. -/
theorem make_of_not_consecutive (h : ¬ Consecutive keys) (name : Text) (calibrated : Bool) :
    make keys name calibrated = .error (refusal ((inOrder keys).map Key.index)) := by
  unfold make refusal
  dsimp only
  split_ifs with hnil hindices hmap hmap
  · rfl
  · exact absurd (List.map_eq_nil_iff.mpr hnil) hindices
  · have hperm := inOrder_perm keys
    refine absurd (Consecutive.of_perm ⟨hnil, ?_⟩ hperm.symm) h
    exact .of_eq hmap
  · exact absurd (List.map_eq_nil_iff.mp hmap) hnil
  · rfl

theorem kind_refusal (indices : List Int) : (refusal indices).kind = .layout := by
  unfold refusal
  split <;> rfl

/-- Consecutive keys have one order only. -/
theorem Consecutive.inOrder_eq (h : Consecutive keys) (hperm : keys'.Perm keys) :
    inOrder keys' = inOrder keys := by
  have hnodup : ((inOrder keys).map Key.index).Nodup := by
    rw [h.map_index_inOrder]
    exact List.pairwise_map.mpr (List.nodup_range.imp fun hne heq => hne (Int.ofNat.inj heq))
  have hsame : (inOrder keys').Perm (inOrder keys) :=
    (inOrder_perm keys').trans (hperm.trans (inOrder_perm keys).symm)
  refine List.Perm.eq_of_pairwise (fun a b ha hb hab hba => ?_) (inOrder_pairwise keys')
    (inOrder_pairwise keys) hsame
  exact List.inj_on_of_nodup_map hnodup (hsame.mem_iff.mp ha) hb (Int.le_antisymm hab hba)

/-- **The order in which keys are given has no part in a layout**, nor in why there is none. -/
theorem make_eq_of_perm (hperm : keys'.Perm keys) (name : Text) (calibrated : Bool) :
    make keys' name calibrated = make keys name calibrated := by
  by_cases h : Consecutive keys
  · rw [make, make, h.inOrder_eq hperm]
  · have h' : ¬ Consecutive keys' := fun h' => h (h'.of_perm hperm.symm)
    have hindices : (inOrder keys').map Key.index = (inOrder keys).map Key.index :=
      Layout.map_index_inOrder ((hperm.map Key.index).trans ((inOrder_perm keys).map Key.index).symm)
        (List.pairwise_map.mpr (inOrder_pairwise keys))
    rw [make_of_not_consecutive h, make_of_not_consecutive h', hindices]

/-! ## §2 The key that a label leads to -/

/-- The key that a label leads to, of keys from left to right: the last one that displays it and has
its degree, or else the last one that displays it. -/
def preferred (label : Label) (keys : List (Key F)) : Option (Key F) :=
  (keys.filter fun k => k.label? = some label ∧ k.degree = label.degree).getLast?.or
    (keys.filter fun k => k.label? = some label).getLast?

/-- Taking over the address of a label changes what a table has for this label only. -/
theorem find?_map_replace (table : List Address) (new : Address) (label : Label) :
    (table.map fun a => if a.label == new.label then new else a).find? (·.label == label) =
      if new.label = label then (table.find? (·.label == label)).map fun _ => new
      else table.find? (·.label == label) := by
  -- The labels stay what they were, so that the same address is found
  have hkeep : ((fun a : Address => a.label == label) ∘ fun a =>
      if a.label == new.label then new else a) = (·.label == label) := by
    funext a
    by_cases ha : a.label = new.label <;> simp [ha]
  rw [List.find?_map, hkeep]
  cases hfound : table.find? (·.label == label) with
  | none => simp
  | some a =>
    have ha : a.label = label := by simpa using List.find?_some hfound
    by_cases hnew : new.label = label
    · simp [ha, hnew]
    · have hne : ¬ a.label = new.label := fun h => hnew (h.symm.trans ha)
      simp [hne, hnew]

/-- What a table has for a label after a key has entered it. A key that displays the label takes it,
unless the table has a key of the label's degree and this one is of another degree. -/
theorem find?_enter (table : List Address) (k : Key F) (label : Label) :
    (enter table k).find? (·.label == label) =
      if k.label? = some label then
        if (table.find? (·.label == label)).any (·.byDegree) && !(k.degree == label.degree) then
          table.find? (·.label == label)
        else some (address k label)
      else table.find? (·.label == label) := by
  unfold enter
  cases hlabel : k.label? with
  | none => simp
  | some shown =>
    have hreplace := find?_map_replace table (address k shown) label
    by_cases hshown : shown = label
    · subst hshown
      cases hfound : table.find? (·.label == shown) with
      | none => simp [hfound, address]
      | some old =>
        cases hgives : old.byDegree && !(k.degree == shown.degree) with
        | true => simp [hfound, hgives]
        | false => simpa [hfound, hgives, address] using hreplace
    · cases hfound : table.find? (·.label == shown) with
      | none => simp [hfound, hshown]
      | some old =>
        cases hgives : old.byDegree && !(k.degree == shown.degree) with
        | true => simp [hfound, hgives, hshown]
        | false => simpa [hfound, hgives, hshown, address] using hreplace

/-- The preferred key has the label's degree just if one of the keys that display the label has. -/
theorem any_byDegree_preferred (label : Label) (keys : List (Key F)) :
    ((preferred label keys).map (address · label)).any (·.byDegree) = true ↔
      (keys.filter fun k => k.label? = some label ∧ k.degree = label.degree) ≠ [] := by
  unfold preferred
  cases hown : (keys.filter fun k => k.label? = some label ∧ k.degree = label.degree).getLast? with
  | some k =>
    have hk := List.mem_of_getLast? hown
    have hdegree : k.degree = label.degree :=
      (of_decide_eq_true (List.mem_filter.mp hk).2).2
    simp only [Option.some_or, Option.map_some, Option.any_some, address, hdegree, beq_self_eq_true,
      true_iff]
    exact List.ne_nil_of_mem hk
  | none =>
    have hnone := List.getLast?_eq_none_iff.mp hown
    simp only [Option.none_or, hnone, ne_eq, not_true, iff_false]
    cases hshown : (keys.filter fun k => k.label? = some label).getLast? with
    | none => simp
    | some k =>
      obtain ⟨hk, hlabel⟩ := List.mem_filter.mp (List.mem_of_getLast? hshown)
      have hdegree : ¬ k.degree = label.degree := by
        intro hdegree
        refine List.filter_eq_nil_iff.mp hnone k hk ?_
        simpa [hdegree] using hlabel
      simpa [address] using hdegree

/-- One more key on the right is preferred if it displays the label, unless one of those before has the
label's degree and this one has not. -/
theorem preferred_concat (label : Label) (keys : List (Key F)) (k : Key F) :
    preferred label (keys ++ [k]) =
      if k.label? = some label then
        if (keys.filter fun k => k.label? = some label ∧ k.degree = label.degree) ≠ [] ∧
            k.degree ≠ label.degree then preferred label keys
        else some k
      else preferred label keys := by
  unfold preferred
  rw [List.filter_append, List.filter_append]
  by_cases hlabel : k.label? = some label
  · by_cases hdegree : k.degree = label.degree
    · simp [hlabel, hdegree]
    · have hown : [k].filter (fun k => k.label? = some label ∧ k.degree = label.degree) = [] := by
        simp [hdegree]
      have hshown : [k].filter (fun k => k.label? = some label) = [k] := by simp [hlabel]
      rw [hown, hshown, List.append_nil, List.getLast?_concat, if_pos hlabel]
      split_ifs with hbefore
      · rw [List.getLast?_eq_some_getLast hbefore.1, Option.some_or, Option.some_or]
      · have hnil : (keys.filter fun k => k.label? = some label ∧ k.degree = label.degree) = [] := by
          by_contra hne
          exact hbefore ⟨hne, hdegree⟩
        rw [hnil, List.getLast?_nil, Option.none_or]
  · simp [hlabel]

/-- **The table has the preferred key for each label.** -/
theorem find?_foldl_enter (label : Label) (keys : List (Key F)) :
    (keys.foldl enter []).find? (·.label == label) =
      (preferred label keys).map (address · label) := by
  induction keys using List.reverseRecOn with
  | nil => rfl
  | append_singleton keys k ih =>
    rw [List.foldl_append, List.foldl_cons, List.foldl_nil, find?_enter, ih, preferred_concat]
    simp only [Bool.and_eq_true, any_byDegree_preferred, Bool.not_eq_true', beq_eq_false_iff_ne]
    split_ifs <;> rfl

/-! ## §3 The law of labels -/

/-- The indices of the keys that display a label. -/
def displaying (keys : List (Key F)) (label : Label) : Set Int :=
  {index | ∃ k ∈ keys, k.label? = some label ∧ k.index = index}

/-- The indices of the keys that display a label and have its degree. -/
def bearing (keys : List (Key F)) (label : Label) : Set Int :=
  {index | ∃ k ∈ keys, k.label? = some label ∧ k.degree = label.degree ∧ k.index = index}

/-- Where a label leads: to the largest index among the keys that display it and have its degree, or
where there is none, to the largest index among the keys that display it. -/
def Leads (keys : List (Key F)) (label : Label) (index : Int) : Prop :=
  IsGreatest (bearing keys label) index ∨
    bearing keys label = ∅ ∧ IsGreatest (displaying keys label) index

/-- In a row from left to right, the last key of a class has the largest index of the class. -/
theorem le_index_of_getLast? {p : Key F → Bool} {k : Key F}
    (hsorted : keys.Pairwise fun a b => a.index < b.index)
    (h : (keys.filter p).getLast? = some k) :
    (k ∈ keys ∧ p k = true) ∧ ∀ k' ∈ keys, p k' = true → k'.index ≤ k.index := by
  obtain ⟨before, hsplit⟩ := List.getLast?_eq_some_iff.mp h
  have hpair := hsorted.filter p
  rw [hsplit, List.pairwise_append] at hpair
  refine ⟨List.mem_filter.mp (List.mem_of_getLast? h), fun k' hk' hp => ?_⟩
  have hmem : k' ∈ before ++ [k] := hsplit ▸ List.mem_filter.mpr ⟨hk', hp⟩
  rcases List.mem_append.mp hmem with hbefore | hlast
  · exact (hpair.2.2 k' hbefore k List.mem_cons_self).le
  · rw [List.mem_singleton.mp hlast]

theorem isGreatest_bearing {label : Label} {k : Key F}
    (hsorted : keys.Pairwise fun a b => a.index < b.index)
    (h : (keys.filter fun k => k.label? = some label ∧ k.degree = label.degree).getLast? = some k) :
    IsGreatest (bearing keys label) k.index := by
  obtain ⟨⟨hk, hown⟩, hlargest⟩ := le_index_of_getLast? hsorted h
  obtain ⟨hlabel, hdegree⟩ := of_decide_eq_true hown
  refine ⟨⟨k, hk, hlabel, hdegree, rfl⟩, ?_⟩
  rintro _ ⟨k', hk', hlabel', hdegree', rfl⟩
  exact hlargest k' hk' (decide_eq_true ⟨hlabel', hdegree'⟩)

theorem isGreatest_displaying {label : Label} {k : Key F}
    (hsorted : keys.Pairwise fun a b => a.index < b.index)
    (h : (keys.filter fun k => k.label? = some label).getLast? = some k) :
    IsGreatest (displaying keys label) k.index := by
  obtain ⟨⟨hk, hlabel⟩, hlargest⟩ := le_index_of_getLast? hsorted h
  refine ⟨⟨k, hk, of_decide_eq_true hlabel, rfl⟩, ?_⟩
  rintro _ ⟨k', hk', hlabel', rfl⟩
  exact hlargest k' hk' (decide_eq_true hlabel')

/-- A label leads to one key only. -/
theorem Leads.unique {label : Label} {i j : Int} (hi : Leads keys label i)
    (hj : Leads keys label j) : i = j := by
  rcases hi with hi | ⟨hnone, hi⟩ <;> rcases hj with hj | ⟨hnone', hj⟩
  · exact hi.unique hj
  · exact absurd hi.1 (hnone' ▸ Set.notMem_empty i)
  · exact absurd hj.1 (hnone ▸ Set.notMem_empty j)
  · exact hi.unique hj

/-- The preferred key of a row is the one that the label leads to. -/
theorem leads_of_preferred {label : Label} {k : Key F}
    (hsorted : keys.Pairwise fun a b => a.index < b.index) (h : preferred label keys = some k) :
    Leads keys label k.index := by
  unfold preferred at h
  cases hown : (keys.filter fun k => k.label? = some label ∧ k.degree = label.degree).getLast? with
  | some m =>
    rw [hown, Option.some_or] at h
    cases h
    exact .inl (isGreatest_bearing hsorted hown)
  | none =>
    rw [hown, Option.none_or] at h
    refine .inr ⟨Set.eq_empty_iff_forall_notMem.mpr ?_, isGreatest_displaying hsorted h⟩
    rintro _ ⟨k', hk', hlabel, hdegree, rfl⟩
    have hnone := List.filter_eq_nil_iff.mp (List.getLast?_eq_none_iff.mp hown) k' hk'
    exact hnone (decide_eq_true ⟨hlabel, hdegree⟩)

/-- No key is preferred just if none displays the label. -/
theorem preferred_eq_none_iff {label : Label} :
    preferred label keys = none ↔ displaying keys label = ∅ := by
  unfold preferred
  rw [Option.or_eq_none_iff, List.getLast?_eq_none_iff, List.getLast?_eq_none_iff,
    List.filter_eq_nil_iff, List.filter_eq_nil_iff, Set.eq_empty_iff_forall_notMem]
  constructor
  · rintro ⟨-, hnone⟩ _ ⟨k, hk, hlabel, rfl⟩
    exact hnone k hk (decide_eq_true hlabel)
  · intro hnone
    have hnone' (k : Key F) (hk : k ∈ keys) : ¬ k.label? = some label := fun hlabel =>
      hnone k.index ⟨k, hk, hlabel, rfl⟩
    exact ⟨fun k hk hown => hnone' k hk (of_decide_eq_true hown).1,
      fun k hk hlabel => hnone' k hk (of_decide_eq_true hlabel)⟩

/-- The keys of a layout stand from left to right. -/
theorem keys_sorted (l : Layout F) : l.keys.Pairwise fun a b => a.index < b.index := by
  have hindices : (l.keys.map Key.index).Pairwise (· < ·) := by
    rw [l.indices_eq]
    exact List.pairwise_map.mpr (List.pairwise_lt_range.imp Int.ofNat_lt.mpr)
  exact List.pairwise_map.mp hindices

variable (l : Layout F)

theorem lookup_eq_preferred (label : Label) :
    l.lookup label = (preferred label l.keys).map Key.index := by
  rw [lookup, indexIn, addresses, find?_foldl_enter, Option.map_map]
  rfl

/-- **What a label leads to.** -/
theorem lookup_eq_some_iff {label : Label} {index : Int} :
    l.lookup label = some index ↔ Leads l.keys label index := by
  rw [lookup_eq_preferred]
  constructor
  · intro h
    obtain ⟨k, hk, rfl⟩ := Option.map_eq_some_iff.mp h
    exact leads_of_preferred l.keys_sorted hk
  · intro h
    cases hpreferred : preferred label l.keys with
    | some k => rw [Option.map_some, (leads_of_preferred l.keys_sorted hpreferred).unique h]
    | none =>
      -- A key with the index displays the label
      have hnone := preferred_eq_none_iff.mp hpreferred
      rcases h with ⟨⟨k, hk, hlabel, -, hindex⟩, -⟩ | ⟨-, hmem, -⟩
      · exact absurd ⟨k, hk, hlabel, hindex⟩ (hnone ▸ Set.notMem_empty index)
      · exact absurd hmem (hnone ▸ Set.notMem_empty index)

theorem lookup_eq_none_iff {label : Label} :
    l.lookup label = none ↔ displaying l.keys label = ∅ := by
  rw [lookup_eq_preferred, Option.map_eq_none_iff, preferred_eq_none_iff]

/-- The label of an address leads to its key. -/
theorem lookup_eq_some_iff_mem {label : Label} {index : Int} :
    l.lookup label = some index ↔ ∃ a ∈ l.addresses, a.label = label ∧ a.index = index := by
  constructor
  · intro h
    obtain ⟨a, hfound, rfl⟩ := Option.map_eq_some_iff.mp h
    exact ⟨a, List.mem_of_find?_eq_some hfound, by simpa using List.find?_some hfound, rfl⟩
  · rintro ⟨a, ha, rfl, rfl⟩
    rw [lookup, indexIn, find?_eq_some_of_pairwise l.addresses_distinct.label_ne ha]
    rfl

/-- The key that a label leads to has this label, as it is written. -/
theorem labelFor_of_lookup {label : Label} {index : Int} (h : l.lookup label = some index) :
    l.labelFor index = some label.text := by
  obtain ⟨a, ha, rfl, rfl⟩ := l.lookup_eq_some_iff_mem.mp h
  rw [labelFor, labelIn, find?_eq_some_of_pairwise l.addresses_distinct.index_ne ha]
  rfl

/-- **What the written label of a key is**: that of the label which it displays, if this label leads
to it. -/
theorem labelFor_eq_some_iff {index : Int} {s : Text} :
    l.labelFor index = some s ↔
      ∃ k ∈ l.keys, k.index = index ∧
        ∃ label, k.label? = some label ∧ l.lookup label = some index ∧ s = label.text := by
  constructor
  · intro h
    obtain ⟨label, hlabel, rfl⟩ := Option.map_eq_some_iff.mp h
    obtain ⟨a, hfound, rfl⟩ := Option.map_eq_some_iff.mp hlabel
    have ha := List.mem_of_find?_eq_some hfound
    have hindex : a.index = index := by simpa using List.find?_some hfound
    obtain ⟨k, hk, hkey, hshown⟩ := (mem_foldl_enter ha).resolve_left List.not_mem_nil
    exact ⟨k, hk, hkey.trans hindex, a.label, hshown,
      l.lookup_eq_some_iff_mem.mpr ⟨a, ha, rfl, hindex⟩, rfl⟩
  · rintro ⟨-, -, -, label, -, hlookup, rfl⟩
    exact l.labelFor_of_lookup hlookup

/-- **The law of labels.** Consecutive keys make a layout, and all others are refused as no layout;
the order in which they are given has no part in either. In the layout a label leads to the largest
index among the keys that display it and have its degree, or if there is none, among those that
display it, and it leads nowhere if no key displays it. A key has a written label just if the label
that it displays leads to it, and this label, as it is written, leads back to the key; and the key
that any label leads to has this label, as it is written. -/
theorem labels_of_keys (keys : List (Key F)) (name : Text) (calibrated : Bool) :
    (∀ keys' : List (Key F), keys'.Perm keys →
      make keys' name calibrated = make keys name calibrated) ∧
    (¬ Consecutive keys →
      ∃ fault, make keys name calibrated = .error fault ∧ fault.kind = .layout) ∧
    (Consecutive keys → ∃ l, make keys name calibrated = .ok l ∧ l.keys.Perm keys ∧
      (∀ label index, l.lookup label = some index ↔ Leads keys label index) ∧
      (∀ label, l.lookup label = none ↔ displaying keys label = ∅) ∧
      (∀ index s, l.labelFor index = some s ↔ ∃ k ∈ keys, k.index = index ∧
        ∃ label, k.label? = some label ∧ l.lookup label = some index ∧ s = label.text) ∧
      (∀ index s, l.labelFor index = some s → l.resolve s = some index) ∧
      (∀ label index, l.lookup label = some index → l.labelFor index = some label.text)) := by
  refine ⟨fun keys' hperm => make_eq_of_perm hperm name calibrated, fun h => ?_, fun h => ?_⟩
  · exact ⟨_, make_of_not_consecutive h name calibrated, kind_refusal _⟩
  · obtain ⟨l, hl, -⟩ := exists_make h name calibrated
    have hperm := keys_perm_of_make hl
    have hdisplaying (label : Label) : displaying l.keys label = displaying keys label := by
      simp only [displaying, hperm.mem_iff]
    have hbearing (label : Label) : bearing l.keys label = bearing keys label := by
      simp only [bearing, hperm.mem_iff]
    refine ⟨l, hl, hperm, fun label index => ?_, fun label => ?_, fun index s => ?_,
      fun index s hs => ?_, fun label index => l.labelFor_of_lookup⟩
    · rw [l.lookup_eq_some_iff, Leads, hdisplaying, hbearing, Leads]
    · rw [l.lookup_eq_none_iff, hdisplaying]
    · simp only [l.labelFor_eq_some_iff, hperm.mem_iff]
    · obtain ⟨-, -, -, hresolve⟩ := resolveIn_labelIn l.addresses_distinct hs
      exact hresolve

end Lamella.Layout
