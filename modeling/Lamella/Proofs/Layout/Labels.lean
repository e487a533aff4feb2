import Lamella.Layout.Basic
import Lamella.Proofs.Text.Rows

/-!
# Labels of a layout

A label that can be read is read back from its written form, and the table of addresses that is
gathered from the keys of a layout is one-to-one: no label stands in it twice, and no key. Written
labels and keys therefore lead to each other.

## Main statements

- `Label.ofText?_text`: written labels read back.
- `Layout.addresses_distinct`: the table of a layout is one-to-one.
- `Layout.resolveIn_labelIn`, `Layout.labelIn_resolveIn`: labels lead to keys and back.
-/

namespace Lamella

/-! ## §1 Written labels -/

namespace Label

/-- A label that can be written and read: its degree is one of the seven, and its count of glyphs is
no debt. -/
structure Readable (l : Label) : Prop where
  one_le : 1 ≤ l.degree
  le_seven : l.degree ≤ 7
  markers_nonneg : 0 ≤ l.markers

/-- A readable label is written as a degree and glyphs. -/
theorem text_eq {l : Label} (h : l.Readable) :
    ∃ c, isDegree c = true ∧ (c.toNat : Int) - 48 = l.degree ∧
      l.text = .char c :: glyphs l.markers := by
  have hdegree : l.degree = 1 ∨ l.degree = 2 ∨ l.degree = 3 ∨ l.degree = 4 ∨ l.degree = 5 ∨
      l.degree = 6 ∨ l.degree = 7 := by
    have := h.one_le
    have := h.le_seven
    omega
  unfold text
  rcases hdegree with h | h | h | h | h | h | h <;> rw [h]
  · exact ⟨'1', by decide, by decide, rfl⟩
  · exact ⟨'2', by decide, by decide, rfl⟩
  · exact ⟨'3', by decide, by decide, rfl⟩
  · exact ⟨'4', by decide, by decide, rfl⟩
  · exact ⟨'5', by decide, by decide, rfl⟩
  · exact ⟨'6', by decide, by decide, rfl⟩
  · exact ⟨'7', by decide, by decide, rfl⟩

/-- The points that written labels are made of. -/
theorem mem_text {l : Label} (h : l.Readable) {p : Point} (hp : p ∈ l.text) :
    ∃ c, p = .char c ∧ (isDegree c = true ∨ c = glyph) := by
  obtain ⟨c, hc, -, htext⟩ := text_eq h
  rw [htext, List.mem_cons] at hp
  rcases hp with rfl | hp
  · exact ⟨c, rfl, .inl hc⟩
  · exact ⟨glyph, List.eq_of_mem_replicate hp, .inr rfl⟩

theorem isDegree_iff {c : Char} : isDegree c = true ↔ 49 ≤ c.toNat ∧ c.toNat ≤ 55 := by
  simp only [isDegree, Bool.and_eq_true, decide_eq_true_eq, Char.le_def, UInt32.le_iff_toNat_le]
  exact Iff.rfl

/-- A point of a written label is a degree or a glyph, and so none of the points that mean something
else in tablature. -/
theorem code_of_mem_text {l : Label} (h : l.Readable) {p : Point} (hp : p ∈ l.text) :
    (49 ≤ p.code ∧ p.code ≤ 55) ∨ p.code = 176 := by
  obtain ⟨c, rfl, hc | rfl⟩ := mem_text h hp
  · exact .inl (isDegree_iff.mp hc)
  · exact .inr rfl

theorem withoutLineFeed_text {l : Label} (h : l.Readable) : withoutLineFeed l.text = l.text := by
  unfold withoutLineFeed
  refine if_neg fun hlast => ?_
  have hcode := code_of_mem_text h (List.mem_of_getLast? hlast)
  exact absurd hcode (by decide)

/-- A written label is read back. -/
theorem ofText?_text {l : Label} (h : l.Readable) : ofText? l.text = some l := by
  obtain ⟨c, hc, hdegree, htext⟩ := text_eq h
  have hmarkers := h.markers_nonneg
  -- The degree is read from the first point, and the glyphs are counted
  have hglyphs : (glyphs l.markers).all (Point.is (· = glyph)) = true := by
    rw [glyphs, List.all_replicate]
    simp [Point.is]
  have hcount : ((glyphs l.markers).length : Int) = l.markers := by
    rw [glyphs, List.length_replicate]
    omega
  rw [ofText?, withoutLineFeed_text h, htext]
  simp only [ofPlain?, hc, hglyphs, and_self, if_true, hcount, hdegree]

/-- What is read as a label is readable. -/
theorem readable_of_ofText? {s : Text} {l : Label} (h : ofText? s = some l) : l.Readable := by
  unfold ofText? ofPlain? at h
  split at h
  · split at h
    · rename_i hc
      obtain ⟨hlow, hhigh⟩ := isDegree_iff.mp hc.1
      injection h with h
      subst h
      exact ⟨by simp only; omega, by simp only; omega, by simp only; omega⟩
    · exact absurd h (by simp)
  · exact absurd h (by simp)

end Label

/-! ## §2 Tables of addresses -/

namespace Layout

variable {F : Type}

/-- In a row in which a property of the elements never repeats, an element is found by it. -/
theorem find?_eq_some_of_pairwise {α β : Type} [DecidableEq β] {f : α → β} {xs : List α}
    (h : xs.Pairwise fun a b => f a ≠ f b) {a : α} (ha : a ∈ xs) :
    xs.find? (f · == f a) = some a := by
  induction xs with
  | nil => exact absurd ha List.not_mem_nil
  | cons x xs ih =>
    rw [List.pairwise_cons] at h
    rcases List.mem_cons.mp ha with rfl | ha
    · simp
    · have hne : (f x == f a) = false := beq_eq_false_iff_ne.mpr (h.1 a ha)
      rw [List.find?_cons, hne]
      exact ih h.2 ha

/-- A table in which no label and no key stands twice, and whose labels can be read. -/
structure Distinct (table : List Address) : Prop where
  label_ne : table.Pairwise fun a b => a.label ≠ b.label
  index_ne : table.Pairwise fun a b => a.index ≠ b.index
  readable : ∀ a ∈ table, a.label.Readable

/-- The address by which a key takes a label. -/
def address (k : Key F) (label : Label) : Address := ⟨label, k.index, k.degree == label.degree⟩

/-- What entering a key can do: nothing; a new label at the end; a label of the table taken over. -/
theorem enter_cases (table : List Address) (k : Key F) :
    enter table k = table ∨
    (∃ label, k.label? = some label ∧ (∀ a ∈ table, a.label ≠ label) ∧
      enter table k = table ++ [address k label]) ∨
    (∃ label, k.label? = some label ∧
      enter table k = table.map fun a => if a.label = label then address k label else a) := by
  unfold enter
  cases hlabel : k.label? with
  | none => exact .inl rfl
  | some label =>
    cases hfound : table.find? (·.label == label) with
    | none =>
      refine .inr (.inl ⟨label, rfl, fun a ha heq => ?_, by simp [hfound, address]⟩)
      exact absurd (List.find?_eq_none.mp hfound a ha) (by simp [heq])
    | some old =>
      cases hkeep : old.byDegree && !(k.degree == label.degree) with
      | true => exact .inl (by simp [hfound, hkeep])
      | false => exact .inr (.inr ⟨label, rfl, by simp [hfound, hkeep, address]⟩)

/-- A key enters a table by its own label, if at all. -/
theorem mem_enter {table : List Address} {k : Key F} {a : Address} (ha : a ∈ enter table k) :
    a ∈ table ∨ (a.index = k.index ∧ k.label? = some a.label) := by
  rcases enter_cases table k with h | ⟨label, hlabel, -, h⟩ | ⟨label, hlabel, h⟩ <;> rw [h] at ha
  · exact .inl ha
  · rcases List.mem_append.mp ha with ha | ha
    · exact .inl ha
    · rw [List.mem_singleton.mp ha]
      exact .inr ⟨rfl, hlabel⟩
  · obtain ⟨b, hb, rfl⟩ := List.mem_map.mp ha
    by_cases hbl : b.label = label
    · rw [if_pos hbl]
      exact .inr ⟨rfl, hlabel⟩
    · rw [if_neg hbl]
      exact .inl hb

/-- A key that is new to a table enters it without making anything stand twice. -/
theorem Distinct.enter {table : List Address} (h : Distinct table) {k : Key F}
    (hk : ∀ a ∈ table, a.index ≠ k.index) : Distinct (enter table k) where
  label_ne := by
    rcases enter_cases table k with he | ⟨label, -, hnew, he⟩ | ⟨label, -, he⟩ <;> rw [he]
    · exact h.label_ne
    · refine List.pairwise_append.mpr ⟨h.label_ne, by simp, fun a ha b hb => ?_⟩
      rw [List.mem_singleton.mp hb]
      exact hnew a ha
    · -- An address that is taken over keeps its label, so that the labels are what they were
      have keep (c : Address) :
          (if c.label = label then address k label else c).label = c.label := by
        by_cases hc : c.label = label
        · rw [if_pos hc, hc]
          rfl
        · rw [if_neg hc]
      rw [List.pairwise_map]
      refine h.label_ne.imp fun {a b} hab => ?_
      rw [keep a, keep b]
      exact hab
  index_ne := by
    rcases enter_cases table k with he | ⟨label, -, -, he⟩ | ⟨label, -, he⟩ <;> rw [he]
    · exact h.index_ne
    · refine List.pairwise_append.mpr ⟨h.index_ne, by simp, fun a ha b hb => ?_⟩
      rw [List.mem_singleton.mp hb]
      exact hk a ha
    · -- At most one of two addresses is taken over, and the new key is none of the old ones
      rw [List.pairwise_map]
      refine (h.label_ne.and h.index_ne).imp_of_mem fun {a b} ha hb hab => ?_
      by_cases hla : a.label = label <;> by_cases hlb : b.label = label
      · exact absurd (hla.trans hlb.symm) hab.1
      · simpa [hla, hlb, address] using (hk b hb).symm
      · simpa [hla, hlb, address] using hk a ha
      · simpa [hla, hlb] using hab.2
  readable := by
    intro a ha
    rcases mem_enter ha with ha | ⟨-, hlabel⟩
    · exact h.readable a ha
    · exact Label.readable_of_ofText? hlabel

theorem Distinct.foldl_enter {keys : List (Key F)} {table : List Address} (h : Distinct table)
    (hkeys : keys.Pairwise fun a b => a.index ≠ b.index)
    (hnew : ∀ k ∈ keys, ∀ a ∈ table, a.index ≠ k.index) :
    Distinct (keys.foldl Layout.enter table) := by
  induction keys generalizing table with
  | nil => exact h
  | cons k keys ih =>
    rw [List.pairwise_cons] at hkeys
    refine ih (h.enter (hnew k List.mem_cons_self)) hkeys.2 fun j hj a ha => ?_
    rcases mem_enter ha with ha | ⟨hindex, -⟩
    · exact hnew j (List.mem_cons_of_mem _ hj) a ha
    · rw [hindex]
      exact hkeys.1 j hj

theorem keys_pairwise (l : Layout F) : l.keys.Pairwise fun a b => a.index ≠ b.index := by
  have hnodup : (l.keys.map Key.index).Nodup := by
    rw [l.indices_eq]
    exact List.pairwise_map.mpr (List.nodup_range.imp fun hne heq => hne (Int.ofNat.inj heq))
  exact List.pairwise_map.mp hnodup

/-- **The table of a layout is one-to-one**, whatever its keys display. -/
theorem addresses_distinct (l : Layout F) : Distinct l.addresses :=
  Distinct.foldl_enter ⟨.nil, .nil, by simp⟩ l.keys_pairwise (by simp)

/-! ## §3 Labels and keys lead to each other -/

/-- The key of a written label is written with that label. -/
theorem labelIn_resolveIn {table : List Address} (h : Distinct table) {s : Text} {index : Int}
    (hs : resolveIn table s = some index) :
    ∃ label : Label, label.Readable ∧ Label.ofText? s = some label ∧
      labelIn table index = some label.text := by
  obtain ⟨label, hlabel, hindex⟩ := Option.bind_eq_some_iff.mp hs
  obtain ⟨a, hfound, rfl⟩ := Option.map_eq_some_iff.mp hindex
  -- The address found by its label is the one found by its key
  have hmem := List.mem_of_find?_eq_some hfound
  have ha : a.label = label := by simpa using List.find?_some hfound
  refine ⟨label, Label.readable_of_ofText? hlabel, hlabel, ?_⟩
  rw [labelIn, find?_eq_some_of_pairwise h.index_ne hmem, ← ha]
  rfl

/-- The written label of a key leads to that key. -/
theorem resolveIn_labelIn {table : List Address} (h : Distinct table) {index : Int} {s : Text}
    (hs : labelIn table index = some s) :
    ∃ label : Label, label.Readable ∧ s = label.text ∧ resolveIn table s = some index := by
  obtain ⟨label, hlabel, rfl⟩ := Option.map_eq_some_iff.mp hs
  obtain ⟨a, hfound, rfl⟩ := Option.map_eq_some_iff.mp hlabel
  -- And the one found by its key is the one found by its label
  have hmem := List.mem_of_find?_eq_some hfound
  have ha : a.index = index := by simpa using List.find?_some hfound
  refine ⟨a.label, h.readable a hmem, rfl, ?_⟩
  rw [resolveIn, Label.ofText?_text (h.readable a hmem), Option.bind_some, indexIn,
    find?_eq_some_of_pairwise h.label_ne hmem, ← ha]
  rfl

end Layout

end Lamella
