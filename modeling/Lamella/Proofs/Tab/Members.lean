import Lamella.Proofs.Layout.Labels
import Lamella.Tab.Token
import Mathlib.Algebra.Order.BigOperators.Group.List
import Mathlib.Algebra.Order.Group.Nat

/-!
# Members of a chord

A member of a chord is a word: some labels one after another, a rest, or nothing that is known. If
words are written without the blanks between them, they make one word, and its labels are those of
the words just if all of them are labels or none is. A word of labels next to one without is spoilt
by it, or takes its glyphs over.

## Main definitions

- `Tab.memberLabels`: the labels that a word adds to a chord.
- `Tab.KeepsLabels`: words of which all have labels or none has.

## Main statements

- `Tab.memberLabels_eq`: the labels of a word are those that it is made of.
- `Tab.shapeOf_group`: a group is the chord of what its words add.
- `Tab.labels?_append`, `Tab.labels?_append_eq_none`: words that are put together, and their labels.
- `Tab.flatten_of_labels?`: the labels of a text fill it.
- `Tab.memberLabels_flatten_iff`: when words that are put together keep their labels.
-/

namespace Lamella.Tab

/-! ## §1 Texts that are made of labels -/

theorem ne_glyph_of_isDegree {c : Point} (hc : c.is Label.isDegree = true) :
    c ≠ .char Label.glyph := by
  rintro rfl
  exact absurd hc (by decide)

/-- A text that begins with a degree does not add to the label before it. -/
theorem cutLabels_append {v : Text} {vs : List Text} (hv : labels? v = some vs) (label u : Text) :
    cutLabels label (u ++ v) = (cutLabels label u).map (· ++ vs) := by
  induction u generalizing label with
  | nil =>
    -- The label ends where the other text begins, which is with a degree
    obtain ⟨c, v, rfl⟩ : ∃ c rest, v = c :: rest :=
      List.exists_cons_of_ne_nil fun h => by rw [h] at hv; cases hv
    rw [labels?] at hv
    split at hv
    · rename_i hc
      have hcut : cutLabels label (c :: v) = (cutLabels [c] v).map (label :: ·) := by
        rw [cutLabels, if_neg (ne_glyph_of_isDegree hc), if_pos hc]
      rw [List.nil_append, hcut, hv]
      rfl
    · cases hv
  | cons c u ih =>
    rw [List.cons_append, cutLabels, cutLabels]
    split
    · exact ih _
    · split
      · rw [ih, Option.map_map, Option.map_map]
        rfl
      · rfl

theorem labels?_append {u v : Text} {us vs : List Text} (hu : labels? u = some us)
    (hv : labels? v = some vs) : labels? (u ++ v) = some (us ++ vs) := by
  cases u with
  | nil => cases hu
  | cons c u =>
    rw [labels?] at hu
    rw [List.cons_append, labels?]
    split at hu
    · rename_i hc
      rw [if_pos hc, cutLabels_append hv, hu]
      rfl
    · cases hu

/-- A text is not made of labels if what begins it is not. -/
theorem labels?_append_eq_none {u v : Text} (hu : u ≠ []) (h : labels? u = none) :
    labels? (u ++ v) = none := by
  -- What goes on with no label is found before the other text is reached
  have hcut (label w : Text) (hw : cutLabels label w = none) : cutLabels label (w ++ v) = none := by
    induction w generalizing label with
    | nil => cases hw
    | cons c w ih =>
      rw [cutLabels] at hw
      rw [List.cons_append, cutLabels]
      split at hw
      · rename_i hc
        rw [if_pos hc, ih _ hw]
      · rename_i hc
        rw [if_neg hc]
        split at hw
        · rename_i hdegree
          rw [if_pos hdegree, ih _ (Option.map_eq_none_iff.mp hw)]
          rfl
        · rename_i hdegree
          rw [if_neg hdegree]
  obtain ⟨c, u, rfl⟩ := List.exists_cons_of_ne_nil hu
  rw [labels?] at h
  rw [List.cons_append, labels?]
  split at h
  · rename_i hc
    rw [if_pos hc, hcut _ _ h]
  · rename_i hc
    rw [if_neg hc]

/-- The labels of a text are cut out of it. -/
theorem flatten_of_cutLabels {label s : Text} {ls : List Text} (h : cutLabels label s = some ls) :
    ls.flatten = label ++ s := by
  induction s generalizing label ls with
  | nil =>
    cases h
    simp
  | cons c s ih =>
    rw [cutLabels] at h
    split at h
    · rw [ih h, List.append_assoc]
      rfl
    · split at h
      · obtain ⟨ms, hms, rfl⟩ := Option.map_eq_some_iff.mp h
        rw [List.flatten_cons, ih hms]
        rfl
      · cases h

theorem flatten_of_labels? {s : Text} {ls : List Text} (h : labels? s = some ls) :
    ls.flatten = s := by
  cases s with
  | nil => cases h
  | cons c s =>
    rw [labels?] at h
    split at h
    · exact flatten_of_cutLabels h
    · cases h

/-- A text that is made of one label is a label. -/
theorem all_glyph_of_cutLabels {label s : Text} {ls : List Text} (h : cutLabels label s = some ls)
    (hls : ls.length < 2) : s.all (Point.is (· = Label.glyph)) = true := by
  induction s generalizing label ls with
  | nil => rfl
  | cons c s ih =>
    rw [cutLabels] at h
    split at h
    · rename_i hc
      rw [List.all_cons, ih h hls, hc]
      decide
    · split at h
      · obtain ⟨ms, hms, rfl⟩ := Option.map_eq_some_iff.mp h
        -- Another degree begins a second label
        have hne : ms ≠ [] := by
          rintro rfl
          exact absurd (flatten_of_cutLabels hms) (by simp)
        have := List.length_pos_iff.mpr hne
        rw [List.length_cons] at hls
        omega
      · cases h

theorem cutLabels_of_all_glyph {s : Text} (hs : s.all (Point.is (· = Label.glyph)) = true)
    (label : Text) : cutLabels label s = some [label ++ s] := by
  induction s generalizing label with
  | nil => simp [cutLabels]
  | cons c s ih =>
    rw [List.all_cons, Bool.and_eq_true] at hs
    have hc : c = .char Label.glyph := by
      cases c with
      | half u => exact absurd hs.1 (by simp [Point.is])
      | char c => simpa [Point.is] using hs.1
    rw [cutLabels, if_pos hc, ih hs.2, List.append_assoc]
    rfl

/-- A label is a text that is made of one label. -/
theorem ofPlain?_isSome_iff {s : Text} :
    (Label.ofPlain? s).isSome = true ↔ ∃ ls, labels? s = some ls ∧ ls.length < 2 := by
  cases s with
  | nil => simp [Label.ofPlain?, labels?]
  | cons c s =>
    cases c with
    | half u => simp [Label.ofPlain?, labels?, Point.is]
    | char c =>
      rw [Label.ofPlain?, labels?]
      simp only [Point.is]
      by_cases hc : Label.isDegree c = true
      · by_cases hs : s.all (Point.is (· = Label.glyph)) = true
        · simp [hc, hs, cutLabels_of_all_glyph hs]
        · simp only [hc, hs, and_false, if_false, if_true, Option.isSome_none, Bool.false_eq_true,
            false_iff, not_exists, not_and]
          exact fun ls h hls => hs (all_glyph_of_cutLabels h hls)
      · simp [hc]

/-! ## §2 The labels of a member -/

theorem replaceChar_append (old new : Char) (s t : Text) :
    Text.replaceChar old new (s ++ t) = Text.replaceChar old new s ++ Text.replaceChar old new t :=
  List.map_append

theorem unifyMarkers_append (s t : Text) :
    unifyMarkers (s ++ t) = unifyMarkers s ++ unifyMarkers t := by
  simp only [unifyMarkers, replaceChar_append]

theorem length_unifyMarkers (s : Text) : (unifyMarkers s).length = s.length := by
  simp only [unifyMarkers, Text.replaceChar, List.length_map]

/-- A word has no line feed, also after its markers were replaced. -/
theorem withoutLineFeed_unifyMarkers {w : Text} (hw : Text.IsWord w) :
    Label.withoutLineFeed (unifyMarkers w) = unifyMarkers w := by
  rw [Label.withoutLineFeed, if_neg]
  intro hlast
  have hmem := List.mem_of_getLast? hlast
  simp only [unifyMarkers, Text.replaceChar, List.map_map, List.mem_map,
    Function.comp_apply] at hmem
  obtain ⟨p, hp, hfeed⟩ := hmem
  -- Only a line feed becomes one, and that is a blank
  have : p = .char '\n' := by
    split at hfeed
    · exact absurd hfeed (by decide)
    · split at hfeed
      · exact absurd hfeed (by decide)
      · exact hfeed
  exact absurd (hw.2 p hp) (by rw [this]; decide)

/-- The labels that a word adds to a chord. -/
def memberLabels (w : Text) : List Text := (Token.ofMember w).1

/-- A word that is made of labels is no rest: it is one label, or a run of them. -/
theorem word_of_labels? {w : Text} (hw : Text.IsWord w) {ls : List Text}
    (hls : labels? (unifyMarkers w) = some ls) : isRest w = false ∧
      (isLabel (unifyMarkers w) = true ∧ ls = [unifyMarkers w] ∨
        isLabel (unifyMarkers w) = false ∧ runLabels? (unifyMarkers w) = some ls ∧
          2 ≤ ls.length) := by
  refine ⟨?_, ?_⟩
  · rw [← Bool.not_eq_true]
    intro hrest
    simp only [isRest, Bool.or_eq_true, decide_eq_true_eq] at hrest
    have hnone : labels? (unifyMarkers w) = none := by
      rcases hrest with ((rfl | rfl) | rfl) | rfl <;> decide
    rw [hnone] at hls
    cases hls
  · have hflat := flatten_of_labels? hls
    rw [isLabel, Label.ofText?, runLabels?, withoutLineFeed_unifyMarkers hw]
    rcases Nat.lt_or_ge ls.length 2 with hone | htwo
    · -- One label, which is the whole word
      refine .inl ⟨ofPlain?_isSome_iff.mpr ⟨ls, hls, hone⟩, ?_⟩
      cases ls with
      | nil =>
        rw [← hflat] at hls
        cases hls
      | cons l rest =>
        obtain rfl : rest = [] :=
          List.eq_nil_of_length_eq_zero (by rw [List.length_cons] at hone; omega)
        rw [← hflat, List.flatten_singleton]
    · refine .inr ⟨?_, by simp [hls, Option.filter, htwo], htwo⟩
      rw [← Bool.not_eq_true, ofPlain?_isSome_iff]
      rintro ⟨ms, hms, hlength⟩
      obtain rfl := Option.some.inj (hls.symm.trans hms)
      omega

/-- A word that is made of labels adds them to a chord, and nothing else. -/
theorem ofMember_of_labels? {w : Text} (hw : Text.IsWord w) {ls : List Text}
    (hls : labels? (unifyMarkers w) = some ls) : Token.ofMember w = (ls, []) := by
  obtain ⟨hrest, ⟨hlabel, rfl⟩ | ⟨hlabel, hrun, -⟩⟩ := word_of_labels? hw hls
  · simp [Token.ofMember, hrest, hlabel]
  · simp [Token.ofMember, hrest, hlabel, hrun]

/-- The labels of a word are those that it is made of. -/
theorem memberLabels_eq {w : Text} (hw : Text.IsWord w) :
    memberLabels w = (labels? (unifyMarkers w)).getD [] := by
  rw [memberLabels]
  cases hls : labels? (unifyMarkers w) with
  | some ls => rw [ofMember_of_labels? hw hls, Option.getD_some]
  | none =>
    have hlabel : isLabel (unifyMarkers w) = false := by
      rw [← Bool.not_eq_true, isLabel, Label.ofText?, withoutLineFeed_unifyMarkers hw,
        ofPlain?_isSome_iff, hls]
      simp
    have hrun : runLabels? (unifyMarkers w) = none := by
      rw [runLabels?, withoutLineFeed_unifyMarkers hw, hls, Option.filter_none]
    simp only [Token.ofMember, hlabel, hrun, Option.getD_none, Bool.false_eq_true, if_false]
    split <;> rfl

/-- The labels of a word fill it, if it has any. -/
theorem length_memberLabels {w : Text} (hw : Text.IsWord w) :
    (memberLabels w).flatten.length = if memberLabels w = [] then 0 else w.length := by
  rw [memberLabels_eq hw]
  cases hls : labels? (unifyMarkers w) with
  | none => rfl
  | some ls =>
    have hflat := flatten_of_labels? hls
    have hne : ls ≠ [] := by
      rintro rfl
      rw [← hflat] at hls
      cases hls
    rw [Option.getD_some, if_neg hne, hflat, length_unifyMarkers]

/-! ## §3 Groups -/

/-- A closed group holds what stands between its parentheses. -/
theorem groupBody_closed (s : Text) : Token.groupBody ("(" ++ s ++ ")") = s := by
  have hopen : (↑"(" : Text) = [.char '('] := by decide
  have hclose : (↑")" : Text) = [.char ')'] := by decide
  rw [Token.groupBody, hclose, if_pos List.getLast?_concat, hopen]
  simp

/-- A group is the chord of what its words add. -/
theorem shapeOf_group {s : Text} (hs : s.head? = some (.char '(')) :
    Token.shapeOf s = .chord ((Text.words (Token.groupBody s)).flatMap memberLabels)
      ((Text.words (Token.groupBody s)).flatMap fun w => (Token.ofMember w).2) := by
  have hrest : isRest s = false := by
    rw [← Bool.not_eq_true]
    intro h
    simp only [isRest, Bool.or_eq_true, decide_eq_true_eq] at h
    rcases h with ((rfl | rfl) | rfl) | rfl <;> exact absurd hs (by decide)
  rw [Token.shapeOf, hrest, if_neg Bool.false_ne_true, if_pos hs]
  simp only [List.flatMap_map]
  rfl

/-! ## §4 Words that are put together -/

/-- All of the words have labels, or none of them has. -/
def KeepsLabels (ws : List Text) : Prop :=
  (∀ w ∈ ws, memberLabels w ≠ []) ∨ ∀ w ∈ ws, memberLabels w = []

theorem isWord_flatten {ws : List Text} (hne : ws ≠ []) (hws : ∀ w ∈ ws, Text.IsWord w) :
    Text.IsWord ws.flatten := by
  obtain ⟨w, ws, rfl⟩ := List.exists_cons_of_ne_nil hne
  refine ⟨fun h => (hws w List.mem_cons_self).1 (List.append_eq_nil_iff.mp h).1, fun p hp => ?_⟩
  obtain ⟨v, hv, hp⟩ := List.mem_flatten.mp hp
  exact (hws v hv).2 p hp

theorem labels?_flatten {ws : List Text} (hne : ws ≠ []) (hws : ∀ w ∈ ws, Text.IsWord w)
    (h : ∀ w ∈ ws, memberLabels w ≠ []) :
    labels? (unifyMarkers ws.flatten) = some (ws.flatMap memberLabels) := by
  have hone {w : Text} (hw : Text.IsWord w) (h : memberLabels w ≠ []) :
      labels? (unifyMarkers w) = some (memberLabels w) := by
    rw [memberLabels_eq hw] at h ⊢
    cases hls : labels? (unifyMarkers w) with
    | none => exact absurd (by rw [hls]; rfl) h
    | some ls => rfl
  induction ws with
  | nil => exact absurd rfl hne
  | cons w ws ih =>
    have hw := hone (hws w List.mem_cons_self) (h w List.mem_cons_self)
    rcases eq_or_ne ws [] with rfl | hrest
    · simpa using hw
    · rw [List.flatten_cons, unifyMarkers_append, List.flatMap_cons]
      exact labels?_append hw (ih hrest (fun v hv => hws v (List.mem_cons_of_mem _ hv))
        fun v hv => h v (List.mem_cons_of_mem _ hv))

theorem memberLabels_flatten_eq_nil {w : Text} {ws : List Text} (hws : ∀ v ∈ w :: ws, Text.IsWord v)
    (hw : memberLabels w = []) : memberLabels (w :: ws).flatten = [] := by
  have hword := hws w List.mem_cons_self
  rw [memberLabels_eq hword] at hw
  rw [memberLabels_eq (isWord_flatten (by simp) hws), List.flatten_cons, unifyMarkers_append,
    labels?_append_eq_none]
  · rfl
  · rw [← List.length_pos_iff, length_unifyMarkers]
    exact List.length_pos_iff.mpr hword.1
  · cases hls : labels? (unifyMarkers w) with
    | none => rfl
    | some ls =>
      -- What is made of labels is made of at least one
      rw [hls, Option.getD_some] at hw
      rw [hw] at hls
      rw [← flatten_of_labels? hls] at hls
      cases hls

/-- Words that are put together keep their labels just if all of them have labels or none has. -/
theorem memberLabels_flatten_iff {ws : List Text} (hne : ws ≠ []) (hws : ∀ w ∈ ws, Text.IsWord w) :
    memberLabels ws.flatten = ws.flatMap memberLabels ↔ KeepsLabels ws := by
  constructor
  · intro h
    rcases eq_or_ne (ws.flatMap memberLabels) [] with hnone | hsome
    · exact .inr fun w hw => List.flatMap_eq_nil_iff.mp hnone w hw
    -- The labels fill the whole, and those of a word without any leave its place unfilled
    · refine .inl ?_
      by_contra hw
      push Not at hw
      obtain ⟨w, hw, hempty⟩ := hw
      have hfill := length_memberLabels (isWord_flatten hne hws)
      rw [if_neg (h ▸ hsome), h, List.flatMap, List.flatten_flatten] at hfill
      have hle (v : Text) (hv : v ∈ ws) : (memberLabels v).flatten.length ≤ v.length := by
        rw [length_memberLabels (hws v hv)]
        split
        · exact Nat.zero_le _
        · exact le_rfl
      have hlt : (memberLabels w).flatten.length < w.length := by
        rw [hempty]
        exact List.length_pos_iff.mpr (hws w hw).1
      have hsum : (ws.map fun v => (memberLabels v).flatten.length).sum <
          (ws.map List.length).sum := List.sum_lt_sum _ _ hle ⟨w, hw, hlt⟩
      rw [List.length_flatten, List.length_flatten, List.map_map, List.map_map] at hfill
      exact hsum.ne hfill
  · rintro (h | h)
    · rw [memberLabels_eq (isWord_flatten hne hws), labels?_flatten hne hws h]
      rfl
    · obtain ⟨w, ws, rfl⟩ := List.exists_cons_of_ne_nil hne
      rw [memberLabels_flatten_eq_nil hws (h w List.mem_cons_self)]
      exact (List.flatMap_eq_nil_iff.mpr h).symm

end Lamella.Tab
