import Lamella.Proofs.Tab.Members

/-!
# The grammar of labels

A label is written as a degree from one to seven with octave glyphs after it, and a run as two or
more labels without anything between them. Reading accepts just these, and a line feed after them:
what is read of a label is what it is written from, and a text falls into labels in one way at most.
A line feed is not kept among the labels of a run, so that these make up the text without it.

## Main definitions

- `Tab.IsSpelled`: the texts of labels.

## Main statements

- `Label.ofText?_eq_some_iff`: what is read as a label.
- `Tab.labels?_eq_some_iff`: what is made of labels.
- `Tab.runLabels?_eq_some_iff`: what is read as a run.
- `Tab.shapeOf_eq_note_iff`, `Tab.shapeOf_eq_run_iff`: what is taken for a note and for a run.
- `Tab.label_grammar`: all of this together.
-/

namespace Lamella

/-! ## §1 One label -/

namespace Label

theorem withoutLineFeed_concat (s : Text) : withoutLineFeed (s ++ [.char '\n']) = s := by
  simp [withoutLineFeed]

/-- What is read as a label that takes up the whole text is what this label is written as. -/
theorem text_of_ofPlain? {s : Text} {l : Label} (h : ofPlain? s = some l) :
    l.Readable ∧ l.text = s := by
  have hreadable : l.Readable := by
    apply readable_of_ofText? (s := s ++ [.char '\n'])
    rw [ofText?, withoutLineFeed_concat, h]
  refine ⟨hreadable, ?_⟩
  unfold ofPlain? at h
  split at h
  · rename_i c rest
    split at h
    · rename_i hc
      obtain ⟨hdegree, hglyphs⟩ := hc
      injection h with h
      obtain ⟨d, -, hd, htext⟩ := text_eq hreadable
      -- The degree tells the character, and their number tells the glyphs
      have hchar : d = c := by
        apply Char.toNat_inj.mp
        rw [← h] at hd
        simp only at hd
        omega
      have hrest : rest = glyphs l.markers := by
        rw [← h, glyphs, Int.toNat_natCast]
        apply List.eq_replicate_of_mem
        intro p hp
        have hglyph := List.all_eq_true.mp hglyphs p hp
        cases p with
        | half u => exact absurd hglyph (by simp [Point.is])
        | char c => simpa [Point.is] using hglyph
      rw [htext, hchar, ← hrest]
    · cases h
  · cases h

theorem ofPlain?_eq_some_iff {s : Text} {l : Label} :
    ofPlain? s = some l ↔ l.Readable ∧ s = l.text := by
  constructor
  · intro h
    obtain ⟨hreadable, htext⟩ := text_of_ofPlain? h
    exact ⟨hreadable, htext.symm⟩
  · rintro ⟨hreadable, rfl⟩
    have hread := ofText?_text hreadable
    rwa [ofText?, withoutLineFeed_text hreadable] at hread

/-- A text is another one without the line feed after it if it is that one, or has a line feed after
it. -/
theorem withoutLineFeed_eq_iff {s t : Text} (ht : t.getLast? ≠ some (.char '\n')) :
    withoutLineFeed s = t ↔ s = t ∨ s = t ++ [.char '\n'] := by
  unfold withoutLineFeed
  split
  · rename_i hlast
    obtain ⟨u, rfl⟩ := List.getLast?_eq_some_iff.mp hlast
    rw [List.dropLast_concat]
    constructor
    · rintro rfl
      exact .inr rfl
    · rintro (rfl | h)
      · exact absurd hlast ht
      · exact List.append_cancel_right h
  · rename_i hlast
    constructor
    · exact .inl
    · rintro (rfl | rfl)
      · rfl
      · exact absurd List.getLast?_concat hlast

theorem getLast?_text_ne {l : Label} (h : l.Readable) : l.text.getLast? ≠ some (.char '\n') := by
  intro hlast
  have hcode := code_of_mem_text h (List.mem_of_getLast? hlast)
  exact absurd hcode (by decide)

/-- **What is read as a label** is the text of that label, or that text with a line feed after it. -/
theorem ofText?_eq_some_iff {s : Text} {l : Label} :
    ofText? s = some l ↔ l.Readable ∧ (s = l.text ∨ s = l.text ++ [.char '\n']) := by
  rw [ofText?, ofPlain?_eq_some_iff]
  exact and_congr_right fun h => withoutLineFeed_eq_iff (getLast?_text_ne h)

/-- A label has room if its glyphs have. -/
theorem textInRoom_eq {l : Label} (h : l.Readable) (hroom : l.markers < spacious) :
    l.textInRoom = .ok l.text := by
  have hcountable : ¬ (l.markers < -countable ∨ countable ≤ l.markers) := by
    have := h.markers_nonneg
    have : spacious = 4294967296 := by decide
    have : countable = 9223372036854775808 := by decide
    omega
  rw [textInRoom, glyphsInRoom, if_neg hcountable, if_neg (not_le.mpr hroom)]
  rfl

end Label

namespace Tab

/-! ## §2 Labels one after another -/

/-- The texts of labels. -/
def IsSpelled (t : Text) : Prop := ∃ l : Label, l.Readable ∧ t = l.text

/-- A label goes on with one more glyph. -/
theorem IsSpelled.glyph {t : Text} (h : IsSpelled t) : IsSpelled (t ++ [.char Label.glyph]) := by
  obtain ⟨l, hl, rfl⟩ := h
  have hmarkers := hl.markers_nonneg
  refine ⟨⟨l.degree, l.markers + 1⟩, ⟨hl.one_le, hl.le_seven, by simp only; omega⟩, ?_⟩
  have hcount : (l.markers + 1).toNat = l.markers.toNat + 1 := by omega
  rw [Label.text, Label.text, Label.glyphs, Label.glyphs, hcount, List.replicate_succ',
    List.append_assoc]

/-- A degree is a label without glyphs. -/
theorem isSpelled_degree {c : Point} (hc : c.is Label.isDegree = true) : IsSpelled [c] := by
  cases c with
  | half u => exact absurd hc (by simp [Point.is])
  | char c =>
    have hdegree : Label.isDegree c = true := hc
    have hread : Label.ofPlain? [.char c] = some ⟨c.toNat - 48, 0⟩ := by
      simp [Label.ofPlain?, hdegree]
    obtain ⟨hreadable, htext⟩ := Label.text_of_ofPlain? hread
    exact ⟨_, hreadable, htext.symm⟩

theorem IsSpelled.ne_nil {t : Text} (h : IsSpelled t) : t ≠ [] := by
  obtain ⟨l, hl, rfl⟩ := h
  obtain ⟨c, -, -, htext⟩ := Label.text_eq hl
  rw [htext]
  exact List.cons_ne_nil _ _

/-- What is cut before every degree is labels, if what was read of the first one is. -/
theorem isSpelled_of_cutLabels {label s : Text} {ls : List Text} (h : cutLabels label s = some ls)
    (hlabel : IsSpelled label) : ∀ t ∈ ls, IsSpelled t := by
  induction s generalizing label ls with
  | nil =>
    cases h
    simpa using hlabel
  | cons c s ih =>
    rw [cutLabels] at h
    split at h
    · rename_i hglyph
      exact ih h (by rw [hglyph]; exact hlabel.glyph)
    · split at h
      · rename_i hdegree
        obtain ⟨ms, hms, rfl⟩ := Option.map_eq_some_iff.mp h
        exact List.forall_mem_cons.mpr ⟨hlabel, ih hms (isSpelled_degree hdegree)⟩
      · cases h

theorem isSpelled_of_labels? {s : Text} {ls : List Text} (h : labels? s = some ls) :
    ∀ t ∈ ls, IsSpelled t := by
  cases s with
  | nil => cases h
  | cons c s =>
    rw [labels?] at h
    split at h
    · exact isSpelled_of_cutLabels h (isSpelled_degree ‹_›)
    · cases h

theorem labels?_of_isSpelled {t : Text} (h : IsSpelled t) : labels? t = some [t] := by
  obtain ⟨l, hl, rfl⟩ := h
  obtain ⟨c, hc, -, htext⟩ := Label.text_eq hl
  have hdegree : (Point.char c).is Label.isDegree = true := hc
  have hglyphs : (Label.glyphs l.markers).all (Point.is (· = Label.glyph)) = true := by
    rw [Label.glyphs, List.all_replicate]
    simp [Point.is]
  rw [htext, labels?, if_pos hdegree, cutLabels_of_all_glyph hglyphs]
  rfl

/-- Labels that are put together are found again. -/
theorem labels?_of_spelled {ls : List Text} (hne : ls ≠ []) (hls : ∀ t ∈ ls, IsSpelled t) :
    labels? ls.flatten = some ls := by
  induction ls with
  | nil => exact absurd rfl hne
  | cons t ls ih =>
    obtain ⟨ht, hrest⟩ := List.forall_mem_cons.mp hls
    have hone := labels?_of_isSpelled ht
    rcases eq_or_ne ls [] with rfl | hmore
    · simpa using hone
    · exact labels?_append hone (ih hmore hrest)

/-- **What is made of labels** is labels that are put together, of which there is at least one. -/
theorem labels?_eq_some_iff {s : Text} {ls : List Text} :
    labels? s = some ls ↔ ls ≠ [] ∧ (∀ t ∈ ls, IsSpelled t) ∧ s = ls.flatten := by
  constructor
  · intro h
    have hflat := flatten_of_labels? h
    refine ⟨?_, isSpelled_of_labels? h, hflat.symm⟩
    rintro rfl
    rw [← hflat] at h
    cases h
  · rintro ⟨hne, hls, rfl⟩
    exact labels?_of_spelled hne hls

/-- **A text falls into labels in one way** at most. -/
theorem eq_of_flatten_eq {ls ms : List Text} (hls : ∀ t ∈ ls, IsSpelled t)
    (hms : ∀ t ∈ ms, IsSpelled t) (h : ls.flatten = ms.flatten) : ls = ms := by
  have hnone {ls : List Text} (hls : ∀ t ∈ ls, IsSpelled t) (h : ls.flatten = []) : ls = [] := by
    apply List.eq_nil_iff_forall_not_mem.mpr
    intro t ht
    exact (hls t ht).ne_nil (List.flatten_eq_nil_iff.mp h t ht)
  by_cases hempty : ls.flatten = []
  · rw [hnone hls hempty, hnone hms (h ▸ hempty)]
  · have hne {ls : List Text} (h : ls.flatten ≠ []) : ls ≠ [] := by
      rintro rfl
      exact h rfl
    have hread := labels?_of_spelled (hne hempty) hls
    rw [h, labels?_of_spelled (hne (h ▸ hempty)) hms] at hread
    exact (Option.some.inj hread).symm

theorem getLast?_flatten_ne {ls : List Text} (hls : ∀ t ∈ ls, IsSpelled t) :
    ls.flatten.getLast? ≠ some (.char '\n') := by
  intro hlast
  obtain ⟨t, ht, hfeed⟩ := List.mem_flatten.mp (List.mem_of_getLast? hlast)
  obtain ⟨l, hl, rfl⟩ := hls t ht
  exact absurd (Label.code_of_mem_text hl hfeed) (by decide)

/-- **What is read as a run** is at least two labels that are put together, or that with a line feed
after it. -/
theorem runLabels?_eq_some_iff {s : Text} {ls : List Text} :
    runLabels? s = some ls ↔ 2 ≤ ls.length ∧ (∀ t ∈ ls, IsSpelled t) ∧
      (s = ls.flatten ∨ s = ls.flatten ++ [.char '\n']) := by
  rw [runLabels?, Option.filter_eq_some_iff, labels?_eq_some_iff, decide_eq_true_eq]
  constructor
  · rintro ⟨⟨-, hls, hflat⟩, htwo⟩
    exact ⟨htwo, hls, (Label.withoutLineFeed_eq_iff (getLast?_flatten_ne hls)).mp hflat⟩
  · rintro ⟨htwo, hls, hs⟩
    have hflat := (Label.withoutLineFeed_eq_iff (getLast?_flatten_ne hls)).mpr hs
    refine ⟨⟨?_, hls, hflat⟩, htwo⟩
    rintro rfl
    cases htwo

/-! ## §3 Notes and runs -/

/-- A point with the octave glyph for the signs that stand for it. -/
def unifiedPoint (p : Point) : Point :=
  if p = .char '*' ∨ p = .char '\'' then .char Label.glyph else p

theorem unifyMarkers_eq_map (s : Text) : unifyMarkers s = s.map unifiedPoint := by
  rw [unifyMarkers, Text.replaceChar, Text.replaceChar, List.map_map]
  apply List.map_congr_left
  intro p _
  by_cases hstar : p = .char '*'
  · subst hstar
    decide
  · simp [unifiedPoint, hstar]

/-- Only glyphs are put for a sign: all else stands for itself. -/
theorem eq_of_unifiedPoint {p q : Point} (h : unifiedPoint p = q) (hq : q ≠ .char Label.glyph) :
    p = q := by
  unfold unifiedPoint at h
  split at h
  · exact absurd h.symm hq
  · exact h

theorem getLast?_of_unifyMarkers {s : Text} (h : (unifyMarkers s).getLast? = some (.char '\n')) :
    s.getLast? = some (.char '\n') := by
  rw [unifyMarkers_eq_map, List.getLast?_map] at h
  obtain ⟨p, hlast, hp⟩ := Option.map_eq_some_iff.mp h
  rw [hlast, eq_of_unifiedPoint hp (by decide)]

/-- Labels that are put together begin with a degree. -/
theorem exists_head_of_spelled {ls : List Text} (hne : ls ≠ []) (hls : ∀ t ∈ ls, IsSpelled t) :
    ∃ c, Label.isDegree c = true ∧ ls.flatten.head? = some (.char c) := by
  obtain ⟨t, ls, rfl⟩ := List.exists_cons_of_ne_nil hne
  obtain ⟨l, hl, rfl⟩ := hls t List.mem_cons_self
  obtain ⟨c, hc, -, htext⟩ := Label.text_eq hl
  exact ⟨c, hc, by rw [List.flatten_cons, htext]; rfl⟩

/-- What is written with labels, up to signs and a line feed, is no rest and opens no group. -/
theorem plain_of_spelled {s : Text} {ls : List Text} (hne : ls ≠ []) (hls : ∀ t ∈ ls, IsSpelled t)
    (hs : unifyMarkers s = ls.flatten ∨ unifyMarkers s = ls.flatten ++ [.char '\n']) :
    isRest s = false ∧ s.head? ≠ some (.char '(') := by
  obtain ⟨c, hc, hhead⟩ := exists_head_of_spelled hne hls
  have hunified : (unifyMarkers s).head? = some (.char c) := by
    rcases hs with hs | hs <;> rw [hs]
    · exact hhead
    · rw [List.head?_append, hhead]
      rfl
  rw [unifyMarkers_eq_map, List.head?_map] at hunified
  obtain ⟨p, hp, heq⟩ := Option.map_eq_some_iff.mp hunified
  have hpoint : p = .char c := by
    apply eq_of_unifiedPoint heq
    rintro hglyph
    injection hglyph with hglyph
    rw [hglyph] at hc
    exact absurd hc (by decide)
  rw [hpoint] at hp
  -- A degree is none of the signs for a rest, and no parenthesis
  refine ⟨?_, ?_⟩
  · rw [← Bool.not_eq_true]
    intro hrest
    simp only [isRest, Bool.or_eq_true, decide_eq_true_eq] at hrest
    rcases hrest with ((rfl | rfl) | rfl) | rfl <;> cases hp <;> exact absurd hc (by decide)
  · intro hopen
    cases hp.symm.trans hopen
    exact absurd hc (by decide)

/-- **What is taken for a note**: one label, with any signs for its glyphs. -/
theorem shapeOf_eq_note_iff {s label : Text} : Token.shapeOf s = .note label ↔
    label = unifyMarkers s ∧
      ∃ l : Label, l.Readable ∧ (label = l.text ∨ label = l.text ++ [.char '\n']) := by
  constructor
  · intro h
    unfold Token.shapeOf at h
    split at h
    · cases h
    split at h
    · cases h
    dsimp only at h
    split at h
    · rename_i hlabel
      cases h
      obtain ⟨l, hl⟩ := Option.isSome_iff_exists.mp hlabel
      exact ⟨rfl, l, Label.ofText?_eq_some_iff.mp hl⟩
    · split at h <;> cases h
  · rintro ⟨rfl, l, hl, htext⟩
    have hlabel : isLabel (unifyMarkers s) = true :=
      Option.isSome_of_eq_some (Label.ofText?_eq_some_iff.mpr ⟨hl, htext⟩)
    have hspelled : ∀ t ∈ [l.text], IsSpelled t := by
      intro t ht
      exact ⟨l, hl, List.mem_singleton.mp ht⟩
    obtain ⟨hrest, hopen⟩ := plain_of_spelled (by simp) hspelled (by simpa using htext)
    simp [Token.shapeOf, hrest, hopen, hlabel]

/-- **What is taken for a run**: what is read as one when all signs are glyphs. -/
theorem shapeOf_eq_run_iff {s : Text} {ls : List Text} :
    Token.shapeOf s = .run ls ↔ runLabels? (unifyMarkers s) = some ls := by
  constructor
  · intro h
    unfold Token.shapeOf at h
    split at h
    · cases h
    split at h
    · cases h
    dsimp only at h
    split at h
    · cases h
    split at h
    · rename_i hrun
      cases h
      exact hrun
    · cases h
  · intro h
    obtain ⟨htwo, hls, htext⟩ := runLabels?_eq_some_iff.mp h
    have hne : ls ≠ [] := by
      rintro rfl
      cases htwo
    obtain ⟨hrest, hopen⟩ := plain_of_spelled hne hls htext
    -- A label is made of one label, and a run of two at least
    have hlabel : isLabel (unifyMarkers s) = false := by
      rw [← Bool.not_eq_true, isLabel, Label.ofText?, ofPlain?_isSome_iff]
      rintro ⟨ms, hms, hone⟩
      rw [runLabels?, hms] at h
      obtain ⟨heq, -⟩ := Option.filter_eq_some_iff.mp h
      cases heq
      omega
    simp [Token.shapeOf, hrest, hopen, hlabel, h]

/-- A note or a run carries the labels that its text is made of, if there is no line feed after
it. -/
theorem flatten_labels_classify {s : Text} (hs : s.getLast? ≠ some (.char '\n')) (line column : Int)
    (h : (∃ label, Token.shapeOf s = .note label) ∨ ∃ ls, Token.shapeOf s = .run ls) :
    (classify s line column).labels.flatten = unifyMarkers s := by
  rcases h with ⟨label, h⟩ | ⟨ls, h⟩
  · obtain ⟨rfl, -⟩ := shapeOf_eq_note_iff.mp h
    simp [classify, Token.labels, h]
  · obtain ⟨-, -, htext⟩ := runLabels?_eq_some_iff.mp (shapeOf_eq_run_iff.mp h)
    have hlabels : (classify s line column).labels = ls := by simp [classify, Token.labels, h]
    rw [hlabels]
    rcases htext with htext | htext
    · exact htext.symm
    · have hlast := getLast?_of_unifyMarkers (s := s) (by rw [htext, List.getLast?_concat])
      exact absurd hlast hs

/-! ## §4 The grammar -/

/-- **The grammar of labels.** A text is read as a label just if it is the text of that label, which
is read back from it, and as a run just if it is at least two labels that are put together, in the
only way there is; in both cases a line feed may come after it. So a note is one label and a run is
some, and both carry the labels that the text is made of, unless a line feed comes after it. -/
theorem label_grammar (s : Text) (line column : Int) :
    (∀ l : Label, Label.ofText? s = some l ↔
      l.Readable ∧ (s = l.text ∨ s = l.text ++ [.char '\n'])) ∧
    (∀ l : Label, l.Readable → Label.ofText? l.text = some l ∧
      (l.markers < Label.spacious → l.textInRoom = .ok l.text)) ∧
    (∀ ls : List Text, runLabels? s = some ls ↔ 2 ≤ ls.length ∧
      (∀ t ∈ ls, IsSpelled t) ∧ (s = ls.flatten ∨ s = ls.flatten ++ [.char '\n'])) ∧
    (∀ ls ms : List Text, (∀ t ∈ ls, IsSpelled t) → (∀ t ∈ ms, IsSpelled t) →
      ls.flatten = ms.flatten → ls = ms) ∧
    (∀ label, (classify s line column).shape = .note label ↔ label = unifyMarkers s ∧
      ∃ l : Label, l.Readable ∧ (label = l.text ∨ label = l.text ++ [.char '\n'])) ∧
    (∀ ls, (classify s line column).shape = .run ls ↔ runLabels? (unifyMarkers s) = some ls) ∧
    (s.getLast? ≠ some (.char '\n') →
      ((∃ label, (classify s line column).shape = .note label) ∨
        ∃ ls, (classify s line column).shape = .run ls) →
      (classify s line column).labels.flatten = unifyMarkers s) := by
  refine ⟨?label, ?back, ?run, ?unique, ?noteToken, ?runToken, ?carried⟩
  case label => exact fun l => Label.ofText?_eq_some_iff
  case back =>
    intro l hl
    exact ⟨Label.ofText?_text hl, Label.textInRoom_eq hl⟩
  case run => exact fun ls => runLabels?_eq_some_iff
  case unique => exact fun ls ms hls hms => eq_of_flatten_eq hls hms
  case noteToken => exact fun label => shapeOf_eq_note_iff
  case runToken => exact fun ls => shapeOf_eq_run_iff
  case carried =>
    intro hs h
    exact flatten_labels_classify hs line column h

/-- A line feed after a label or a run is read over, so that what is read is not what is written, and
the labels of a run do not make up its text. -/
theorem line_feeds_read_over :
    (¬ ∀ (s : Text) (l : Label), Label.ofText? s = some l ↔ l.Readable ∧ s = l.text) ∧
    (¬ ∀ (s : Text) (ls : List Text), runLabels? s = some ls ↔
      2 ≤ ls.length ∧ (∀ t ∈ ls, IsSpelled t) ∧ s = ls.flatten) ∧
    ¬ ∀ (s : Text) (line column : Int) (ls : List Text), (classify s line column).shape = .run ls →
      (classify s line column).labels.flatten = unifyMarkers s := by
  refine ⟨?label, ?run, ?token⟩
  case label =>
    intro h
    have hread : Label.ofText? "5\n" = some ⟨5, 0⟩ := by decide
    exact absurd ((h _ _).mp hread).2 (by decide)
  case run =>
    intro h
    have hread : runLabels? "12\n" = some [↑"1", ↑"2"] := by decide
    exact absurd ((h _ _).mp hread).2.2 (by decide)
  case token =>
    intro h
    have hshape : (classify "12\n" 1 1).shape = .run [↑"1", ↑"2"] := by decide
    exact absurd (h _ _ _ _ hshape) (by decide)

end Tab

end Lamella
