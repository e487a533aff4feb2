import Lamella.Proofs.Tab.Measures

/-!
# Torn chords

A line of tablature may be cut at the blanks in it, and so within a chord. What is before the cut
still is a chord, of fewer labels. After it the labels are single notes, and the last of them, which
closes a chord that is not open, is nothing that is known. So if chords are torn a label is lost, and
this happens just if on some line not as many chords are closed as are opened.

## Main definitions

- `Tab.Scrap`: what is between two blanks of written steps.
- `Tab.IsClosed`: a line on which as many chords are closed as are opened.
- `Tab.labelCount`: how many labels are read of a line.

## Main statements

- `Tab.cut_steps`, `Tab.cut_chord`: where steps can be cut at blanks.
- `Tab.whole_or_torn`: lines of steps mean these steps, or they lose a label.
-/

namespace Lamella.Tab

/-! ## §1 Scraps -/

/-- What is between two blanks of written steps: a rest, a label, or a label with the parenthesis
that opens or closes its chord. -/
inductive Scrap where
  | rest
  | label (s : Text)
  | opening (s : Text)
  | closing (s : Text)

/-- The written form of a scrap. -/
def Scrap.text : Scrap → Text
  | rest => "-"
  | label s => s
  | opening s => "(" ++ s
  | closing s => s ++ ")"

/-- The scraps of the last labels of a chord. -/
def lastScraps : List Text → List Scrap
  | [] => []
  | [s] => [.closing s]
  | s :: ls => .label s :: lastScraps ls

/-- The scraps of the first labels of a chord that goes on after them. -/
def firstScraps : List Text → List Scrap
  | [] => []
  | s :: ls => .opening s :: ls.map .label

/-- The scraps of a step. -/
def stepScraps : List Text → List Scrap
  | [] => [.rest]
  | [s] => [.label s]
  | s :: ls => .opening s :: lastScraps ls

/-- The line of some scraps. -/
def lineOf (ws : List Scrap) : Text := Text.join " " (ws.map Scrap.text)

theorem lineOf_cons_cons (w v : Scrap) (ws : List Scrap) :
    lineOf (w :: v :: ws) = w.text ++ .char ' ' :: lineOf (v :: ws) :=
  List.append_assoc w.text [.char ' '] (lineOf (v :: ws))

theorem lineOf_append {us vs : List Scrap} (hus : us ≠ []) (hvs : vs ≠ []) :
    lineOf (us ++ vs) = lineOf us ++ .char ' ' :: lineOf vs := by
  induction us with
  | nil => exact absurd rfl hus
  | cons u us ih =>
    cases us with
    | nil =>
      obtain ⟨v, vs, rfl⟩ := List.exists_cons_of_ne_nil hvs
      exact lineOf_cons_cons u v vs
    | cons u' us =>
      rw [List.cons_append, List.cons_append, lineOf_cons_cons, ← List.cons_append,
        ih (List.cons_ne_nil u' us), lineOf_cons_cons, List.append_assoc, List.cons_append]

theorem lineOf_labels (ls : List Text) : lineOf (ls.map .label) = Text.join " " ls := by
  rw [lineOf, List.map_map]
  exact congrArg _ (List.map_id ls)

theorem lineOf_firstScraps {ls : List Text} (hls : ls ≠ []) :
    lineOf (firstScraps ls) = "(" ++ Text.join " " ls := by
  obtain ⟨s, ls, rfl⟩ := List.exists_cons_of_ne_nil hls
  cases ls with
  | nil => rfl
  | cons t ls =>
    have hspace : (↑" " : Text) = [.char ' '] := by decide
    rw [firstScraps, List.map_cons, lineOf_cons_cons, ← List.map_cons, lineOf_labels]
    simp [Scrap.text, Text.join, hspace]

theorem lastScraps_ne_nil {ls : List Text} (hls : ls ≠ []) : lastScraps ls ≠ [] := by
  fun_cases lastScraps ls <;> simp_all

theorem lastScraps_cons {ls : List Text} (hls : ls ≠ []) (s : Text) :
    lastScraps (s :: ls) = .label s :: lastScraps ls := by
  obtain ⟨t, ls, rfl⟩ := List.exists_cons_of_ne_nil hls
  rfl

theorem lineOf_lastScraps {ls : List Text} (hls : ls ≠ []) :
    lineOf (lastScraps ls) = Text.join " " ls ++ ")" := by
  induction ls with
  | nil => exact absurd rfl hls
  | cons s ls ih =>
    cases ls with
    | nil => rfl
    | cons t ls =>
      have hspace : (↑" " : Text) = [.char ' '] := by decide
      have hne : t :: ls ≠ [] := List.cons_ne_nil t ls
      rw [lastScraps_cons hne, ← List.singleton_append,
        lineOf_append (List.cons_ne_nil _ _) (lastScraps_ne_nil hne), ih hne]
      simp [lineOf, Scrap.text, Text.join, hspace]

theorem stepScraps_ne_nil (ls : List Text) : stepScraps ls ≠ [] := by
  fun_cases stepScraps ls <;> simp

/-- The line of the scraps of a step is its token. -/
theorem lineOf_stepScraps (ls : List Text) : lineOf (stepScraps ls) = stepText ls := by
  match ls with
  | [] => rfl
  | [_] => rfl
  | s :: t :: ls =>
    have hspace : (↑" " : Text) = [.char ' '] := by decide
    have hne : t :: ls ≠ [] := List.cons_ne_nil t ls
    have hscraps : stepScraps (s :: t :: ls) = [.opening s] ++ lastScraps (t :: ls) := rfl
    rw [hscraps, lineOf_append (List.cons_ne_nil _ _) (lastScraps_ne_nil hne), lineOf_lastScraps hne]
    simp [lineOf, Scrap.text, stepText, Text.join, hspace]

/-! ## §2 Where steps are cut -/

/-- A chord is cut between two of its labels, or it is not cut. -/
theorem cut_chord {ls : List Text} (hls : ls ≠ []) {us vs after : List Scrap}
    (h : us ++ vs = lastScraps ls ++ after) :
    (∃ front back, ls = front ++ back ∧ back ≠ [] ∧ us = front.map .label ∧
      vs = lastScraps back ++ after) ∨
    ∃ us', us = lastScraps ls ++ us' ∧ us' ++ vs = after := by
  induction ls generalizing us with
  | nil => exact absurd rfl hls
  | cons s ls ih =>
    cases us with
    | nil => exact .inl ⟨[], s :: ls, rfl, hls, rfl, h⟩
    | cons u us =>
      cases ls with
      | nil =>
        obtain ⟨rfl, hrest⟩ := List.cons.inj h
        exact .inr ⟨us, rfl, hrest⟩
      | cons t ls =>
        have hne : t :: ls ≠ [] := List.cons_ne_nil t ls
        rw [lastScraps_cons hne] at h ⊢
        obtain ⟨rfl, hrest⟩ := List.cons.inj h
        rcases ih hne hrest with ⟨front, back, hcut, hback, rfl, hvs⟩ | ⟨us', rfl, hus'⟩
        · exact .inl ⟨s :: front, back, by rw [hcut, List.cons_append], hback, rfl, hvs⟩
        · exact .inr ⟨us', rfl, hus'⟩

/-- What is before and after a cut of steps, which is between two of them or within a chord. -/
inductive Cut : List (List Text) → List Scrap → List Scrap → Prop where
  | between (before after : List (List Text)) :
      Cut (before ++ after) (before.flatMap stepScraps) (after.flatMap stepScraps)
  | within (before : List (List Text)) (front back : List Text) (after : List (List Text))
      (hfront : front ≠ []) (hback : back ≠ []) :
      Cut (before ++ (front ++ back) :: after) (before.flatMap stepScraps ++ firstScraps front)
        (lastScraps back ++ after.flatMap stepScraps)

theorem Cut.cons {steps : List (List Text)} {us vs : List Scrap} (h : Cut steps us vs)
    (ls : List Text) : Cut (ls :: steps) (stepScraps ls ++ us) vs := by
  cases h with
  | between before after => exact .between (ls :: before) after
  | within before front back after hfront hback =>
    rw [← List.append_assoc]
    exact .within (ls :: before) front back after hfront hback

/-- **Steps are cut between two of them, or within a chord.** -/
theorem cut_steps {steps : List (List Text)} {us vs : List Scrap}
    (h : us ++ vs = steps.flatMap stepScraps) : Cut steps us vs := by
  induction steps generalizing us with
  | nil =>
    obtain ⟨rfl, rfl⟩ := List.append_eq_nil_iff.mp h
    exact .between [] []
  | cons ls steps ih =>
    cases us with
    | nil =>
      rw [show vs = (ls :: steps).flatMap stepScraps from h]
      exact .between [] (ls :: steps)
    | cons u us =>
      rw [List.flatMap_cons] at h
      -- A cut behind the first scrap of a step is behind the step, unless it is a chord
      match ls, h with
      | [], h =>
        obtain ⟨rfl, hrest⟩ := List.cons.inj h
        exact (ih hrest).cons []
      | [s], h =>
        obtain ⟨rfl, hrest⟩ := List.cons.inj h
        exact (ih hrest).cons [s]
      | s :: t :: ls, h =>
        obtain ⟨rfl, hrest⟩ := List.cons.inj h
        rcases cut_chord (List.cons_ne_nil t ls) hrest with
          ⟨front, back, hcut, hback, rfl, rfl⟩ | ⟨us', rfl, hus'⟩
        · rw [hcut]
          exact .within [] (s :: front) back steps (List.cons_ne_nil s front) hback
        · exact (ih hus').cons (s :: t :: ls)

/-! ## §3 What lines mean -/

/-- A blank at the end of a line means nothing. -/
theorem lineShapes_concat_space (s : Text) : lineShapes (s ++ [.char ' ']) = lineShapes s := by
  have hblank : Text.isBlank (.char ' ') = true := by decide
  have hstrip (current : Text) : Text.strip (current ++ [.char ' ']) = Text.strip current := by
    rw [Text.strip, Text.strip, Text.trim, Text.trim, List.dropWhile_append]
    split
    · rename_i hnone
      rw [List.isEmpty_iff.mp hnone, List.dropWhile_cons_of_pos hblank]
      rfl
    · rw [List.reverse_append, List.reverse_singleton, List.singleton_append,
        List.dropWhile_cons_of_pos hblank]
  have hflush (current : Text) (start : Nat) :
      flush (current ++ [.char ' ']) start = flush current start := by
    rw [flush, flush, hstrip]
  -- The blank is added to an open group and then stripped, or it ends the piece before it
  have hpieces (column start depth : Nat) (current : Text) :
      piecesFrom column start depth current (s ++ [.char ' ']) =
        piecesFrom column start depth current s := by
    induction s generalizing column start depth current with
    | nil =>
      have hnil (start : Nat) : flush [] start = [] := by simp [flush, Text.strip, Text.trim]
      cases depth with
      | zero => simp [piecesFrom, hblank, hnil]
      | succ depth =>
        by_cases hnone : current = []
        · have hspace : flush [.char ' '] column = [] := hflush [] column ▸ hnil column
          simp [piecesFrom, hnone, hnil, hspace]
        · simp [piecesFrom, hflush, hnone]
    | cons c s ih =>
      simp only [List.cons_append, piecesFrom, ih]
  rw [lineShapes, pieces, hpieces]
  rfl

theorem lineShapes_nil : lineShapes (lineOf []) = [] := by
  simp [lineShapes, lineOf, Text.join, pieces, piecesFrom, flush, Text.strip, Text.trim]

/-- The first scraps of a line mean what their token does, if it stands alone. -/
theorem lineShapes_append {us : List Scrap} (hus : us ≠ []) (h : StandsAlone (lineOf us))
    (vs : List Scrap) :
    lineShapes (lineOf (us ++ vs)) = Token.shapeOf (lineOf us) :: lineShapes (lineOf vs) := by
  by_cases hvs : vs = []
  · rw [hvs, List.append_nil, h.lineShapes_word]
    rfl
  · rw [lineOf_append hus hvs, h.lineShapes_append]

section

variable {ls : List Text}

/-- A step that is not torn means its labels. -/
theorem lineShapes_step (hls : ∀ s ∈ ls, IsLabelText s) (vs : List Scrap) :
    lineShapes (lineOf (stepScraps ls ++ vs)) = stepShape ls :: lineShapes (lineOf vs) := by
  have halone := standsAlone_stepText hls
  rw [← lineOf_stepScraps] at halone
  rw [lineShapes_append (stepScraps_ne_nil ls) halone, lineOf_stepScraps, shapeOf_stepText hls]

theorem lineShapes_steps {steps : List (List Text)} (hsteps : ∀ ls ∈ steps, ∀ s ∈ ls, IsLabelText s)
    (vs : List Scrap) :
    lineShapes (lineOf (steps.flatMap stepScraps ++ vs)) =
      steps.map stepShape ++ lineShapes (lineOf vs) := by
  induction steps with
  | nil => rfl
  | cons ls steps ih =>
    rw [List.flatMap_cons, List.append_assoc, lineShapes_step (hsteps ls List.mem_cons_self),
      ih fun ls hls => hsteps ls (List.mem_cons_of_mem _ hls), List.map_cons, List.cons_append]

/-- Labels outside of a chord are notes. -/
theorem lineShapes_labels (hls : ∀ s ∈ ls, IsLabelText s) (vs : List Scrap) :
    lineShapes (lineOf (ls.map .label ++ vs)) = ls.map .note ++ lineShapes (lineOf vs) := by
  induction ls with
  | nil => rfl
  | cons s ls ih =>
    have hs := hls s List.mem_cons_self
    have halone : StandsAlone (lineOf [.label s]) :=
      standsAlone_stepText (List.forall_mem_singleton.mpr hs)
    rw [List.map_cons, List.cons_append, ← List.singleton_append,
      lineShapes_append (List.cons_ne_nil _ _) halone, ih fun t ht => hls t (List.mem_cons_of_mem s ht)]
    rw [show lineOf [.label s] = s from rfl, shapeOf_label hs]
    rfl

theorem cutLabels_closing (label s : Text) : cutLabels label (s ++ [.char ')']) = none := by
  have hdegree : (Point.char ')').is Label.isDegree = false := by decide
  have hglyph : (Point.char ')') ≠ .char Label.glyph := by decide
  induction s generalizing label with
  | nil => simp [cutLabels, hdegree, hglyph]
  | cons c s ih => simp [cutLabels, ih]

/-- What closes a chord that is not open is nothing that is known. -/
theorem shapeOf_closing {s : Text} (hs : IsLabelText s) : Token.shapeOf (s ++ ")") = .unknown := by
  have hclose : (↑")" : Text) = [.char ')'] := by decide
  rw [hclose]
  obtain ⟨c, rest, hcons⟩ := List.exists_cons_of_ne_nil hs.ne_nil
  have hfeed : Label.withoutLineFeed (s ++ [.char ')']) = s ++ [.char ')'] := by
    simp [Label.withoutLineFeed]
  -- It is no rest, no group, no label and no run
  have hrest : isRest (s ++ [.char ')']) = false := by
    have hne (c : Char) (hc : c ≠ ')') : s ++ [.char ')'] ≠ [.char c] := by
      intro h
      have hlast := congrArg List.getLast? h
      rw [List.getLast?_concat] at hlast
      exact hc (Point.char.inj (Option.some.inj hlast)).symm
    have hdash := hne '-' (by decide)
    have hline := hne '_' (by decide)
    have hsmall := hne 'r' (by decide)
    have hlarge := hne 'R' (by decide)
    simp only [isRest, Bool.or_eq_false_iff, decide_eq_false_iff_not]
    exact ⟨⟨⟨hdash, hline⟩, hsmall⟩, hlarge⟩
  have hhead : (s ++ [Point.char ')']).head? ≠ some (.char '(') := by
    rw [hcons]
    intro h
    exact (hs.isPlain c (hcons ▸ List.mem_cons_self)).2.1 (Option.some.inj h)
  have hmarkers : unifyMarkers (s ++ [.char ')']) = s ++ [.char ')'] := by
    have happend : unifyMarkers (s ++ [.char ')']) = unifyMarkers s ++ [.char ')'] := by
      simp [unifyMarkers, Text.replaceChar]
    rw [happend, hs.unifyMarkers_eq]
  have hlabel : isLabel (s ++ [.char ')']) = false := by
    rw [isLabel, Label.ofText?, hfeed, hcons]
    cases c with
    | half u => rfl
    | char c => simp [Label.ofPlain?, Point.is, Label.glyph]
  have hrun : runLabels? (s ++ [.char ')']) = none := by
    rw [runLabels?, hfeed, hcons, List.cons_append, labels?, cutLabels_closing]
    simp
  simp only [Token.shapeOf, hrest, hmarkers, hlabel, hrun, if_neg hhead, Bool.false_eq_true, if_false]

theorem lineShapes_closing {s : Text} (hs : IsLabelText s) (vs : List Scrap) :
    lineShapes (lineOf (.closing s :: vs)) = .unknown :: lineShapes (lineOf vs) := by
  have halone : StandsAlone (lineOf [.closing s]) := by
    have hclose : (↑")" : Text) = [.char ')'] := by decide
    refine standsAlone_word (w := s ++ ")") (by simp [hclose]) fun p hp => ?_
    rcases List.mem_append.mp hp with hp | hp
    · exact (hs.isPlain p hp).imp_right And.left
    · rw [hclose, List.mem_singleton] at hp
      rw [hp]
      exact ⟨by decide, by decide⟩
  rw [← List.singleton_append, lineShapes_append (List.cons_ne_nil _ _) halone]
  rw [show lineOf [.closing s] = s ++ ")" from rfl, shapeOf_closing hs]

/-- The first labels of a chord still are a chord at the end of a line. -/
theorem lineShapes_firstScraps (hne : ls ≠ []) (hls : ∀ s ∈ ls, IsLabelText s) :
    lineShapes (lineOf (firstScraps ls)) = [.chord ls []] := by
  have hopen : (↑"(" : Text) = [.char '('] := by decide
  have hplain : ∀ p ∈ Text.join " " ls, p ≠ .char '(' ∧ p ≠ .char ')' := by
    intro p hp
    rcases Text.mem_join hp with rfl | ⟨s, hs, hp⟩
    · exact ⟨by decide, by decide⟩
    · exact ((hls s hs).isPlain p hp).2
  -- The group is not closed, so it runs to the end of the line
  have hpieces : pieces ("(" ++ Text.join " " ls) = flush ("(" ++ Text.join " " ls) 1 := by
    have hne : (↑"(" : Text) ≠ [] := by simp [hopen]
    have hgroup := piecesFrom_group hplain 2 1 hne []
    rw [List.append_nil] at hgroup
    have hfirst : pieces ("(" ++ Text.join " " ls) = piecesFrom 2 1 1 "(" (Text.join " " ls) := by
      rw [pieces, hopen, List.singleton_append, piecesFrom]
      simp [flush, Text.strip, Text.trim, hopen]
    rw [hfirst, hgroup, piecesFrom]
  have hstrip : Text.strip ("(" ++ Text.join " " ls) = "(" ++ Text.join " " ls := by
    refine Text.trim_eq_self (fun p hp => ?_) fun p hp => ?_
    · rw [hopen] at hp
      rw [← Option.some.inj hp]
      decide
    · by_cases hnone : Text.join " " ls = []
      · rw [hnone, List.append_nil, hopen] at hp
        rw [← Option.some.inj hp]
        decide
      · rw [List.getLast?_append, List.getLast?_eq_some_getLast hnone, Option.some_or,
          ← List.getLast?_eq_some_getLast hnone] at hp
        exact Text.last_join (fun s hs => (hls s hs).isWord) hp
  have hbody : Token.groupBody ("(" ++ Text.join " " ls) = Text.join " " ls := by
    have hlast : ("(" ++ Text.join " " ls : Text).getLast? ≠ some (.char ')') := by
      intro h
      rcases List.mem_append.mp (List.mem_of_getLast? h) with h | h
      · rw [hopen] at h
        exact absurd (List.mem_singleton.mp h) (by decide)
      · exact (hplain _ h).2 rfl
    rw [Token.groupBody, if_neg hlast, hopen]
    rfl
  rw [lineOf_firstScraps hne, lineShapes, hpieces, flush, hstrip, if_neg (by simp [hopen])]
  simp [shapeOf_of_groupBody (s := "(" ++ Text.join " " ls) (by simp [hopen]) hbody hls]

end

/-! ## §4 Labels and parentheses of lines -/

/-- How many labels are read of a line. -/
def labelCount (line : Text) : Nat := ((lineShapes line).map fun shape => shape.schedule.length).sum

/-- A line on which as many chords are closed as are opened. -/
def IsClosed (line : Text) : Prop := line.count (.char '(') = line.count (.char ')')

instance (line : Text) : Decidable (IsClosed line) := inferInstanceAs (Decidable (_ = _))

theorem count_lineOf_append (c : Char) (hc : c ≠ ' ') (us vs : List Scrap) :
    (lineOf (us ++ vs)).count (.char c) =
      (lineOf us).count (.char c) + (lineOf vs).count (.char c) := by
  by_cases hus : us = []
  · rw [hus, List.nil_append]
    exact (Nat.zero_add _).symm
  by_cases hvs : vs = []
  · rw [hvs, List.append_nil]
    rfl
  have hne : Point.char ' ' ≠ .char c := fun h => hc (Point.char.inj h).symm
  rw [lineOf_append hus hvs, List.count_append, List.count_cons_of_ne hne]

section

variable {ls : List Text}

theorem count_join (hls : ∀ s ∈ ls, IsLabelText s) (c : Char) (hc : c = '(' ∨ c = ')') :
    (Text.join " " ls).count (.char c) = 0 := by
  refine List.count_eq_zero.mpr fun hmem => ?_
  rcases Text.mem_join hmem with hspace | ⟨s, hs, hmem⟩
  · rcases hc with rfl | rfl <;> exact absurd hspace (by decide)
  · have hplain := (hls s hs).isPlain _ hmem
    rcases hc with rfl | rfl
    · exact hplain.2.1 rfl
    · exact hplain.2.2 rfl

/-- A step that is not torn closes what it opens. -/
theorem isClosed_stepScraps (hls : ∀ s ∈ ls, IsLabelText s) : IsClosed (lineOf (stepScraps ls)) := by
  have hopened := count_join hls '(' (.inl rfl)
  have hclosed := count_join hls ')' (.inr rfl)
  rw [lineOf_stepScraps]
  match ls, hls with
  | [], _ => decide
  | [s], _ => exact hopened.trans hclosed.symm
  | s :: t :: ls, _ =>
    have hopen : (↑"(" : Text) = [.char '('] := by decide
    have hclose : (↑")" : Text) = [.char ')'] := by decide
    simp [IsClosed, stepText, hopen, hclose, hopened, hclosed]

theorem isClosed_steps {steps : List (List Text)} (hsteps : ∀ ls ∈ steps, ∀ s ∈ ls, IsLabelText s) :
    IsClosed (lineOf (steps.flatMap stepScraps)) := by
  induction steps with
  | nil => rfl
  | cons ls steps ih =>
    have hfirst := isClosed_stepScraps (hsteps ls List.mem_cons_self)
    have hrest := ih fun ls hls => hsteps ls (List.mem_cons_of_mem _ hls)
    unfold IsClosed at hfirst hrest ⊢
    rw [List.flatMap_cons, count_lineOf_append _ (by decide), count_lineOf_append _ (by decide), hfirst,
      hrest]

/-- A line that a chord begins on and does not end on is not closed. -/
theorem not_isClosed_torn {steps : List (List Text)}
    (hsteps : ∀ ls ∈ steps, ∀ s ∈ ls, IsLabelText s) (hne : ls ≠ []) (hls : ∀ s ∈ ls, IsLabelText s) :
    ¬ IsClosed (lineOf (steps.flatMap stepScraps ++ firstScraps ls)) := by
  have hopen : (↑"(" : Text) = [.char '('] := by decide
  have hwhole := isClosed_steps hsteps
  unfold IsClosed at hwhole ⊢
  rw [count_lineOf_append _ (by decide), count_lineOf_append _ (by decide), hwhole,
    lineOf_firstScraps hne, List.count_append, List.count_append, count_join hls _ (.inl rfl),
    count_join hls _ (.inr rfl), hopen]
  simp

/-! ## §5 Torn lines -/

theorem schedule_length_stepShape (ls : List Text) : (stepShape ls).schedule.length = ls.length := by
  rw [schedule_stepShape, List.length_map]

theorem labelCount_steps {steps : List (List Text)} (hsteps : ∀ ls ∈ steps, ∀ s ∈ ls, IsLabelText s)
    (vs : List Scrap) :
    labelCount (lineOf (steps.flatMap stepScraps ++ vs)) =
      (steps.map List.length).sum + labelCount (lineOf vs) := by
  rw [labelCount, lineShapes_steps hsteps, List.map_append, List.sum_append, List.map_map]
  congr 3
  exact funext schedule_length_stepShape

/-- What is left of a chord is read as one label less. -/
theorem labelCount_lastScraps (hne : ls ≠ []) (hls : ∀ s ∈ ls, IsLabelText s) (vs : List Scrap) :
    labelCount (lineOf (lastScraps ls ++ vs)) + 1 = ls.length + labelCount (lineOf vs) := by
  induction ls with
  | nil => exact absurd rfl hne
  | cons s ls ih =>
    have hs := hls s List.mem_cons_self
    have hrest := fun t ht => hls t (List.mem_cons_of_mem s ht)
    cases ls with
    | nil =>
      have hshape : Token.Shape.unknown.schedule.length = 0 := rfl
      simp [lastScraps, labelCount, lineShapes_closing hs, hshape, Nat.add_comm]
    | cons t ls =>
      have hshape : (Token.Shape.note s).schedule.length = 1 := rfl
      have hih := ih (List.cons_ne_nil t ls) hrest
      have hfirst : ∀ u ∈ [s], IsLabelText u := List.forall_mem_singleton.mpr hs
      have hlabel := lineShapes_labels hfirst (lastScraps (t :: ls) ++ vs)
      rw [lastScraps_cons (List.cons_ne_nil t ls), List.cons_append, labelCount]
      simp only [List.map_singleton, List.singleton_append] at hlabel
      rw [hlabel, List.map_cons, List.sum_cons, hshape, List.length_cons (a := s)]
      rw [labelCount] at hih
      omega

theorem labelCount_labels (hls : ∀ s ∈ ls, IsLabelText s) :
    labelCount (lineOf (ls.map .label)) = ls.length := by
  have hshapes := lineShapes_labels hls []
  rw [List.append_nil, lineShapes_nil, List.append_nil] at hshapes
  have hone : ((fun shape => shape.schedule.length) ∘ Token.Shape.note) = fun _ => 1 := rfl
  rw [labelCount, hshapes, List.map_map, hone]
  simp

theorem labelCount_firstScraps (hne : ls ≠ []) (hls : ∀ s ∈ ls, IsLabelText s) :
    labelCount (lineOf (firstScraps ls)) = ls.length := by
  rw [labelCount, lineShapes_firstScraps hne hls]
  simp [Token.Shape.schedule, Token.schedule, Token.labels]

end

/-- What lines of scraps mean. -/
def shapesIn (shown : List (List Scrap)) : List Token.Shape :=
  shown.flatMap fun ws => lineShapes (lineOf ws)

/-- How many labels are read of lines. -/
def labelsIn (shown : List (List Scrap)) : Nat :=
  ((shapesIn shown).map fun shape => shape.schedule.length).sum

theorem labelsIn_cons (ws : List Scrap) (shown : List (List Scrap)) :
    labelsIn (ws :: shown) = labelCount (lineOf ws) + labelsIn shown := by
  rw [labelsIn, shapesIn, List.flatMap_cons, List.map_append, List.sum_append]
  rfl

/-- What becomes of steps on some lines: all of them are there, and each line closes what it opens;
or a line does not, and a label is lost. -/
def WholeOrTorn (shown : List (List Scrap)) (steps : List (List Text)) : Prop :=
  ((∀ ws ∈ shown, IsClosed (lineOf ws)) ∧ shapesIn shown = steps.map stepShape) ∨
    ((∃ ws ∈ shown, ¬ IsClosed (lineOf ws)) ∧ labelsIn shown < (steps.map List.length).sum)

/-- Nothing is read that was not written. -/
theorem WholeOrTorn.labelsIn_le {shown : List (List Scrap)} {steps : List (List Text)}
    (h : WholeOrTorn shown steps) : labelsIn shown ≤ (steps.map List.length).sum := by
  rcases h with ⟨-, hshapes⟩ | ⟨-, hlost⟩
  · rw [labelsIn, hshapes, List.map_map]
    exact le_of_eq (congrArg List.sum (List.map_congr_left fun ls _ => schedule_length_stepShape ls))
  · exact hlost.le

/-- **Lines of steps mean these steps, or they lose a label**; and lines on which a chord is left
lose one. -/
theorem whole_or_torn (shown : List (List Scrap)) :
    (∀ steps : List (List Text), (∀ ls ∈ steps, ∀ s ∈ ls, IsLabelText s) →
      shown.flatten = steps.flatMap stepScraps → WholeOrTorn shown steps) ∧
    (∀ (ls : List Text) (steps : List (List Text)), ls ≠ [] → (∀ s ∈ ls, IsLabelText s) →
      (∀ ls ∈ steps, ∀ s ∈ ls, IsLabelText s) →
      shown.flatten = lastScraps ls ++ steps.flatMap stepScraps →
      labelsIn shown < ls.length + (steps.map List.length).sum) := by
  -- A line leaves whole steps to the next one, or what is left of a chord before them
  induction shown with
  | nil =>
    refine ⟨fun steps _ h => ?_, fun ls steps hne _ _ h => ?_⟩
    · cases steps with
      | nil => exact .inl ⟨nofun, rfl⟩
      | cons ls steps =>
        exact absurd (List.append_eq_nil_iff.mp h.symm).1 (stepScraps_ne_nil ls)
    · exact absurd (List.append_eq_nil_iff.mp h.symm).1 (lastScraps_ne_nil hne)
  | cons ws shown ih =>
    obtain ⟨ihwhole, ihtorn⟩ := ih
    have hwhole : ∀ ws (steps : List (List Text)), (∀ ls ∈ steps, ∀ s ∈ ls, IsLabelText s) →
        ws ++ shown.flatten = steps.flatMap stepScraps → WholeOrTorn (ws :: shown) steps := by
      intro ws steps hsteps h
      have hcut := cut_steps h
      generalize hrest : shown.flatten = rest at hcut
      cases hcut with
      | between before after =>
        obtain ⟨hbefore, hafter⟩ := List.forall_mem_append.mp hsteps
        have hcount := labelCount_steps hbefore []
        have hshapes := lineShapes_steps hbefore []
        rw [List.append_nil, lineShapes_nil, List.append_nil] at hshapes
        rw [List.append_nil, labelCount, labelCount, lineShapes_nil] at hcount
        rcases ihwhole after hafter hrest with ⟨hclosed, hsame⟩ | ⟨⟨us, hus, hopen⟩, hlost⟩
        · refine .inl ⟨List.forall_mem_cons.mpr ⟨isClosed_steps hbefore, hclosed⟩, ?_⟩
          rw [shapesIn, List.flatMap_cons, hshapes, List.map_append, ← hsame, shapesIn]
        · refine .inr ⟨⟨us, List.mem_cons_of_mem _ hus, hopen⟩, ?_⟩
          rw [labelsIn_cons, labelCount, hcount, List.map_append, List.sum_append]
          exact Nat.add_lt_add_left hlost _
      | within before front back after hfront hback =>
        obtain ⟨hbefore, hafter⟩ := List.forall_mem_append.mp hsteps
        obtain ⟨hchord, hafter⟩ := List.forall_mem_cons.mp hafter
        obtain ⟨hfirst, hlast⟩ := List.forall_mem_append.mp hchord
        have hlost := ihtorn back after hback hlast hafter hrest
        refine .inr ⟨⟨_, List.mem_cons_self, not_isClosed_torn hbefore hfront hfirst⟩, ?_⟩
        rw [labelsIn_cons, labelCount_steps hbefore, labelCount_firstScraps hfront hfirst,
          List.map_append, List.sum_append, List.map_cons, List.sum_cons, List.length_append]
        omega
    refine ⟨fun steps hsteps h => hwhole ws steps hsteps h, fun ls steps hne hls hsteps h => ?_⟩
    rw [List.flatten_cons] at h
    rcases cut_chord hne h with ⟨front, back, rfl, hback, rfl, hrest⟩ | ⟨us, rfl, hus⟩
    · -- The whole line is within the chord
      obtain ⟨hfirst, hlast⟩ := List.forall_mem_append.mp hls
      have hlost := ihtorn back steps hback hlast hsteps hrest
      rw [labelsIn_cons, labelCount_labels hfirst, List.length_append]
      omega
    · -- The line begins with the last labels of the chord
      have hle := (hwhole us steps hsteps hus).labelsIn_le
      have hcount := labelCount_lastScraps hne hls us
      rw [labelsIn_cons] at hle ⊢
      omega

end Lamella.Tab
