import Lamella.Proofs.Tab.Members
import Lamella.Proofs.Tab.Schedule
import Lamella.Tab.Writing
import Mathlib.Data.List.Perm.Basic
import Mathlib.Data.List.Perm.Lattice
import Mathlib.Tactic.Common

/-!
# Written measures

What is written of labels on steps is read back token by token. The token of a step stands alone
between its separators, wherever lines break, and means the labels of the step: a rest, a note or a
chord.

## Main statements

- `standsAlone_stepText`: the token of a step is a piece of its own, wherever it stands.
- `shapeOf_stepText`: the token of a step means the labels of the step.
- `textShapes_measureText`: the tokens of written measures are those that were written.
-/

namespace Lamella.Tab

/-! ## §1 Tokens by their shapes -/

/-- What the pieces of a line mean. -/
def lineShapes (line : Text) : List Token.Shape := (pieces line).map fun p => Token.shapeOf p.text

/-- What the pieces of a text mean. -/
def textShapes (text : Text) : List Token.Shape := (Text.lines text).flatMap lineShapes

theorem tokensFrom_shape (n : Nat) (ls : List Text) :
    (tokensFrom n ls).map Token.shape = ls.flatMap lineShapes := by
  induction ls generalizing n with
  | nil => rfl
  | cons line ls ih =>
    have hline : (lineTokens n line).map Token.shape = lineShapes line := by
      rw [lineTokens, List.map_map]
      rfl
    rw [tokensFrom, List.map_append, hline, ih, List.flatMap_cons]

theorem tokens_shape (text : Text) : (tokens text).map Token.shape = textShapes text :=
  tokensFrom_shape 1 (Text.lines text)

/-- The schedule that a shape gives a token. -/
def Token.Shape.schedule (s : Token.Shape) : List (Text × Nat) := Token.schedule ⟨s, [], 0, 0⟩

/-- The width that a shape gives a token. -/
def Token.Shape.width (s : Token.Shape) : Nat := Token.width ⟨s, [], 0, 0⟩

theorem Token.schedule_shape (t : Token) : t.schedule = t.shape.schedule := rfl

theorem Token.width_shape (t : Token) : t.width = t.shape.width := rfl

/-! ## §2 Pieces that stand alone -/

/-- Where pieces lie has no part in what they say. -/
theorem piecesFrom_text (column column' start start' depth : Nat) (current s : Text) :
    (piecesFrom column start depth current s).map Piece.text =
      (piecesFrom column' start' depth current s).map Piece.text := by
  have hflush (current : Text) (start start' : Nat) :
      (flush current start).map Piece.text = (flush current start').map Piece.text := by
    unfold flush
    by_cases h : Text.strip current = [] <;> simp [h]
  induction s generalizing column column' start start' depth current with
  | nil => exact hflush current start start'
  | cons c s ih =>
    unfold piecesFrom
    split
    · split
      · rw [List.map_append, List.map_append, hflush current start start',
          ih (column + 1) (column' + 1) column column']
      · exact ih ..
    · split
      · split
        · rw [List.map_cons, List.map_cons, ih (column + 1) (column' + 1) start start']
        · exact ih ..
      · split
        · rw [List.map_append, List.map_append, hflush current start start',
            ih (column + 1) (column' + 1) start start']
        · exact ih ..

/-- A point that neither separates pieces nor opens or closes a group. -/
def IsPlain (p : Point) : Prop := Text.isBlank p = false ∧ p ≠ .char '(' ∧ p ≠ .char ')'

/-- Points that neither separate pieces nor open a group grow the piece at hand. -/
theorem piecesFrom_append {w : Text} (hw : ∀ p ∈ w, Text.isBlank p = false ∧ p ≠ .char '(')
    (column start : Nat) (current s : Text) :
    ∃ start', piecesFrom column start 0 current (w ++ s) =
      piecesFrom (column + w.length) start' 0 (current ++ w) s := by
  induction w generalizing column start current with
  | nil => exact ⟨start, by simp⟩
  | cons p w ih =>
    obtain ⟨hblank, hopen⟩ := hw p List.mem_cons_self
    -- The first point sets where the piece starts, the others only grow it
    obtain ⟨start', h⟩ := ih (fun q hq => hw q (List.mem_cons_of_mem _ hq)) (column + 1)
      (if current = [] then column else start) (current ++ [p])
    refine ⟨start', ?_⟩
    have hstep : piecesFrom column start 0 current (p :: (w ++ s)) =
        piecesFrom (column + 1) (if current = [] then column else start) 0 (current ++ [p])
          (w ++ s) := by
      rw [piecesFrom]
      simp [hblank, hopen]
    rw [List.cons_append, hstep, h]
    simp [Nat.add_assoc, Nat.add_comm 1]

/-- Inside a group all points but parentheses grow the piece at hand. -/
theorem piecesFrom_group {w : Text} (hw : ∀ p ∈ w, p ≠ .char '(' ∧ p ≠ .char ')')
    (column start : Nat) {current : Text} (hcurrent : current ≠ []) (s : Text) :
    piecesFrom column start 1 current (w ++ s) =
      piecesFrom (column + w.length) start 1 (current ++ w) s := by
  induction w generalizing column current with
  | nil => simp
  | cons p w ih =>
    obtain ⟨hopen, hclose⟩ := hw p List.mem_cons_self
    have hstep : piecesFrom column start 1 current (p :: (w ++ s)) =
        piecesFrom (column + 1) start 1 (current ++ [p]) (w ++ s) := by
      rw [piecesFrom]
      simp [hopen, hclose, hcurrent]
    rw [List.cons_append, hstep, ih (fun q hq => hw q (List.mem_cons_of_mem _ hq)) _ (by simp)]
    simp [Nat.add_assoc, Nat.add_comm 1]

/-- A text that is a piece of its own, before a space and at the end of a line, and that holds no
line end. -/
structure StandsAlone (w : Text) : Prop where
  ne_nil : w ≠ []
  no_line_end : ∀ p ∈ w, Text.isLineEnd p = false
  lineShapes_word : lineShapes w = [Token.shapeOf w]
  lineShapes_append : ∀ s, lineShapes (w ++ .char ' ' :: s) = Token.shapeOf w :: lineShapes s

theorem StandsAlone.textShapes_eq {w : Text} (hw : StandsAlone w) :
    textShapes w = [Token.shapeOf w] := by
  rw [textShapes, Text.lines_word hw.no_line_end hw.ne_nil, List.flatMap_singleton,
    hw.lineShapes_word]

theorem lineShapes_eq (s : Text) (column start : Nat) :
    ((piecesFrom column start 0 [] s).map Piece.text).map Token.shapeOf = lineShapes s := by
  rw [piecesFrom_text column 1 start 1, List.map_map]
  rfl

theorem piecesFrom_space (column start : Nat) (current s : Text) :
    piecesFrom column start 0 current (.char ' ' :: s) =
      flush current start ++ piecesFrom (column + 1) start 0 [] s := by
  have hblank : Text.isBlank (.char ' ') = true := by decide
  rw [piecesFrom]
  simp [hblank]

/-- A word that opens no group stands alone. -/
theorem standsAlone_word {w : Text} (hne : w ≠ [])
    (hw : ∀ p ∈ w, Text.isBlank p = false ∧ p ≠ .char '(') : StandsAlone w := by
  have hflush (start : Nat) : flush w start = [⟨w, start⟩] := by
    rw [flush, Text.strip_word fun p hp => (hw p hp).1, if_neg hne]
  refine ⟨hne, fun p hp => Text.isLineEnd_eq_false_of_not_blank (hw p hp).1, ?_, fun s => ?_⟩
  · obtain ⟨start', h⟩ := piecesFrom_append hw 1 1 [] []
    rw [List.append_nil] at h
    rw [lineShapes, pieces, h, List.nil_append, piecesFrom, hflush]
    rfl
  · obtain ⟨start', h⟩ := piecesFrom_append hw 1 1 [] (.char ' ' :: s)
    rw [← lineShapes_eq _ 1 1, h, List.nil_append, piecesFrom_space, hflush, ← lineShapes_eq s]
    rfl

/-- A group without parentheses inside is a piece, whatever comes after it. -/
theorem piecesFrom_closed {w : Text} (hw : ∀ p ∈ w, p ≠ .char '(' ∧ p ≠ .char ')') (s : Text) :
    ∃ column, piecesFrom 1 1 0 [] ("(" ++ w ++ ")" ++ s) =
      ⟨"(" ++ w ++ ")", 1⟩ :: piecesFrom column 1 0 [] s := by
  have hopen : (↑"(" : Text) = [.char '('] := by decide
  have hclose : (↑")" : Text) = [.char ')'] := by decide
  -- The opening parenthesis goes one level down, and the closing one comes back and ends the piece
  have hfirst : piecesFrom 1 1 0 [] ("(" ++ w ++ ")" ++ s) =
      piecesFrom 2 1 1 "(" (w ++ .char ')' :: s) := by
    simp [hopen, hclose, piecesFrom, flush, Text.strip, Text.trim]
  refine ⟨2 + w.length + 1, ?_⟩
  rw [hfirst, piecesFrom_group hw 2 1 (by simp [hopen]), piecesFrom]
  simp

theorem piecesFrom_nil (column start : Nat) : piecesFrom column start 0 [] [] = [] := by
  simp [piecesFrom, flush, Text.strip, Text.trim]

/-- A group without parentheses inside is the only piece of its line. -/
theorem pieces_group {w : Text} (hw : ∀ p ∈ w, p ≠ .char '(' ∧ p ≠ .char ')') :
    pieces ("(" ++ w ++ ")") = [⟨"(" ++ w ++ ")", 1⟩] := by
  obtain ⟨column, h⟩ := piecesFrom_closed hw []
  rwa [List.append_nil, piecesFrom_nil] at h

/-- A group without parentheses inside stands alone. -/
theorem standsAlone_group {w : Text} (hw : ∀ p ∈ w, p ≠ .char '(' ∧ p ≠ .char ')')
    (hend : ∀ p ∈ w, Text.isLineEnd p = false) : StandsAlone ("(" ++ w ++ ")") := by
  have hopen : (↑"(" : Text) = [.char '('] := by decide
  have hclose : (↑")" : Text) = [.char ')'] := by decide
  refine ⟨by simp [hopen], fun p hp => ?_, ?_, fun s => ?_⟩
  · simp only [hopen, hclose, List.mem_append, List.mem_singleton] at hp
    rcases hp with (rfl | hp) | rfl
    · decide
    · exact hend p hp
    · decide
  · rw [lineShapes, pieces_group hw]
    rfl
  · obtain ⟨column, h⟩ := piecesFrom_closed hw (.char ' ' :: s)
    rw [← lineShapes_eq _ 1 1, h, piecesFrom_space, ← lineShapes_eq s (column + 1) 1]
    simp [flush, Text.strip, Text.trim]

/-! ## §3 The token of a step -/

section

variable {ls : List Text}

/-- A written label: the text of a label that can be read. -/
def IsLabelText (s : Text) : Prop := ∃ l : Label, l.Readable ∧ s = l.text

/-- What the code points of a written label are, which tells it apart from all else. -/
theorem IsLabelText.code {s : Text} (hs : IsLabelText s) {p : Point} (hp : p ∈ s) :
    (49 ≤ p.code ∧ p.code ≤ 55) ∨ p.code = 176 := by
  obtain ⟨l, hl, rfl⟩ := hs
  exact Label.code_of_mem_text hl hp

theorem IsLabelText.ne_nil {s : Text} (hs : IsLabelText s) : s ≠ [] := by
  obtain ⟨l, hl, rfl⟩ := hs
  obtain ⟨c, -, -, htext⟩ := Label.text_eq hl
  simp [htext]

theorem isPlain_of_code {p : Point} (hcode : (49 ≤ p.code ∧ p.code ≤ 55) ∨ p.code = 176) :
    IsPlain p := by
  refine ⟨?_, ?_, ?_⟩
  · simp only [Text.isBlank, Text.isBlankCode, Bool.or_eq_false_iff, Bool.and_eq_false_iff,
      decide_eq_false_iff_not, beq_eq_false_iff_ne]
    omega
  · rintro rfl
    exact absurd hcode (by decide)
  · rintro rfl
    exact absurd hcode (by decide)

theorem IsLabelText.isPlain {s : Text} (hs : IsLabelText s) : ∀ p ∈ s, IsPlain p :=
  fun _ hp => isPlain_of_code (hs.code hp)

theorem IsLabelText.isWord {s : Text} (hs : IsLabelText s) : Text.IsWord s :=
  ⟨hs.ne_nil, fun p hp => (hs.isPlain p hp).1⟩

/-- A written label holds no other sign of an octave than the glyph. -/
theorem IsLabelText.unifyMarkers_eq {s : Text} (hs : IsLabelText s) : unifyMarkers s = s := by
  -- A sign that is no point of the label is replaced nowhere
  have keep (old : Char) (hold : ¬ ((49 ≤ old.toNat ∧ old.toNat ≤ 55) ∨ old.toNat = 176)) :
      Text.replaceChar old Label.glyph s = s := by
    have hsame : ∀ p ∈ s, (if p = .char old then Point.char Label.glyph else p) = p := by
      intro p hp
      refine if_neg ?_
      rintro rfl
      exact hold (hs.code hp)
    exact (List.map_congr_left hsame).trans (List.map_id s)
  rw [unifyMarkers, keep '*' (by decide), keep '\'' (by decide)]

theorem IsLabelText.not_isRest {s : Text} (hs : IsLabelText s) : isRest s = false := by
  have hne (c : Char) (hc : ¬ ((49 ≤ c.toNat ∧ c.toNat ≤ 55) ∨ c.toNat = 176)) :
      s ≠ [.char c] := by
    rintro rfl
    exact hc (hs.code List.mem_cons_self)
  have hdash := hne '-' (by decide)
  have hline := hne '_' (by decide)
  have hsmall := hne 'r' (by decide)
  have hlarge := hne 'R' (by decide)
  simp only [isRest, Bool.or_eq_false_iff, decide_eq_false_iff_not]
  exact ⟨⟨⟨hdash, hline⟩, hsmall⟩, hlarge⟩

theorem IsLabelText.isLabel_eq {s : Text} (hs : IsLabelText s) : isLabel s = true := by
  obtain ⟨l, hl, rfl⟩ := hs
  rw [isLabel, Label.ofText?_text hl]
  rfl

/-- A written label means a note. -/
theorem shapeOf_label {s : Text} (hs : IsLabelText s) : Token.shapeOf s = .note s := by
  have hhead : s.head? ≠ some (.char '(') := by
    intro h
    exact (hs.isPlain _ (List.mem_of_head? h)).2.1 rfl
  simp only [Token.shapeOf, hs.not_isRest, hs.unifyMarkers_eq, hs.isLabel_eq, hhead, if_true,
    if_false, Bool.false_eq_true]

theorem IsLabelText.ofMember_eq {s : Text} (hs : IsLabelText s) : Token.ofMember s = ([s], []) := by
  simp [Token.ofMember, hs.not_isRest, hs.unifyMarkers_eq, hs.isLabel_eq]

/-- A group of written labels means the chord of those labels, whether it is closed or not. -/
theorem shapeOf_of_groupBody {s : Text} (hhead : s.head? = some (.char '('))
    (hbody : Token.groupBody s = Text.join " " ls) (hls : ∀ s ∈ ls, IsLabelText s) :
    Token.shapeOf s = .chord ls [] := by
  -- The body of the group is cut into its labels again, each a label as written
  have hwords : Text.words (Text.join " " ls) = ls := Text.words_join fun s hs => (hls s hs).isWord
  have hone : ∀ s ∈ ls, memberLabels s = [s] := fun s hs =>
    congrArg Prod.fst (hls s hs).ofMember_eq
  have hlabels : ls.flatMap memberLabels = ls := by
    rw [List.flatMap_congr hone, List.flatMap_singleton']
  have hinvalid : (ls.flatMap fun s => (Token.ofMember s).2) = [] :=
    List.flatMap_eq_nil_iff.mpr fun s hs => congrArg Prod.snd (hls s hs).ofMember_eq
  rw [shapeOf_group hhead, hbody, hwords, hlabels, hinvalid]

/-- What the labels of a step mean together. -/
def stepShape : List Text → Token.Shape
  | [] => .rest
  | [label] => .note label
  | labels => .chord labels []

/-- **The token of a step means the labels of the step.** -/
theorem shapeOf_stepText (hls : ∀ s ∈ ls, IsLabelText s) :
    Token.shapeOf (stepText ls) = stepShape ls := by
  match ls, hls with
  | [], _ => decide
  | [s], hls => exact shapeOf_label (hls s List.mem_cons_self)
  | _ :: _ :: _, hls => exact shapeOf_of_groupBody rfl (groupBody_closed _) hls

/-- The token of a step stands alone. -/
theorem standsAlone_stepText (hls : ∀ s ∈ ls, IsLabelText s) : StandsAlone (stepText ls) := by
  match ls, hls with
  | [], _ =>
    refine standsAlone_word (by decide) fun p hp => ?_
    have hp : p = .char '-' := List.mem_singleton.mp hp
    rw [hp]
    exact ⟨by decide, by decide⟩
  | [s], hls =>
    have hs := hls s List.mem_cons_self
    exact standsAlone_word hs.ne_nil fun p hp => (hs.isPlain p hp).imp_right And.left
  | s :: t :: ls, hls =>
    refine standsAlone_group (fun p hp => ?_) fun p hp => ?_
    · rcases Text.mem_join hp with rfl | ⟨u, hu, hp⟩
      · exact ⟨by decide, by decide⟩
      · exact ((hls u hu).isPlain p hp).2
    · rcases Text.mem_join hp with rfl | ⟨u, hu, hp⟩
      · decide
      · exact Text.isLineEnd_eq_false_of_not_blank ((hls u hu).isPlain p hp).1

theorem schedule_stepShape (ls : List Text) :
    (stepShape ls).schedule = ls.map fun label => (label, 0) := by
  match ls with
  | [] => rfl
  | [_] => rfl
  | _ :: _ :: _ => rfl

theorem width_stepShape (ls : List Text) : (stepShape ls).width = 1 := by
  match ls with
  | [] => rfl
  | [_] => rfl
  | _ :: _ :: _ => rfl

end

/-! ## §4 Measures -/

/-- The tokens of measures after the first one are those that were written, whether a space or a
line feed is before them. -/
theorem textShapes_append_measureText (perLine : Nat) {ws : List Text}
    (hws : ∀ w ∈ ws, StandsAlone w) (step : Nat) {w : Text} (hw : StandsAlone w) :
    textShapes (w ++ measureText perLine (step + 1) ws) =
      Token.shapeOf w :: ws.map Token.shapeOf := by
  induction ws generalizing step w with
  | nil =>
    rw [measureText, List.append_nil, hw.textShapes_eq]
    rfl
  | cons v ws ih =>
    have hrest := ih (fun u hu => hws u (List.mem_cons_of_mem _ hu)) (step + 1)
      (hws v List.mem_cons_self)
    have hnewline : (↑"\n" : Text) = [.char '\n'] := by decide
    have hspace : (↑" " : Text) = [.char ' '] := by decide
    have hv := (hws v List.mem_cons_self).ne_nil
    simp only [measureText, Nat.add_one_ne_zero, if_false]
    by_cases hmeasure : (step + 1) % perLine = 0
    · -- A measure is full: the word ends its line
      rw [if_pos hmeasure, hnewline, List.append_assoc, List.singleton_append, textShapes,
        Text.lines_append_feed hw.no_line_end, List.flatMap_cons, hw.lineShapes_word]
      simpa [textShapes] using hrest
    · -- Within a measure: the word begins the first line of what follows
      rw [if_neg hmeasure, hspace, List.append_assoc, List.singleton_append]
      obtain ⟨first, others, hlines⟩ := List.exists_cons_of_ne_nil (Text.lines_ne_nil
        (List.append_ne_nil_of_left_ne_nil hv (measureText perLine (step + 1 + 1) ws)))
      have hends : ∀ p ∈ w ++ [.char ' '], Text.isLineEnd p = false := by
        intro p hp
        rcases List.mem_append.mp hp with hp | hp
        · exact hw.no_line_end p hp
        · rw [List.mem_singleton.mp hp]
          decide
      have hgrown := Text.lines_append hends hlines
      rw [List.append_assoc, List.singleton_append] at hgrown
      rw [textShapes, hlines, List.flatMap_cons] at hrest
      rw [textShapes, hgrown, List.flatMap_cons, List.append_assoc, List.singleton_append,
        hw.lineShapes_append, List.cons_append, hrest]
      rfl

/-- **The tokens of written measures are those that were written.** -/
theorem textShapes_measureText (perLine : Nat) {ws : List Text} (hws : ∀ w ∈ ws, StandsAlone w) :
    textShapes (measureText perLine 0 ws) = ws.map Token.shapeOf := by
  cases ws with
  | nil => rfl
  | cons w ws =>
    have hfirst : measureText perLine 0 (w :: ws) = w ++ measureText perLine 1 ws := rfl
    rw [hfirst, textShapes_append_measureText perLine
      (fun v hv => hws v (List.mem_cons_of_mem _ hv)) 0 (hws w List.mem_cons_self)]
    rfl

end Lamella.Tab
