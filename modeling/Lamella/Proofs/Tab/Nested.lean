import Lamella.Proofs.Tab.Members
import Lamella.Proofs.Tab.Schedule
import Mathlib.Data.List.ReduceOption

/-!
# Groups inside a group

The parentheses of a group inside a group are dropped, and what stands on their two sides comes
together. If they were blanks, it would stay apart. So each member of the chord is made of the
members that there would be, put together, and it has their labels just if all of them have labels
or none has. Everything else about the tokens of a line is the same.

## Main definitions

- `Tab.unnest`: a line with a space for each parenthesis inside a group.
- `Tab.Token.Flattens`: how a token goes with the one of the line that holds spaces.

## Main statements

- `Text.words_marks`: the words of a text from which marks were dropped, and of the one with spaces
  for them.
- `Tab.piecesFrom_unnest`: both lines fall into the same pieces.
- `Tab.nested_groups_flatten`: the tokens of both lines.
-/

namespace Lamella.Text

/-! ## §1 Words around marks -/

section

variable {α : Type} {p : α → Bool}

theorem exists_pieces_eq_cons (p : α → Bool) (s : List α) :
    ∃ piece others, pieces p s = piece :: others := by
  induction s with
  | nil => exact ⟨_, _, rfl⟩
  | cons c s ih =>
    obtain ⟨piece, others, h⟩ := ih
    rw [pieces]
    split
    · exact ⟨_, _, rfl⟩
    · exact ⟨c :: piece, others, by rw [h]; rfl⟩

theorem of_mem_pieces {s piece : List α} (h : piece ∈ pieces p s) : ∀ c ∈ piece, p c = false := by
  induction s generalizing piece with
  | nil =>
    rw [pieces, List.mem_singleton] at h
    simp [h]
  | cons c s ih =>
    obtain ⟨first, others, hs⟩ := exists_pieces_eq_cons p s
    rw [hs] at ih
    rw [pieces, hs] at h
    split at h
    · rcases List.mem_cons.mp h with rfl | h
      · simp
      · exact ih h
    · rename_i hc
      rcases List.mem_cons.mp h with rfl | h
      · intro d hd
        rcases List.mem_cons.mp hd with rfl | hd
        · exact eq_false_of_ne_true hc
        · exact ih List.mem_cons_self d hd
      · exact ih (List.mem_cons_of_mem _ h)

/-- If marks are dropped, pieces are put together; if they are separators, pieces stay apart. -/
theorem pieces_marks {separator : α} (hseparator : p separator = true) (marks : List (Option α)) :
    ∃ rows : List (List (List α)), rows ≠ [] ∧ (∀ row ∈ rows, row ≠ []) ∧
      pieces p marks.reduceOption = rows.map List.flatten ∧
      pieces p (marks.map (·.getD separator)) = rows.flatten := by
  induction marks with
  | nil => exact ⟨[[[]]], by simp, by simp, rfl, rfl⟩
  | cons mark marks ih =>
    obtain ⟨rows, hne, hrows, hplain, hspread⟩ := ih
    obtain ⟨row, rows, rfl⟩ := List.exists_cons_of_ne_nil hne
    cases mark with
    | none =>
      -- The first piece stays what it is, and an empty one comes before it
      refine ⟨([] :: row) :: rows, by simp, ?_, ?_, ?_⟩
      · exact List.forall_mem_cons.mpr ⟨by simp, (List.forall_mem_cons.mp hrows).2⟩
      · rw [List.reduceOption_cons_of_none, hplain]
        rfl
      · rw [List.map_cons, Option.getD_none, pieces, if_pos hseparator, hspread]
        rfl
    | some c =>
      by_cases hc : p c = true
      · refine ⟨[[]] :: row :: rows, by simp, ?_, ?_, ?_⟩
        · exact List.forall_mem_cons.mpr ⟨by simp, hrows⟩
        · rw [List.reduceOption_cons_of_some, pieces, if_pos hc, hplain]
          rfl
        · rw [List.map_cons, Option.getD_some, pieces, if_pos hc, hspread]
          rfl
      · obtain ⟨piece, row, rfl⟩ := List.exists_cons_of_ne_nil (hrows row List.mem_cons_self)
        refine ⟨((c :: piece) :: row) :: rows, by simp, ?_, ?_, ?_⟩
        · exact List.forall_mem_cons.mpr ⟨by simp, (List.forall_mem_cons.mp hrows).2⟩
        · rw [List.reduceOption_cons_of_some, pieces, if_neg hc, hplain]
          rfl
        · rw [List.map_cons, Option.getD_some, pieces, if_neg hc, hspread]
          rfl

end

theorem isWord_of_mem_words {s w : Text} (h : w ∈ words s) : IsWord w := by
  rw [words, List.mem_filter, decide_eq_true_eq] at h
  exact ⟨h.2, of_mem_pieces h.1⟩

/-- If marks are dropped, words are put together; if they are spaces, words stay apart. -/
theorem words_marks (marks : List (Option Point)) : ∃ glued : List (List Text),
    (∀ ws ∈ glued, ws ≠ []) ∧ words marks.reduceOption = glued.map List.flatten ∧
      words (marks.map (·.getD (.char ' '))) = glued.flatten := by
  have hspace : isBlank (.char ' ') = true := by decide
  obtain ⟨rows, -, -, hplain, hspread⟩ := pieces_marks hspace marks
  refine ⟨(rows.map fun row => row.filter (· ≠ [])).filter (· ≠ []), ?_, ?_, ?_⟩
  · intro ws hws
    simpa using (List.mem_filter.mp hws).2
  · -- Empty pieces add nothing to what is put together of a row
    have hflat (row : List Text) : (row.filter (· ≠ [])).flatten = row.flatten :=
      List.flatten_filter_ne_nil
    have hkept (row : List Text) : row.filter (· ≠ []) ≠ [] ↔ row.flatten ≠ [] := by
      rw [not_iff_not, List.filter_eq_nil_iff, List.flatten_eq_nil_iff]
      simp
    rw [words, hplain, List.filter_map, List.filter_map, List.map_map]
    simp only [Function.comp_def, hflat, hkept]
  · rw [words, hspread, List.filter_flatten]
    exact List.flatten_filter_ne_nil.symm

/-- Blanks at the end of a text are no part of its words. -/
theorem words_concat_blank {c : Point} (hc : isBlank c = true) (s : Text) :
    words (s ++ [c]) = words s := by
  have hpieces (s : Text) : pieces isBlank (s ++ [c]) = pieces isBlank s ++ [[]] := by
    induction s with
    | nil => simp [pieces, hc]
    | cons d s ih =>
      obtain ⟨piece, others, h⟩ := exists_pieces_eq_cons isBlank s
      rw [List.cons_append, pieces, ih, pieces, h]
      split <;> rfl
  rw [words, hpieces, List.filter_append]
  simp [words]

theorem words_trimEnd (s : Text) : words (trimEnd isBlank s) = words s := by
  induction s using List.reverseRecOn with
  | nil => rfl
  | append_singleton s c ih =>
    rw [trimEnd, List.reverse_append, List.reverse_singleton, List.singleton_append]
    by_cases hc : isBlank c = true
    · rw [List.dropWhile_cons_of_pos hc, words_concat_blank hc, ← ih]
      rfl
    · rw [List.dropWhile_cons_of_neg hc]
      simp

theorem trim_cons {α : Type} {p : α → Bool} {c : α} (hc : p c = false) (s : List α) :
    trim p (c :: s) = c :: trimEnd p s := by
  rw [trim, trimEnd, List.dropWhile_cons_of_neg (by simp [hc]), List.reverse_cons,
    List.dropWhile_append]
  split
  · rename_i hnone
    rw [List.isEmpty_iff.mp hnone, List.dropWhile_cons_of_neg (by simp [hc])]
    rfl
  · simp

end Lamella.Text

namespace Lamella.Tab

/-! ## §2 Both lines, piece by piece -/

/-- The rest of a line with a space for each parenthesis inside a group, when `depth` groups are
open. -/
def unnestFrom (depth : Nat) : Text → Text
  | [] => []
  | c :: rest =>
    if c = '(' then (if depth = 0 then c else .char ' ') :: unnestFrom (depth + 1) rest
    else if c = ')' ∧ depth ≠ 0 then
      (if depth = 1 then c else .char ' ') :: unnestFrom (depth - 1) rest
    else c :: unnestFrom depth rest

/-- A line with a space for each parenthesis inside a group. -/
def unnest (line : Text) : Text := unnestFrom 0 line

/-- The text of a group that goes on, which is given by its points and a mark for each parenthesis
inside it: the marks are dropped. -/
def bare (marks : List (Option Point)) : Text := .char '(' :: marks.reduceOption

/-- The text of a group that goes on, with a space for each mark. -/
def spaced (marks : List (Option Point)) : Text := .char '(' :: marks.map (·.getD (.char ' '))

theorem bare_concat_some (marks : List (Option Point)) (c : Point) :
    bare marks ++ [c] = bare (marks ++ [some c]) := by
  simp [bare, List.reduceOption_append]

theorem bare_concat_none (marks : List (Option Point)) : bare marks = bare (marks ++ [none]) := by
  simp [bare, List.reduceOption_append]

theorem spaced_concat (marks : List (Option Point)) (mark : Option Point) :
    spaced marks ++ [mark.getD (.char ' ')] = spaced (marks ++ [mark]) := by
  simp [spaced]

/-- A piece and the one that comes for it from the line with spaces: both are the same, or both are
groups that differ by their marks. -/
structure Piece.Flattens (p q : Piece) : Prop where
  column_eq : q.column = p.column
  text_eq : q.text = p.text ∨ ∃ marks : List (Option Point),
    p.text.head? = some (.char '(') ∧ q.text.head? = some (.char '(') ∧
    Text.words (Token.groupBody p.text) = Text.words marks.reduceOption ∧
    Text.words (Token.groupBody q.text) = Text.words (marks.map (·.getD (.char ' ')))

theorem Piece.Flattens.refl (p : Piece) : p.Flattens p := ⟨rfl, .inl rfl⟩

/-- What has been read of a piece of a line, and of the line with spaces. Outside of groups it is
the same. In a group a mark stands for each parenthesis inside it, and no parenthesis that ends the
group has been read, so that what is left open at the end of the line is not taken for closed. -/
inductive Within : Nat → Text → Text → Prop
  | outside (current : Text) : Within 0 current current
  | inside (depth : Nat) (marks : List (Option Point))
      (hmarks : ∀ p, some p ∈ marks → p ≠ .char ')') :
      Within (depth + 1) (bare marks) (spaced marks)

/-- A group that is not closed loses the blanks at its end only. -/
theorem words_groupBody_strip {s : Text} (hs : ∀ p ∈ s, p ≠ .char ')') :
    Text.words (Token.groupBody (Text.strip (.char '(' :: s))) = Text.words s := by
  rw [Text.strip, Text.trim_cons (by decide), Token.groupBody, if_neg, List.tail_cons,
    Text.words_trimEnd]
  intro hlast
  rcases List.mem_cons.mp (List.mem_of_getLast? hlast) with h | h
  · exact absurd h (by decide)
  · have hdrop := (List.dropWhile_sublist _).mem (List.mem_reverse.mp h)
    exact hs _ (List.mem_reverse.mp hdrop) rfl

/-- A group that is not closed runs to the end of its line, with marks or without. -/
theorem flush_group {marks : List (Option Point)} (hmarks : ∀ p, some p ∈ marks → p ≠ .char ')')
    (start : Nat) : List.Forall₂ Piece.Flattens (flush (bare marks) start)
      (flush (spaced marks) start) := by
  have hhead (s : Text) : (Text.strip (.char '(' :: s)).head? = some (.char '(') := by
    rw [Text.strip, Text.trim_cons (by decide)]
    rfl
  have hflush (s : Text) :
      flush (.char '(' :: s) start = [⟨Text.strip (.char '(' :: s), start⟩] := by
    rw [flush, if_neg]
    intro h
    exact absurd (hhead s) (by rw [h]; simp)
  rw [bare, spaced, hflush, hflush]
  refine .cons ⟨rfl, .inr ⟨marks, hhead _, hhead _, ?_, ?_⟩⟩ .nil
  · refine words_groupBody_strip fun p hp => ?_
    exact hmarks p (List.reduceOption_mem_iff.mp hp)
  · refine words_groupBody_strip fun p hp => ?_
    obtain ⟨mark, hmark, rfl⟩ := List.mem_map.mp hp
    cases mark with
    | none => decide
    | some p => exact hmarks p hmark

/-- Both lines fall into the same pieces, up to the marks in groups. -/
theorem piecesFrom_unnest (column start : Nat) {depth : Nat} {current current' : Text}
    (h : Within depth current current') (s : Text) :
    List.Forall₂ Piece.Flattens (piecesFrom column start depth current s)
      (piecesFrom column start (min depth 1) current' (unnestFrom depth s)) := by
  have same (ps : List Piece) : List.Forall₂ Piece.Flattens ps ps :=
    List.forall₂_same.mpr fun p _ => Piece.Flattens.refl p
  -- The line with spaces has one group open at most, however deep the other one is
  induction s generalizing column start depth current current' with
  | nil =>
    cases h with
    | outside => exact same _
    | inside depth marks hmarks => exact flush_group hmarks start
  | cons c s ih =>
    cases h with
    | outside current =>
      by_cases hopen : c = .char '('
      -- A group begins, without marks so far
      · have hfirst : (↑"(" : Text) = bare [] ∧ (↑"(" : Text) = spaced [] := by decide
        have hin := ih (column + 1) column (.inside 0 [] (by simp))
        rw [← hfirst.1, ← hfirst.2] at hin
        simpa [piecesFrom, unnestFrom, hopen] using List.rel_append (same (flush current start)) hin
      · by_cases hblank : Text.isBlank c = true
        · have hout := ih (column + 1) start (.outside [])
          simpa [piecesFrom, unnestFrom, hopen, hblank] using
            List.rel_append (same (flush current start)) hout
        · have hout := ih (column + 1) (if current = [] then column else start)
            (.outside (current ++ [c]))
          simpa [piecesFrom, unnestFrom, hopen, hblank] using hout
    | inside depth marks hmarks =>
      have hbare : bare marks ≠ [] := List.cons_ne_nil _ _
      have hspaced : spaced marks ≠ [] := List.cons_ne_nil _ _
      have hspace : Point.char ' ' ≠ .char '(' ∧ Point.char ' ' ≠ .char ')' := by decide
      by_cases hopen : c = .char '('
      -- A parenthesis inside a group: a mark, which is dropped or a space
      · have hin := ih (column + 1) start (.inside (depth + 1) (marks ++ [none]) (by simpa))
        rw [← bare_concat_none, ← spaced_concat] at hin
        simpa [piecesFrom, unnestFrom, hopen, hspace, hspaced] using hin
      · by_cases hclose : c = .char ')'
        · cases depth with
          | zero =>
            -- The group ends, on both lines
            have hout := ih (column + 1) start (.outside [])
            have hgroup : Piece.Flattens ⟨bare marks ++ ")", start⟩ ⟨spaced marks ++ ")", start⟩ :=
              ⟨rfl, .inr ⟨marks, rfl, rfl, congrArg Text.words (groupBody_closed _),
                congrArg Text.words (groupBody_closed _)⟩⟩
            simpa [piecesFrom, unnestFrom, hclose] using List.Forall₂.cons hgroup hout
          | succ depth =>
            have hin := ih (column + 1) start (.inside depth (marks ++ [none]) (by simpa))
            rw [← bare_concat_none, ← spaced_concat] at hin
            simpa [piecesFrom, unnestFrom, hclose, hspace, hspaced] using hin
        · have hin := ih (column + 1) start (.inside depth (marks ++ [some c]) (by
            simpa [or_imp, forall_and] using ⟨hmarks, hclose⟩))
          rw [← bare_concat_some, ← spaced_concat] at hin
          simpa [piecesFrom, unnestFrom, hopen, hclose, hbare, hspaced] using hin

/-! ## §3 Both lines, token by token -/

/-- The kinds of tokens. -/
inductive Token.Kind where
  | rest | note | run | chord | unknown
deriving DecidableEq

/-- The kind of a token. -/
def Token.kind (t : Token) : Token.Kind :=
  match t.shape with
  | .rest => .rest
  | .note _ => .note
  | .run _ => .run
  | .chord _ _ => .chord
  | .unknown => .unknown

/-- Two chords, the first of which has for its members those of the second put together. -/
structure Token.Glues (t u : Token) (glued : List (List Text)) : Prop where
  ne_nil : ∀ ws ∈ glued, ws ≠ []
  words_put : Text.words (Token.groupBody t.text) = glued.map List.flatten
  words_apart : Text.words (Token.groupBody u.text) = glued.flatten
  labels_put : t.labels = glued.flatMap fun ws => memberLabels ws.flatten
  labels_apart : u.labels = glued.flatMap fun ws => ws.flatMap memberLabels
  /-- A member has the labels of its parts just if all parts have labels or none has. -/
  member_iff : ∀ ws ∈ glued,
    (memberLabels ws.flatten = ws.flatMap memberLabels ↔ KeepsLabels ws)
  labels_eq : (∀ ws ∈ glued, KeepsLabels ws) → t.labels = u.labels

/-- A token, and the one that comes for it from the line with spaces. -/
structure Token.Flattens (t u : Token) : Prop where
  line_eq : u.line = t.line
  column_eq : u.column = t.column
  kind_eq : u.kind = t.kind
  width_eq : u.width = t.width
  members : u = t ∨ t.kind = .chord ∧ ∃ glued, Token.Glues t u glued

theorem glues_of_marks {t u : Token} {marks : List (Option Point)}
    (ht : t.labels = (Text.words (Token.groupBody t.text)).flatMap memberLabels)
    (hu : u.labels = (Text.words (Token.groupBody u.text)).flatMap memberLabels)
    (hput : Text.words (Token.groupBody t.text) = Text.words marks.reduceOption)
    (hapart : Text.words (Token.groupBody u.text) = Text.words (marks.map (·.getD (.char ' ')))) :
    ∃ glued, Token.Glues t u glued := by
  obtain ⟨glued, hne, hflat, hrows⟩ := Text.words_marks marks
  rw [hflat] at hput
  rw [hrows] at hapart
  have hwords (ws : List Text) (hws : ws ∈ glued) (w : Text) (hw : w ∈ ws) : Text.IsWord w :=
    Text.isWord_of_mem_words (hapart ▸ List.mem_flatten.mpr ⟨ws, hws, hw⟩ :
      w ∈ Text.words (Token.groupBody u.text))
  have hiff (ws : List Text) (hws : ws ∈ glued) :=
    memberLabels_flatten_iff (hne ws hws) (hwords ws hws)
  have hleft : t.labels = glued.flatMap fun ws => memberLabels ws.flatten := by
    rw [ht, hput, List.flatMap_map]
  have hright : u.labels = glued.flatMap fun ws => ws.flatMap memberLabels := by
    rw [hu, hapart, ← List.flatMap_id, List.flatMap_assoc]
    rfl
  refine ⟨glued, hne, hput, hapart, hleft, hright, hiff, fun hkeeps => ?_⟩
  rw [hleft, hright]
  exact List.flatMap_congr fun ws hws => (hiff ws hws).mpr (hkeeps ws hws)

/-- Pieces that differ by their marks are tokens of one kind. -/
theorem classify_flattens (n : Nat) {p q : Piece} (h : p.Flattens q) :
    (classify p.text n p.column).Flattens (classify q.text n q.column) := by
  obtain ⟨hcolumn, htext | ⟨marks, hp, hq, hput, hapart⟩⟩ := h
  · rw [hcolumn, htext]
    exact ⟨rfl, rfl, rfl, rfl, .inl rfl⟩
  · have hshape := shapeOf_group hp
    have hshape' := shapeOf_group hq
    refine ⟨rfl, by simp [classify, hcolumn], ?_, ?_, .inr ⟨?_, ?_⟩⟩
    · simp only [Token.kind, classify, hshape, hshape']
    · simp only [Token.width, classify, hshape, hshape']
    · simp only [Token.kind, classify, hshape]
    · refine glues_of_marks ?_ ?_ hput hapart
      · simp only [Token.labels, classify, hshape]
      · simp only [Token.labels, classify, hshape']

/-- A line and the one with spaces for the parentheses inside its groups have the same tokens, but
for the labels of chords: these are the same for each member of which all parts have labels or none
has, and for no other. Both take the same number of steps. -/
theorem nested_groups_flatten (n : Nat) (line : Text) :
    List.Forall₂ Token.Flattens (lineTokens n line) (lineTokens n (unnest line)) ∧
      widthOf (lineTokens n (unnest line)) = widthOf (lineTokens n line) := by
  have htokens : List.Forall₂ Token.Flattens (lineTokens n line) (lineTokens n (unnest line)) := by
    rw [lineTokens, lineTokens, List.forall₂_map_left_iff, List.forall₂_map_right_iff]
    exact (piecesFrom_unnest 1 1 (.outside []) line).imp fun p q h => classify_flattens n h
  refine ⟨htokens, ?_⟩
  rw [widthOf, widthOf]
  have hwidths : (lineTokens n (unnest line)).map Token.width =
      (lineTokens n line).map Token.width := by
    rw [← List.forall₂_eq_eq_eq, List.forall₂_map_left_iff, List.forall₂_map_right_iff]
    exact (htokens.imp fun t u h => h.width_eq).flip
  rw [hwidths]

/-- A rest in parentheses inside a chord spoils the labels on its two sides, where a rest between
spaces adds nothing. -/
theorem nested_rest_spoils_labels : ¬ ∀ (n : Nat) (line : Text),
    (lineTokens n line).map Token.labels = (lineTokens n (unnest line)).map Token.labels :=
  fun h => absurd (h 1 "(1(-)3)") (by decide)

end Lamella.Tab
