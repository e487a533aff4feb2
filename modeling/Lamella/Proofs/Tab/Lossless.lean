import Lamella.Proofs.Tab.Measures
import Lamella.Proofs.Tab.Nested

/-!
# Pieces lose nothing

Cutting a line into pieces takes away blanks and parentheses, and nothing else: what is left of the
line without them is what is left of its pieces, in their order. Every piece stands in the line at
the column that it is given, further to the right than the piece before it, and is either a group,
with no parenthesis inside, or a word that opens none.

A line is read character by character. What one character does to the piece at hand is said once, by
`Scan.step`, with everything that it preserves; the pieces of a whole line follow by induction.

## Main definitions

- `Tab.essence`: a text without its blanks and parentheses.
- `Tab.Piece.Stands`: a piece that stands in a line.
- `Tab.Scan`, `Tab.Scan.step`: what is at hand while a line is read, and one character more.

## Main statements

- `Tab.Scan.Fits.step`: what one character preserves.
- `Tab.Scan.Fits.cuts`: what the rest of a line preserves.
- `Tab.pieces_keep_line`: the pieces of a line.
-/

namespace Lamella.Tab

/-! ## §1 What is left of a text -/

instance : DecidablePred IsPlain := fun p =>
  inferInstanceAs (Decidable (Text.isBlank p = false ∧ p ≠ .char '(' ∧ p ≠ .char ')'))

/-- A text without its blanks and parentheses. -/
def essence (s : Text) : Text := s.filter (IsPlain ·)

@[simp] theorem essence_append (s t : Text) : essence (s ++ t) = essence s ++ essence t :=
  List.filter_append s t

theorem essence_cons (c : Point) (s : Text) : essence (c :: s) = essence [c] ++ essence s :=
  essence_append [c] s

theorem essence_of_not_isPlain {c : Point} (hc : ¬ IsPlain c) : essence [c] = [] := by
  simp [essence, hc]

@[simp] theorem essence_nil : essence [] = [] := rfl

@[simp] theorem essence_opening (s : Text) : essence (.char '(' :: s) = essence s := by
  simp [essence, IsPlain]

@[simp] theorem essence_closing : essence [.char ')'] = [] :=
  essence_of_not_isPlain fun h => h.2.2 rfl

theorem essence_of_isBlank {c : Point} (hc : Text.isBlank c = true) : essence [c] = [] := by
  apply essence_of_not_isPlain
  intro h
  exact absurd hc (by simp [h.1])

/-- Blanks at the end of a text are no part of what is left of it. -/
theorem essence_trimEnd (s : Text) : essence (Text.trimEnd Text.isBlank s) = essence s := by
  induction s using List.reverseRecOn with
  | nil => rfl
  | append_singleton s c ih =>
    rw [Text.trimEnd, List.reverse_append, List.reverse_singleton, List.singleton_append]
    by_cases hc : Text.isBlank c = true
    · rw [List.dropWhile_cons_of_pos hc, essence_append, essence_of_isBlank hc, List.append_nil]
      exact ih
    · rw [List.dropWhile_cons_of_neg hc]
      simp

/-! ## §2 Pieces that stand in a line -/

/-- A text without blanks that opens no group. -/
def OpensNone (t : Text) : Prop := ∀ p ∈ t, Text.isBlank p = false ∧ p ≠ .char '('

/-- A text without parentheses. -/
def IsFlat (t : Text) : Prop := ∀ p ∈ t, p ≠ .char '(' ∧ p ≠ .char ')'

/-- A group, closed or not, without parentheses inside. -/
def IsGroup (t : Text) : Prop :=
  ∃ body, IsFlat body ∧ (t = .char '(' :: body ∨ t = .char '(' :: body ++ [.char ')'])

/-- A text begins in a line at a column; columns are counted from one. -/
def BeginsAt (row : Text) (column : Nat) (t : Text) : Prop :=
  1 ≤ column ∧ row[column - 1]? = t.head?

/-- A piece that stands in a line: its column is that of its first character, and it is a group or a
word that opens none. -/
structure Piece.Stands (row : Text) (p : Piece) : Prop where
  text_ne : p.text ≠ []
  beginsAt : BeginsAt row p.column p.text
  group_or_word : IsGroup p.text ∨ OpensNone p.text

theorem IsFlat.concat {t : Text} (ht : IsFlat t) {c : Point} (hopen : c ≠ .char '(')
    (hclose : c ≠ .char ')') : IsFlat (t ++ [c]) := by
  intro p hp
  rcases List.mem_append.mp hp with hp | hp
  · exact ht p hp
  · rw [List.mem_singleton.mp hp]
    exact ⟨hopen, hclose⟩

theorem IsFlat.trimEnd {t : Text} (ht : IsFlat t) : IsFlat (Text.trimEnd Text.isBlank t) := by
  intro p hp
  have hdrop := (List.dropWhile_sublist _).mem (List.mem_reverse.mp hp)
  exact ht p (List.mem_reverse.mp hdrop)

theorem OpensNone.concat {t : Text} (ht : OpensNone t) {c : Point} (hblank : Text.isBlank c ≠ true)
    (hopen : c ≠ .char '(') : OpensNone (t ++ [c]) := by
  intro p hp
  rcases List.mem_append.mp hp with hp | hp
  · exact ht p hp
  · rw [List.mem_singleton.mp hp]
    exact ⟨eq_false_of_ne_true hblank, hopen⟩

theorem BeginsAt.append {row t : Text} {column : Nat} (h : BeginsAt row column t) (hne : t ≠ [])
    (u : Text) : BeginsAt row column (t ++ u) := by
  refine ⟨h.1, ?_⟩
  rw [h.2, List.head?_append_of_ne_nil _ hne]

/-- A word that opens no group is one piece, unless nothing has been read of it. -/
theorem flush_word {t : Text} (ht : OpensNone t) (start : Nat) :
    flush t start = if t = [] then [] else [⟨t, start⟩] := by
  rw [flush, Text.strip_word fun p hp => (ht p hp).1]

/-- A group that is not closed loses the blanks at its end. -/
theorem flush_open (body : Text) (start : Nat) :
    flush (.char '(' :: body) start =
      [⟨.char '(' :: Text.trimEnd Text.isBlank body, start⟩] := by
  rw [flush, Text.strip, Text.trim_cons (by decide)]
  simp

/-! ## §3 One character more -/

/-- What is at hand while a line is read: where the piece begins, how many groups are open, and what
has been read of the piece. -/
structure Scan where
  start : Nat
  depth : Nat
  current : Text

namespace Scan

/-- One character more, which stands at a column: the pieces that it ends, and what is at hand after
it. -/
def step (a : Scan) (column : Nat) (c : Point) : List Piece × Scan :=
  if c = .char '(' then
    if a.depth = 0 then (flush a.current a.start, ⟨column, 1, [.char '(']⟩)
    else ([], ⟨a.start, a.depth + 1, a.current⟩)
  else if c = .char ')' ∧ a.depth ≠ 0 then
    if a.depth = 1 then ([⟨a.current ++ [.char ')'], a.start⟩], ⟨a.start, 0, []⟩)
    else ([], ⟨a.start, a.depth - 1, a.current⟩)
  else if Text.isBlank c ∧ a.depth = 0 then (flush a.current a.start, ⟨a.start, 0, []⟩)
  else ([], ⟨if a.current = [] then column else a.start, a.depth, a.current ++ [c]⟩)

/-- The pieces of the rest of a line, with what is at hand. -/
def pieces (a : Scan) (column : Nat) (s : Text) : List Piece :=
  piecesFrom column a.start a.depth a.current s

theorem pieces_cons (a : Scan) (column : Nat) (c : Point) (s : Text) :
    a.pieces column (c :: s) = (a.step column c).1 ++ (a.step column c).2.pieces (column + 1) s := by
  have hopen : (↑"(" : Text) = [.char '('] := by decide
  have hclose : (↑")" : Text) = [.char ')'] := by decide
  unfold pieces step
  rw [piecesFrom, hopen, hclose]
  split_ifs <;> rfl

/-- Where the piece at hand begins; if there is none, the next one begins here at the earliest. -/
def first (a : Scan) (column : Nat) : Nat := if a.current = [] then column else a.start

/-- What is at hand fits the line that is read: the piece begins where it is said to. Outside of
groups it is a word, and in a group nothing has been kept of the parentheses but the first. -/
inductive Fits (row : Text) (column : Nat) : Scan → Prop
  | outside (start : Nat) (word : Text) (hword : OpensNone word)
      (hplace : word ≠ [] → start < column ∧ BeginsAt row start word) :
      Fits row column ⟨start, 0, word⟩
  | inside (start depth : Nat) (body : Text) (hbody : IsFlat body) (hlt : start < column)
      (hplace : BeginsAt row start (.char '(' :: body)) :
      Fits row column ⟨start, depth + 1, .char '(' :: body⟩

/-- What a character preserves that turns `a` into `b` and ends the pieces `ended`. -/
structure Steps (row : Text) (column : Nat) (a : Scan) (c : Point) (ended : List Piece) (b : Scan) :
    Prop where
  fits : b.Fits row (column + 1)
  stands : ∀ p ∈ ended, p.Stands row
  essence_eq : essence (ended.flatMap Piece.text) ++ essence b.current =
    essence a.current ++ essence [c]
  /-- Where the pieces that end here lie between what was at hand and what is. -/
  columns : (ended = [] ∧ a.first column ≤ b.first (column + 1)) ∨
    ∃ p, ended = [p] ∧ a.first column = p.column ∧ p.column < b.first (column + 1)

variable {row : Text} {column : Nat}

/-- A word ends before what comes after it, at a blank or at the parenthesis of a group. -/
theorem steps_of_flush {start : Nat} {word : Text} (hword : OpensNone word)
    (hplace : word ≠ [] → start < column ∧ BeginsAt row start word) {c : Point}
    (hc : essence [c] = []) {b : Scan} (hfits : b.Fits row (column + 1))
    (hcurrent : essence b.current = []) (hfirst : column ≤ b.first (column + 1)) :
    Steps row column ⟨start, 0, word⟩ c (flush word start) b := by
  rw [flush_word hword]
  by_cases hne : word = []
  · subst hne
    rw [if_pos rfl]
    exact ⟨hfits, by simp, by simp [hc, hcurrent], .inl ⟨rfl, by simpa [first] using hfirst⟩⟩
  · rw [if_neg hne]
    obtain ⟨hlt, hbegins⟩ := hplace hne
    refine ⟨hfits, ?_, by simp [hc, hcurrent], .inr ⟨_, rfl, by simp [first, hne], ?_⟩⟩
    · intro p hp
      rw [List.mem_singleton.mp hp]
      exact ⟨hne, hbegins, .inr hword⟩
    · exact lt_of_lt_of_le hlt hfirst

/-- What is at hand outside of groups. -/
theorem steps_outside {start : Nat} {word : Text} (hword : OpensNone word)
    (hplace : word ≠ [] → start < column ∧ BeginsAt row start word) (hcolumn : 1 ≤ column)
    {c : Point} (hc : row[column - 1]? = some c) :
    Steps row column ⟨start, 0, word⟩ c (step ⟨start, 0, word⟩ column c).1
      (step ⟨start, 0, word⟩ column c).2 := by
  by_cases hopen : c = .char '('
  · -- A group begins at its parenthesis, and ends the word before it
    have hgroup : Fits row (column + 1) ⟨column, 1, [.char '(']⟩ :=
      .inside column 0 [] (by simp [IsFlat]) (Nat.lt_succ_self column)
        ⟨hcolumn, by rw [hc, hopen]; rfl⟩
    simp only [step, hopen, if_true]
    exact steps_of_flush hword hplace (by simp) hgroup (by simp) (by simp [first])
  · by_cases hblank : Text.isBlank c = true
    · have hnone : Fits row (column + 1) ⟨start, 0, []⟩ :=
        .outside start [] (by simp [OpensNone]) (by simp)
      simp only [step, hopen, hblank, if_false, if_true, ne_eq, not_true, and_false, and_self]
      exact steps_of_flush hword hplace (essence_of_isBlank hblank) hnone (by simp)
        (by simp [first])
    · -- The word grows, or begins here
      simp only [step, hopen, hblank, if_false, ne_eq, not_true, and_false, false_and,
        Bool.false_eq_true]
      refine ⟨.outside _ _ (hword.concat hblank hopen) fun _ => ?_, by simp,
        by simp, .inl ⟨rfl, ?_⟩⟩
      · by_cases hne : word = []
        · subst hne
          exact ⟨by simp, hcolumn, by simpa using hc⟩
        · obtain ⟨hlt, hbegins⟩ := hplace hne
          rw [if_neg hne]
          exact ⟨Nat.lt_succ_of_lt hlt, hbegins.append hne [c]⟩
      · by_cases hne : word = [] <;> simp [first, hne]

/-- What is at hand inside a group. -/
theorem steps_inside {start depth : Nat} {body : Text} (hbody : IsFlat body) (hlt : start < column)
    (hplace : BeginsAt row start (.char '(' :: body)) (c : Point) :
    Steps row column ⟨start, depth + 1, .char '(' :: body⟩ c
      (step ⟨start, depth + 1, .char '(' :: body⟩ column c).1
      (step ⟨start, depth + 1, .char '(' :: body⟩ column c).2 := by
  -- A parenthesis that is dropped leaves everything but the depth as it is
  have hdropped (depth' : Nat) {p : Point} (hp : essence [p] = []) :
      Steps row column ⟨start, depth + 1, .char '(' :: body⟩ p []
        ⟨start, depth' + 1, .char '(' :: body⟩ :=
    ⟨.inside start depth' body hbody (Nat.lt_succ_of_lt hlt) hplace, by simp, by simp [hp],
      .inl ⟨rfl, by simp [first]⟩⟩
  by_cases hopen : c = .char '('
  · simp only [step, hopen, if_true, Nat.succ_ne_zero, if_false]
    exact hdropped (depth + 1) (essence_opening [])
  · by_cases hclose : c = .char ')'
    · cases depth with
      | zero =>
        -- The parenthesis that closes the outermost group ends it, and is kept
        have hstands : Piece.Stands row ⟨.char '(' :: body ++ [.char ')'], start⟩ :=
          ⟨by simp, hplace.append (List.cons_ne_nil _ _) _, .inl ⟨body, hbody, .inr rfl⟩⟩
        have hnone : Fits row (column + 1) ⟨start, 0, []⟩ :=
          .outside start [] (by simp [OpensNone]) (by simp)
        simp only [step, hclose, Point.char.injEq, Char.reduceEq, if_true, if_false, zero_add,
          ne_eq, one_ne_zero, not_false_eq_true, and_self]
        refine ⟨hnone, by simpa using hstands, by simp, ?_⟩
        exact .inr ⟨_, rfl, by simp [first], by simpa [first] using Nat.lt_succ_of_lt hlt⟩
      | succ depth =>
        simp only [step, hclose, Point.char.injEq, Char.reduceEq, if_true, if_false, ne_eq,
          Nat.succ_ne_zero, not_false_eq_true, and_self, Nat.succ.injEq, Nat.add_one_sub_one]
        exact hdropped depth essence_closing
    · -- Anything else, a blank too, is kept in the group
      simp only [step, hopen, hclose, if_false, false_and, Nat.succ_ne_zero, and_false,
        List.cons_ne_nil]
      refine ⟨.inside start depth (body ++ [c]) (hbody.concat hopen hclose)
        (Nat.lt_succ_of_lt hlt) (hplace.append (List.cons_ne_nil _ _) [c]), by simp, ?_,
        .inl ⟨rfl, by simp [first]⟩⟩
      simp

/-- **One character more** leaves what is at hand fitting, and loses nothing. -/
theorem Fits.step {a : Scan} (ha : a.Fits row column) (hcolumn : 1 ≤ column) {c : Point}
    (hc : row[column - 1]? = some c) :
    Steps row column a c (a.step column c).1 (a.step column c).2 := by
  cases ha with
  | outside start word hword hplace => exact steps_outside hword hplace hcolumn hc
  | inside start depth body hbody hlt hplace => exact steps_inside hbody hlt hplace c

/-! ## §4 The rest of a line -/

/-- The pieces that the rest of a line is cut into, with what is at hand. -/
structure Cuts (row : Text) (column : Nat) (a : Scan) (s : Text) (ps : List Piece) : Prop where
  stands : ∀ p ∈ ps, p.Stands row
  essence_eq : essence (ps.flatMap Piece.text) = essence a.current ++ essence s
  ordered : ps.Pairwise fun p q => p.column < q.column
  first_le : ∀ p ∈ ps, a.first column ≤ p.column

/-- What is at hand at the end of a line is a piece, if it is anything. -/
theorem Fits.cuts_nil {a : Scan} (ha : a.Fits row column) :
    Cuts row column a [] (flush a.current a.start) := by
  cases ha with
  | outside start word hword hplace =>
    rw [flush_word hword]
    by_cases hne : word = []
    · subst hne
      exact ⟨by simp, by simp, by simp, by simp⟩
    · have hstands : Piece.Stands row ⟨word, start⟩ := ⟨hne, (hplace hne).2, .inr hword⟩
      simp only [hne, if_false]
      exact ⟨by simpa using hstands, by simp, by simp, by simp [first, hne]⟩
  | inside start depth body hbody hlt hplace =>
    rw [flush_open]
    have hstands : Piece.Stands row ⟨.char '(' :: Text.trimEnd Text.isBlank body, start⟩ :=
      ⟨by simp, hplace, .inl ⟨_, hbody.trimEnd, .inl rfl⟩⟩
    refine ⟨by simpa using hstands, ?_, by simp, by simp [first]⟩
    simp [essence_trimEnd]

/-- **The rest of a line** falls into pieces that stand in it, one after another, and lose nothing. -/
theorem Fits.cuts {a : Scan} (ha : a.Fits row column) {s : Text} (done : Text)
    (hline : row = done ++ s) (hcolumn : column = done.length + 1) :
    Cuts row column a s (a.pieces column s) := by
  induction s generalizing a column done with
  | nil => exact ha.cuts_nil
  | cons c s ih =>
    have hc : row[column - 1]? = some c := by simp [hline, hcolumn]
    have hstep := ha.step (by omega) hc
    have hrest := ih hstep.fits (done ++ [c]) (by simp [hline]) (by simp [hcolumn])
    rw [pieces_cons]
    refine ⟨?_, ?_, ?_, ?_⟩
    · intro p hp
      rcases List.mem_append.mp hp with hp | hp
      · exact hstep.stands p hp
      · exact hrest.stands p hp
    · rw [List.flatMap_append, essence_append, hrest.essence_eq, ← List.append_assoc,
        hstep.essence_eq, List.append_assoc, ← essence_cons]
    · -- What ends here lies before all that comes later
      rcases hstep.columns with ⟨hnone, -⟩ | ⟨p, hone, -, hlt⟩
      · rw [hnone]
        exact hrest.ordered
      · rw [hone]
        exact List.pairwise_cons.mpr ⟨fun q hq => hlt.trans_le (hrest.first_le q hq), hrest.ordered⟩
    · rcases hstep.columns with ⟨hnone, hle⟩ | ⟨p, hone, heq, hlt⟩
      · rw [hnone]
        exact fun q hq => hle.trans (hrest.first_le q hq)
      · rw [hone]
        refine List.forall_mem_cons.mpr ⟨heq.le, fun q hq => ?_⟩
        exact heq.le.trans (hlt.le.trans (hrest.first_le q hq))

end Scan

/-! ## §5 The pieces of a line -/

/-- **The pieces of a line lose nothing of it and add nothing to it** but blanks and parentheses.
Each of them stands in the line at its column, further to the right than the one before, and is a
group without parentheses inside or a word that opens none. -/
theorem pieces_keep_line (row : Text) :
    essence ((pieces row).flatMap Piece.text) = essence row ∧
    (∀ p ∈ pieces row, p.Stands row) ∧
    (pieces row).Pairwise fun p q => p.column < q.column := by
  have hnone : Scan.Fits row 1 ⟨1, 0, []⟩ :=
    .outside 1 [] (by simp [OpensNone]) (by simp)
  have hcuts := hnone.cuts (s := row) [] rfl rfl
  exact ⟨hcuts.essence_eq, hcuts.stands, hcuts.ordered⟩

example : pieces "1)(3 (5" = [⟨"1)", 1⟩, ⟨"(3 5", 3⟩] := by decide

end Lamella.Tab
