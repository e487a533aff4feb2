import Lamella.Proofs.Tab.Outline
import Lamella.Proofs.Text.Rows

/-!
# Texts that are joined with a line feed

A tablature that follows another one on a line of its own is read as it is by itself, only later
and further below: its keys are struck after all steps of the first one, and what is skipped of it
stands as many lines below as the first one takes. Nothing of the first text is left open: a chord
that is not closed ends with its line, and a carriage return at the end makes one line end together
with the line feed.

## Main definitions

- `Tab.lineCount`: how many lines a text takes that is followed by a line feed.
- `Tab.Skipped.below`: a skipped place so many lines below.

## Main statements

- `Text.lines_append_lines`: the lines of texts that are joined with a line feed.
- `Tab.tokens_joined`: their tokens.
- `Tab.read_joined`: their reading.
-/

namespace Lamella

/-! ## §1 Lines -/

namespace Text

theorem lines_cons_of_end {p : Point} (hp : isLineEnd p = true) {s : Text}
    (hpair : p = .char '\r' → s.head? ≠ some (.char '\n')) : lines (p :: s) = [] :: lines s := by
  rw [lines.eq_def (p :: s)]
  split
  · exact absurd ‹_› (by simp)
  · rename_i heq
    cases heq
    exact absurd rfl (hpair rfl)
  · rename_i heq
    cases heq
    simp [hp]

theorem consFirst_append (p : Point) {ls : List Text} (hls : ls ≠ []) (ms : List Text) :
    consFirst p (ls ++ ms) = consFirst p ls ++ ms := by
  obtain ⟨first, others, rfl⟩ := List.exists_cons_of_ne_nil hls
  rfl

/-- A line feed that is added to a text makes one line end with a carriage return only at the very
end of the text. -/
theorem head?_append_ne {c : Point} {rest : Text}
    (hpair : ∀ others, c = .char '\r' → rest = .char '\n' :: others → False)
    (hreturn : ¬ (rest = [] ∧ c = .char '\r')) (t : Text) :
    c = .char '\r' → (rest ++ .char '\n' :: t).head? ≠ some (.char '\n') := by
  rintro rfl
  cases rest with
  | nil => exact absurd ⟨rfl, rfl⟩ hreturn
  | cons d rest =>
    intro hd
    exact hpair rest rfl (by rw [Option.some.inj hd])

/-- A text whose last line is ended cuts off its lines from what follows it. -/
theorem lines_append_lines (s t : Text) :
    lines (s ++ .char '\n' :: t) = lines (s ++ [.char '\n']) ++ lines t := by
  have hempty : lines [] = [] := rfl
  fun_induction lines s with
  | case1 =>
    rw [List.nil_append, List.nil_append, lines_feed, lines_feed, hempty]
    rfl
  | case2 rest ih => simpa [lines] using ih
  | case3 c rest hpair hend ih =>
    -- A carriage return at the very end makes one line end together with the line feed
    by_cases hreturn : rest = [] ∧ c = .char '\r'
    · obtain ⟨rfl, rfl⟩ := hreturn
      simp [lines]
    · rw [List.cons_append, List.cons_append,
        lines_cons_of_end hend (head?_append_ne hpair hreturn t),
        lines_cons_of_end hend (head?_append_ne hpair hreturn []), ih, List.cons_append]
  | case4 c rest hpair hend ih =>
    have hne : lines (rest ++ [.char '\n']) ≠ [] := lines_ne_nil (by simp)
    rw [Bool.not_eq_true] at hend
    rw [List.cons_append, List.cons_append, lines_cons_of_not_end hend, lines_cons_of_not_end hend,
      ih, consFirst_append c hne]

/-- A line feed at the end of a text ends its last line, or adds a line with nothing on it. -/
theorem lines_concat_feed (s : Text) :
    lines (s ++ [.char '\n']) = lines s ∨ lines (s ++ [.char '\n']) = lines s ++ [[]] := by
  have hempty : lines [] = [] := rfl
  fun_induction lines s with
  | case1 => exact .inr (lines_feed [])
  | case2 rest ih =>
    refine ih.imp (fun h => ?_) fun h => ?_
    · simp [lines, h]
    · simp [lines, h]
  | case3 c rest hpair hend ih =>
    by_cases hreturn : rest = [] ∧ c = .char '\r'
    · obtain ⟨rfl, rfl⟩ := hreturn
      exact .inl (by simp [lines])
    · have hsingle : c = .char '\r' → (rest ++ [Point.char '\n']).head? ≠ some (.char '\n') :=
        head?_append_ne hpair hreturn []
      rw [List.cons_append, lines_cons_of_end hend hsingle]
      exact ih.imp (fun h => by rw [h]) fun h => by rw [h, List.cons_append]
  | case4 c rest hpair hend ih =>
    rw [Bool.not_eq_true] at hend
    rw [List.cons_append, lines_cons_of_not_end hend]
    by_cases hrest : rest = []
    · rw [hrest, List.nil_append, lines_feed]
      exact .inl rfl
    · refine ih.imp (fun h => by rw [h]) fun h => ?_
      rw [h, consFirst_append c (lines_ne_nil hrest)]

end Text

namespace Tab

/-! ## §2 Tokens and skipped places further below -/

/-- How many lines a text takes that is followed by a line feed. -/
def lineCount (s : Text) : Nat := (Text.lines (s ++ "\n")).length

/-- A token so many lines below. -/
def Token.below (count : Nat) (t : Token) : Token := { t with line := t.line + count }

/-- A skipped place so many lines below. -/
def Skipped.below (count : Nat) (k : Skipped) : Skipped := { k with line := k.line + count }

theorem tokensFrom_append (line : Nat) (ls ms : List Text) :
    tokensFrom line (ls ++ ms) = tokensFrom line ls ++ tokensFrom (line + ls.length) ms := by
  induction ls generalizing line with
  | nil => rfl
  | cons s ls ih =>
    have hline : line + 1 + ls.length = line + (s :: ls).length := by
      rw [List.length_cons]
      omega
    rw [List.cons_append, tokensFrom, ih, hline, tokensFrom, List.append_assoc]

/-- Lines further below have the same tokens, further below. -/
theorem tokensFrom_add (count line : Nat) (ls : List Text) :
    tokensFrom (line + count) ls = (tokensFrom line ls).map (Token.below count) := by
  induction ls generalizing line with
  | nil => rfl
  | cons s ls ih =>
    have hline : lineTokens (line + count) s = (lineTokens line s).map (Token.below count) := by
      -- A token only keeps its line: its shape is that of its text
      rw [lineTokens, lineTokens, List.map_map]
      refine List.map_congr_left fun p _ => ?_
      simp [classify, Token.below]
    rw [tokensFrom, tokensFrom, List.map_append, hline, Nat.add_right_comm, ih]

theorem tokensFrom_blank (line : Nat) : tokensFrom line [[]] = [] := by
  simp [tokensFrom, lineTokens, pieces, piecesFrom, flush, Text.strip, Text.trim]

/-- **The tokens of texts that are joined with a line feed**: those of the first one, and below them
those of the second one. -/
theorem tokens_joined (s t : Text) :
    tokens (s ++ "\n" ++ t) = tokens s ++ (tokens t).map (.below (lineCount s)) := by
  have hfeed : (↑"\n" : Text) = [.char '\n'] := by decide
  -- The line feed ends the last line of the first text, or it adds a line without tokens
  have hfirst : tokensFrom 1 (Text.lines (s ++ [.char '\n'])) = tokens s := by
    rcases Text.lines_concat_feed s with h | h
    · rw [h, tokens]
    · rw [h, tokensFrom_append, tokensFrom_blank, List.append_nil, tokens]
  rw [tokens, hfeed, List.append_assoc, List.singleton_append, Text.lines_append_lines,
    tokensFrom_append, hfirst, tokensFrom_add, lineCount, hfeed]
  rfl

/-- Tokens further below fall on the same steps. -/
theorem placesFrom_below (count step : Nat) (ts : List Token) :
    placesFrom step (ts.map (.below count)) = placesFrom step ts := by
  induction ts generalizing step with
  | nil => rfl
  | cons t ts ih =>
    rw [List.map_cons, placesFrom, placesFrom, ih]
    rfl

theorem widthOf_below (count : Nat) (ts : List Token) :
    widthOf (ts.map (.below count)) = widthOf ts := by
  rw [widthOf, widthOf, List.map_map]
  rfl

/-- What is skipped in tokens further below is skipped further below. -/
theorem skippedIn_below (table : List Layout.Address) (count : Nat) (ts : List Token) :
    skippedIn table (ts.map (.below count)) = (skippedIn table ts).map (.below count) := by
  rw [skippedIn, skippedIn, List.flatMap_map, List.map_flatMap]
  refine List.flatMap_congr fun t _ => ?_
  have hlost : (t.below count).lost table = (t.lost table).map (.below count) := by
    rw [Token.lost, Token.lost, List.map_filterMap]
    refine List.filterMap_congr fun entry _ => ?_
    simp only
    split_ifs <;> rfl
  have hrefused : (t.below count).refused = t.refused.map (.below count) := by
    cases hshape : t.shape <;> simp [Token.refused, Token.below, Skipped.below, hshape]
  rw [hlost, hrefused, List.map_append]

/-! ## §3 Reading -/

variable {F R : Type} [Scalar R]

/-- **A text that follows another one on a line of its own is read as it is by itself, only later
and further below.** Whatever numbers times are measured in, the reading of a text is its outline,
struck on the grid, and in exact numbers nothing of it fails: each key comes at the time of its
step. The outline of the joined texts is that of the first one, and after it that of the second one
with its keys as many steps later as the first one takes, and with what is skipped as many lines
below. -/
theorem read_joined (layout : Layout F) (g : Grid R) (exact : Grid Rat) (s t : Text) :
    (∀ text, read layout g text = do
      let notes ← (strikes layout text).mapM g.strike
      return ⟨notes, skips layout text, stepsOf text⟩) ∧
    (∀ text, ∃ notes, read layout exact text = .ok ⟨notes, skips layout text, stepsOf text⟩ ∧
      notes.map (fun n => (n.key, n.time / exact.step)) =
        (strikes layout text).map fun (key, step) => (key, (step : Rat))) ∧
    strikes layout (s ++ "\n" ++ t) = strikes layout s ++
      (strikes layout t).map (fun (key, step) => (key, step + stepsOf s)) ∧
    stepsOf (s ++ "\n" ++ t) = stepsOf s + stepsOf t ∧
    skips layout (s ++ "\n" ++ t) = skips layout s ++
      (skips layout t).map (.below (lineCount s)) := by
  refine ⟨read_outline layout g, fun text => ?_, ?_, ?_, ?_⟩
  · refine ⟨(strikes layout text).map fun place => exact.note place.1 place.2, ?_, ?_⟩
    · rw [read_outline, Except.mapM_eq_map fun place _ => exact.strike_rat place]
      rfl
    · rw [List.map_map]
      refine List.map_congr_left fun place _ => ?_
      exact Prod.ext rfl (mul_div_cancel_right₀ _ exact.step_pos.ne')
  · rw [strikes, tokens_joined, placesFrom_append, placesFrom_below, keysAt_append,
      placesFrom_add (widthOf (tokens s)), keysAt_add]
    rfl
  · rw [stepsOf, tokens_joined, widthOf_append, widthOf_below]
    rfl
  · rw [skips, tokens_joined, skippedIn, List.flatMap_append]
    exact congrArg _ (skippedIn_below layout.addresses (lineCount s) (tokens t))

end Tab

end Lamella
