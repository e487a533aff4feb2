import Lamella.Command.Screen
import Lamella.Proofs.Text.Rows
import Mathlib.Data.List.Forall2

/-!
# Folded lines

Words that were joined with spaces are folded at the width of the screen: each line that is printed
shows some of the words, in their order, and perhaps the space that was after them. No word is cut
as long as each fits on the screen.

## Main definitions

- `Text.IsNarrow`: points that take one cell wherever they stand.
- `Screen.spaced`: words, each with the space after it.
- `Screen.Shows`: a printed line that shows some words.

## Main statements

- `Text.cells_eq_length`: narrow points take as many cells as they are.
- `Screen.words_join`: the words of a line.
- `Screen.fill_spaced`: words are folded into lines that show them.
- `Screen.fold_join`: so is a line of words.
-/

namespace Lamella

/-! ## §1 Cells -/

namespace Text

/-- A point that takes one cell wherever it stands. -/
def IsNarrow (p : Point) : Prop := cellWidth p = 1 ∧ p ≠ joiner ∧ p ≠ colourMark

theorem cellsAfter_narrow {s : Text} (hs : ∀ p ∈ s, IsNarrow p) (last : Option Point) :
    cellsAfter last s = s.length := by
  induction s generalizing last with
  | nil => rfl
  | cons p s ih =>
    obtain ⟨hwidth, hjoiner, hmark⟩ := hs p List.mem_cons_self
    cases s with
    | nil => simp [cellsAfter, hjoiner, hmark, hwidth]
    | cons q s =>
      have hrest := ih (fun r hr => hs r (List.mem_cons_of_mem p hr)) (some p)
      simp [cellsAfter, hjoiner, hmark, hwidth, hrest, Nat.add_comm 1]

/-- Narrow points take as many cells as they are. -/
theorem cells_eq_length {s : Text} (hs : ∀ p ∈ s, IsNarrow p) : cells s = s.length :=
  cellsAfter_narrow hs none

end Text

namespace Screen

open Text

/-! ## §2 The words of a line -/

/-- Words, each with the space after it. -/
def spaced : List Text → List Text
  | [] => []
  | [w] => [w]
  | w :: v :: ws => (w ++ [.char ' ']) :: spaced (v :: ws)

theorem join_cons_cons (w v : Text) (ws : List Text) :
    join " " (w :: v :: ws) = w ++ .char ' ' :: join " " (v :: ws) :=
  List.append_assoc w [.char ' '] (join " " (v :: ws))

/-- Points that are no blanks grow the word begun so far, if it does not end with a blank. -/
theorem wordsFrom_append {w : Text} (hw : ∀ p ∈ w, isBlank p = false) {word : Text}
    (hword : ∀ p ∈ word, isBlank p = false) (s : Text) :
    wordsFrom word (w ++ s) = wordsFrom (w.reverse ++ word) s := by
  induction w generalizing word with
  | nil => rfl
  | cons p w ih =>
    have hp := hw p List.mem_cons_self
    have hhead : word.head?.any isBlank = false := by
      cases word with
      | nil => rfl
      | cons q word => exact hword q List.mem_cons_self
    rw [List.cons_append, wordsFrom, hhead]
    simp only [Bool.and_false, Bool.false_and, Bool.false_eq_true, if_false]
    rw [ih (fun q hq => hw q (List.mem_cons_of_mem p hq))
      (List.forall_mem_cons.mpr ⟨hp, hword⟩), List.reverse_cons, List.append_assoc]
    rfl

theorem join_cons_append (p : Point) (w : Text) (ws : List Text) :
    join " " ((p :: w) :: ws) = p :: join " " (w :: ws) := by
  cases ws <;> rfl

theorem all_isBlank_eq_false {word : Text} (hword : ∀ p ∈ word, isBlank p = false)
    (hne : word ≠ []) : word.all isBlank = false := by
  obtain ⟨p, word, rfl⟩ := List.exists_cons_of_ne_nil hne
  simp [hword p List.mem_cons_self]

/-- Words joined with spaces are cut after the spaces, whatever was read of the first of them. -/
theorem wordsFrom_join {ws : List Text} (hws : ∀ w ∈ ws, IsWord w) (word : Text) {w : Text}
    (hword : ∀ p ∈ word, isBlank p = false) (hw : ∀ p ∈ w, isBlank p = false)
    (hne : word.reverse ++ w ≠ []) :
    wordsFrom word (join " " (w :: ws)) = spaced ((word.reverse ++ w) :: ws) := by
  induction ws generalizing word w with
  | nil =>
    have hread := wordsFrom_append hw hword []
    have hnone : (w.reverse ++ word).all isBlank = false := by
      refine all_isBlank_eq_false (fun p hp => ?_) fun h => hne ?_
      · exact (List.mem_append.mp hp).elim (fun hp => hw p (List.mem_reverse.mp hp)) (hword p)
      · rw [← List.reverse_reverse (word.reverse ++ w), List.reverse_append, List.reverse_reverse, h,
          List.reverse_nil]
    rw [List.append_nil] at hread
    rw [show join " " [w] = w from rfl, hread, wordsFrom, if_neg (by simp [hnone])]
    simp [spaced]
  | cons v ws ih =>
    obtain ⟨hvne, hv⟩ := hws v List.mem_cons_self
    obtain ⟨c, cs, rfl⟩ := List.exists_cons_of_ne_nil hvne
    have hc := hv c List.mem_cons_self
    have hspace : isBlank (.char ' ') = true := by decide
    have hrest := ih (fun u hu => hws u (List.mem_cons_of_mem _ hu)) [c] (by simpa using hc)
      (fun p hp => hv p (List.mem_cons_of_mem c hp)) (List.cons_ne_nil c cs)
    -- The space after the first word is kept with it, and the next word begins a new one
    have hfirst : wordsFrom (w.reverse ++ word) (.char ' ' :: join " " ((c :: cs) :: ws)) =
        wordsFrom (.char ' ' :: (w.reverse ++ word)) (join " " ((c :: cs) :: ws)) := by
      rw [wordsFrom]
      simp [hspace]
    have hsome : (.char ' ' :: (w.reverse ++ word) : Text).all isBlank = false := by
      rw [List.all_cons, all_isBlank_eq_false, Bool.and_false]
      · intro p hp
        exact (List.mem_append.mp hp).elim (fun hp => hw p (List.mem_reverse.mp hp)) (hword p)
      · intro h
        rw [List.append_eq_nil_iff, List.reverse_eq_nil_iff] at h
        exact hne (by rw [h.1, h.2]; rfl)
    have hnext : wordsFrom (.char ' ' :: (w.reverse ++ word)) (join " " ((c :: cs) :: ws)) =
        (.char ' ' :: (w.reverse ++ word) : Text).reverse :: wordsFrom [c] (join " " (cs :: ws)) := by
      rw [join_cons_append, wordsFrom, hsome]
      simp [hc, hspace]
    rw [join_cons_cons, wordsFrom_append hw hword, hfirst, hnext, hrest]
    simp [spaced]

/-- **The words of a line.** -/
theorem words_join {ws : List Text} (hws : ∀ w ∈ ws, IsWord w) :
    words (join " " ws) = spaced ws := by
  cases ws with
  | nil => rfl
  | cons w ws =>
    obtain ⟨hne, hblank⟩ := hws w List.mem_cons_self
    exact wordsFrom_join (fun v hv => hws v (List.mem_cons_of_mem w hv)) [] nofun hblank hne

/-! ## §3 Folding -/

/-- A word that fits on a screen and is of narrow points. -/
structure Fits (width : Nat) (w : Text) : Prop where
  isWord : IsWord w
  narrow : ∀ p ∈ w, IsNarrow p
  le : w.length ≤ width

/-- A printed line that shows some words: with spaces between them and perhaps one after them, but
no wider than the screen without that. -/
def Shows (width : Nat) (ws : List Text) (line : Text) : Prop :=
  (join " " ws).length ≤ width ∧
    (line = join " " ws ∨ line = join " " ws ++ [.char ' '])

theorem isNarrow_space : IsNarrow (.char ' ') := by
  refine ⟨?_, ?_, ?_⟩ <;> decide +kernel

/-- Words with the spaces after them, as a line begun. -/
def begun (ws : List Text) : Text := ws.flatMap fun w => w ++ [.char ' ']

theorem begun_concat (ws : List Text) (w : Text) :
    begun (ws ++ [w]) = begun ws ++ (w ++ [.char ' ']) := by
  rw [begun, List.flatMap_append, List.flatMap_singleton, begun]

theorem join_concat (ws : List Text) (w : Text) : join " " (ws ++ [w]) = begun ws ++ w := by
  induction ws with
  | nil => rfl
  | cons v ws ih =>
    obtain ⟨u, us, hus⟩ : ∃ u us, ws ++ [w] = u :: us :=
      List.exists_cons_of_ne_nil (by simp)
    rw [List.cons_append, hus, join_cons_cons, ← hus, ih]
    simp [begun]

theorem begun_eq_join {ws : List Text} (h : ws ≠ []) : begun ws = join " " ws ++ [.char ' '] := by
  obtain ⟨us, w, rfl⟩ := (List.eq_nil_or_concat ws).resolve_left h
  rw [List.concat_eq_append, begun_concat, join_concat, List.append_assoc]

/-- The blanks at the end of a word are not counted where it is put. -/
theorem trimEnd_word {w word : Text} (hw : IsWord w) (hword : word = w ∨ word = w ++ [.char ' ']) :
    trimEnd isBlank word = w := by
  have hlast : ∀ p ∈ w.reverse.head?, isBlank p = false := by
    intro p hp
    exact hw.2 p (List.mem_reverse.mp (List.mem_of_mem_head? hp))
  have hkeep : w.reverse.dropWhile isBlank = w.reverse := by
    cases hrev : w.reverse with
    | nil => rfl
    | cons p s =>
      rw [List.dropWhile_cons_of_neg]
      rw [hlast p (by rw [hrev]; rfl)]
      exact Bool.false_ne_true
  rcases hword with rfl | rfl
  · rw [trimEnd, hkeep, List.reverse_reverse]
  · rw [trimEnd, List.reverse_append, List.reverse_singleton, List.singleton_append,
      List.dropWhile_cons_of_pos (by decide), hkeep, List.reverse_reverse]

/-- A word is put on the line begun if it fits there, and else begins the next one. -/
theorem fill_step {width : Nat} {w word : Text} (hw : Fits width w)
    (hword : word = w ∨ word = w ++ [.char ' ']) (before rest : List Text) :
    fill width (begun before) (begun before).length (word :: rest) =
      if (begun before).length + w.length ≤ width then
        fill width (begun before ++ word) (begun before ++ word).length rest
      else begun before :: fill width word word.length rest := by
  have hnarrow : ∀ p ∈ word, IsNarrow p := by
    rcases hword with rfl | rfl
    · exact hw.narrow
    · exact List.forall_mem_append.mpr ⟨hw.narrow, List.forall_mem_singleton.mpr isNarrow_space⟩
  rw [fill]
  simp only [trimEnd_word hw.isWord hword, cells_eq_length hw.narrow, cells_eq_length hnarrow,
    List.length_append]
  by_cases hfits : (begun before).length + w.length ≤ width
  · rw [if_pos hfits, if_pos hfits]
  · have hsome : begun before ≠ [] := by
      intro hnil
      rw [hnil] at hfits
      exact hfits (by simpa using hw.le)
    rw [if_neg hfits, if_neg hfits, if_neg (Nat.not_lt.mpr hw.le), if_neg hsome]

theorem shows_begun {width : Nat} {before : List Text} (h : (join " " before).length ≤ width)
    (hsome : before ≠ []) : Shows width before (begun before) :=
  ⟨h, .inr (begun_eq_join hsome)⟩

/-- **Words are folded into lines that show them**, in their order. -/
theorem fill_spaced {width : Nat} {ws : List Text} (hws : ∀ w ∈ ws, Fits width w) (hne : ws ≠ [])
    (before : List Text) (hbefore : (join " " before).length ≤ width) :
    ∃ shown : List (List Text), shown.flatten = before ++ ws ∧
      List.Forall₂ (Shows width) shown
        (fill width (begun before) (begun before).length (spaced ws)) := by
  -- The words already on the line begun are what changes along the words
  induction ws generalizing before with
  | nil => exact absurd rfl hne
  | cons w ws ih =>
    have hw := hws w List.mem_cons_self
    have hlength : (join " " (before ++ [w])).length = (begun before).length + w.length := by
      rw [join_concat, List.length_append]
    -- If the word does not fit, there are others before it
    have hsome : ¬ (begun before).length + w.length ≤ width → before ≠ [] := by
      rintro hfits rfl
      exact hfits (by simpa [begun] using hw.le)
    cases ws with
    | nil =>
      rw [spaced, fill_step hw (.inl rfl)]
      split
      · rename_i hfits
        refine ⟨[before ++ [w]], by simp, ?_⟩
        rw [fill, ← join_concat]
        exact .cons ⟨by rw [hlength]; exact hfits, .inl rfl⟩ .nil
      · rename_i hfits
        refine ⟨[before, [w]], by simp, ?_⟩
        rw [fill]
        exact .cons (shows_begun hbefore (hsome hfits)) (.cons ⟨hw.le, .inl rfl⟩ .nil)
    | cons v ws =>
      have hrest := fun u hu => hws u (List.mem_cons_of_mem w hu)
      rw [spaced, fill_step hw (.inr rfl)]
      split
      · rename_i hfits
        obtain ⟨shown, hflatten, hshows⟩ := ih hrest (by simp) (before ++ [w])
          (by rw [hlength]; exact hfits)
        rw [begun_concat] at hshows
        exact ⟨shown, by rw [hflatten]; simp, hshows⟩
      · rename_i hfits
        obtain ⟨shown, hflatten, hshows⟩ := ih hrest (by simp) [w] hw.le
        refine ⟨before :: shown, by rw [List.flatten_cons, hflatten]; simp, ?_⟩
        refine .cons (shows_begun hbefore (hsome hfits)) ?_
        simpa [begun] using hshows

/-! ## §4 Printed lines -/

/-- What is beyond the screen of a line that shows words is the space at its end. -/
theorem trimLine_of_shows {width : Nat} {ws : List Text} {line : Text}
    (hws : ∀ w ∈ ws, ∀ p ∈ w, IsNarrow p) (h : Shows width ws line) :
    Shows width ws (trimLine width line) := by
  obtain ⟨hle, hline⟩ := h
  have hnarrow : ∀ p ∈ join " " ws, IsNarrow p := by
    intro p hp
    rcases mem_join hp with rfl | ⟨w, hw, hp⟩
    · exact isNarrow_space
    · exact hws w hw p hp
  -- A line that fits stays as it is
  have hkeep : ∀ {s : Text}, (∀ p ∈ s, IsNarrow p) → s.length ≤ width → trimLine width s = s := by
    intro s hs hfits
    rw [trimLine, Nat.sub_eq_zero_of_le hfits, Nat.min_zero, Nat.sub_zero, List.take_length, crop,
      if_pos (by rw [cells_eq_length hs]; exact hfits)]
  refine ⟨hle, ?_⟩
  rcases hline with rfl | rfl
  · exact .inl (hkeep hnarrow hle)
  · set line : Text := join " " ws ++ [.char ' '] with hline
    have hspaced : ∀ p ∈ line, IsNarrow p :=
      List.forall_mem_append.mpr ⟨hnarrow, List.forall_mem_singleton.mpr isNarrow_space⟩
    by_cases hfits : line.length ≤ width
    · exact .inr (hkeep hspaced hfits)
    · -- The line is as wide as the screen, so the space after it is beyond
      have hlength : line.length = (join " " ws).length + 1 := by simp [hline]
      have hblanks : 1 ≤ (line.reverse.takeWhile isBlank).length := by
        rw [hline, List.reverse_append, List.reverse_singleton, List.singleton_append,
          List.takeWhile_cons_of_pos (by decide), List.length_cons]
        omega
      have htake : line.length - min (line.reverse.takeWhile isBlank).length (line.length - width) =
          (join " " ws).length := by
        omega
      refine .inl ?_
      rw [trimLine, htake, hline, List.take_left, crop,
        if_pos (by rw [cells_eq_length hnarrow]; exact hle)]

/-- A line without tabs has none to expand. -/
theorem expandTabs_of_no_tab {line : Text} (h : ∀ p ∈ line, p ≠ .char '\t') :
    expandTabs line = line := by
  rw [expandTabs, pieces_word fun p hp => decide_eq_false (h p hp)]
  rfl

/-- **A line of words is printed as lines that show them**, in their order. -/
theorem fold_join {width : Nat} {ws : List Text} (hws : ∀ w ∈ ws, Fits width w) :
    ∃ shown : List (List Text), shown.flatten = ws ∧ List.Forall₂ (Shows width) shown
      ((fold width (expandTabs (join " " ws))).map (trimLine width)) := by
  have hplain : ∀ p ∈ join " " ws, p ≠ .char '\t' := by
    rintro p hp rfl
    rcases mem_join hp with hspace | ⟨w, hw, hp⟩
    · exact absurd hspace (by decide)
    · exact absurd ((hws w hw).isWord.2 _ hp) (by decide)
  rw [expandTabs_of_no_tab hplain, fold, words_join fun w hw => (hws w hw).isWord]
  cases ws with
  | nil => exact ⟨[[]], rfl, .cons (trimLine_of_shows nofun ⟨Nat.zero_le _, .inl rfl⟩) .nil⟩
  | cons w ws =>
    obtain ⟨shown, hflatten, hshows⟩ := fill_spaced hws (by simp) [] (Nat.zero_le _)
    have hwords : shown.flatten = w :: ws := by simpa using hflatten
    have hfold : ∃ u us, spaced (w :: ws) = u :: us := by
      cases ws <;> exact ⟨_, _, rfl⟩
    obtain ⟨u, us, hfold⟩ := hfold
    rw [hfold] at hshows ⊢
    refine ⟨shown, hwords, List.forall₂_map_right_iff.mpr ?_⟩
    have hfits : ∀ vs ∈ shown, ∀ v ∈ vs, Fits width v := by
      intro vs hvs v hv
      exact hws v (hwords ▸ List.mem_flatten_of_mem hvs hv)
    refine ((List.forall₂_and_left shown _).mpr ⟨hfits, hshows⟩).imp ?_
    rintro vs line ⟨hvs, hline⟩
    exact trimLine_of_shows (fun v hv => (hvs v hv).narrow) hline

end Screen

end Lamella
