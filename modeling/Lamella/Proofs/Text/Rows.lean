import Lamella.Text.Blank

/-!
# Rows of words

What cutting a text does to words that were put together with separators between them: lines end at
line feeds and nowhere inside a word, pieces end at the members of a class, and words that were
joined with spaces are found again.

## Main statements

- `lines_append_feed`, `lines_append`: a line end closes the first line, all else grows it.
- `pieces_append`: a member of the class closes the first piece.
- `words_join`: words joined with spaces are found again.
-/

namespace Lamella.Text

/-! ## §1 Lines -/

theorem lines_cons_of_not_end {p : Point} (hp : isLineEnd p = false) (s : Text) :
    lines (p :: s) = consFirst p (lines s) := by
  rw [lines.eq_def (p :: s)]
  split
  · exact absurd ‹_› (by simp)
  · rename_i heq
    cases heq
    exact absurd hp (by decide)
  · rename_i heq
    cases heq
    simp [hp]

theorem lines_feed (s : Text) : lines (.char '\n' :: s) = [] :: lines s := by
  have hend : isLineEnd (.char '\n') = true := by decide
  cases s <;> simp [lines, hend]

/-- A word without line ends grows the first line of what follows it. -/
theorem lines_append {w : Text} (hw : ∀ p ∈ w, isLineEnd p = false) {s first : Text}
    {others : List Text} (hs : lines s = first :: others) :
    lines (w ++ s) = (w ++ first) :: others := by
  induction w with
  | nil => exact hs
  | cons p w ih =>
    have hrest := ih fun q hq => hw q (List.mem_cons_of_mem _ hq)
    rw [List.cons_append, lines_cons_of_not_end (hw p List.mem_cons_self), hrest]
    rfl

/-- A line feed after a word without line ends closes a line. -/
theorem lines_append_feed {w : Text} (hw : ∀ p ∈ w, isLineEnd p = false) (s : Text) :
    lines (w ++ .char '\n' :: s) = w :: lines s := by
  have h := lines_append hw (lines_feed s)
  rwa [List.append_nil] at h

/-- A word without line ends is one line. -/
theorem lines_word {w : Text} (hw : ∀ p ∈ w, isLineEnd p = false) (hne : w ≠ []) :
    lines w = [w] := by
  induction w with
  | nil => exact absurd rfl hne
  | cons p w ih =>
    rw [lines_cons_of_not_end (hw p List.mem_cons_self)]
    cases w with
    | nil => rfl
    | cons q w =>
      rw [ih (fun r hr => hw r (List.mem_cons_of_mem _ hr)) (by simp)]
      rfl

theorem lines_ne_nil {s : Text} (hne : s ≠ []) : lines s ≠ [] := by
  have consFirst_ne_nil (p : Point) (ls : List Text) : consFirst p ls ≠ [] := by
    cases ls <;> simp [consFirst]
  fun_cases lines s with
  | case1 => exact absurd rfl hne
  | case2 => simp
  | case3 => simp
  | case4 => exact consFirst_ne_nil _ _

/-- White space takes in the ends of lines. -/
theorem isLineEnd_eq_false_of_not_blank {p : Point} (hp : isBlank p = false) :
    isLineEnd p = false := by
  simp only [isBlank, isBlankCode, isLineEnd, Bool.or_eq_false_iff, Bool.and_eq_false_iff,
    decide_eq_false_iff_not, beq_eq_false_iff_ne] at hp ⊢
  omega

/-! ## §2 Pieces and words -/

section

variable {α : Type} {p : α → Bool}

theorem pieces_word {w : List α} (hw : ∀ c ∈ w, p c = false) : pieces p w = [w] := by
  induction w with
  | nil => rfl
  | cons c w ih =>
    have hrest := ih fun d hd => hw d (List.mem_cons_of_mem _ hd)
    simp [pieces, hw c List.mem_cons_self, hrest, consFirst]

/-- A member of the class after a word without such members closes a piece. -/
theorem pieces_append {w : List α} (hw : ∀ c ∈ w, p c = false) {d : α} (hd : p d = true)
    (s : List α) : pieces p (w ++ d :: s) = w :: pieces p s := by
  induction w with
  | nil => simp [pieces, hd]
  | cons c w ih =>
    have hrest := ih fun e he => hw e (List.mem_cons_of_mem _ he)
    simp [pieces, hw c List.mem_cons_self, hrest, consFirst]

/-- A word without members of the class grows the first piece of what follows it. -/
theorem pieces_append_first {w : List α} (hw : ∀ c ∈ w, p c = false) {s first : List α}
    {others : List (List α)} (hs : pieces p s = first :: others) :
    pieces p (w ++ s) = (w ++ first) :: others := by
  induction w with
  | nil => exact hs
  | cons c w ih =>
    have hrest := ih fun d hd => hw d (List.mem_cons_of_mem _ hd)
    simp [pieces, hw c List.mem_cons_self, hrest, consFirst]

end

/-- A word: something without blanks. -/
def IsWord (w : Text) : Prop := w ≠ [] ∧ ∀ p ∈ w, isBlank p = false

theorem words_word {w : Text} (hw : IsWord w) : words w = [w] := by
  simp [words, pieces_word hw.2, hw.1]

theorem words_append_space {w : Text} (hw : IsWord w) (s : Text) :
    words (w ++ .char ' ' :: s) = w :: words s := by
  have hspace : isBlank (.char ' ') = true := by decide
  simp [words, pieces_append hw.2 hspace, hw.1]

/-- Words that were joined with spaces are found again. -/
theorem words_join {ws : List Text} (hws : ∀ w ∈ ws, IsWord w) : words (join " " ws) = ws := by
  induction ws with
  | nil => rfl
  | cons w ws ih =>
    have hw := hws w List.mem_cons_self
    cases ws with
    | nil => exact words_word hw
    | cons v ws =>
      have hrest := ih fun u hu => hws u (List.mem_cons_of_mem _ hu)
      have hjoin : join " " (w :: v :: ws) = w ++ .char ' ' :: join " " (v :: ws) :=
        List.append_assoc w [.char ' '] (join " " (v :: ws))
      rw [hjoin, words_append_space hw, hrest]

/-- What is joined of texts is points of theirs and of what is put between them. -/
theorem mem_join_separator {separator : Text} {ws : List Text} {p : Point}
    (hp : p ∈ join separator ws) : p ∈ separator ∨ ∃ w ∈ ws, p ∈ w := by
  induction ws with
  | nil => exact absurd hp (by simp [join])
  | cons w ws ih =>
    cases ws with
    | nil => exact .inr ⟨w, List.mem_cons_self, hp⟩
    | cons v ws =>
      -- A point is of the first text, of what is put after it, or of the rest
      simp only [join, List.mem_append] at hp
      rcases hp with (hp | hp) | hp
      · exact .inr ⟨w, List.mem_cons_self, hp⟩
      · exact .inl hp
      · rcases ih hp with hp | ⟨u, hu, hp⟩
        · exact .inl hp
        · exact .inr ⟨u, List.mem_cons_of_mem _ hu, hp⟩

/-- What is joined of words is points of theirs and spaces. -/
theorem mem_join {ws : List Text} {p : Point} (hp : p ∈ join " " ws) :
    p = .char ' ' ∨ ∃ w ∈ ws, p ∈ w :=
  (mem_join_separator hp).imp_left fun hspace => List.mem_singleton.mp hspace

/-- Words that were joined with spaces end with a point of a word. -/
theorem last_join {ws : List Text} (hws : ∀ w ∈ ws, IsWord w) {p : Point}
    (hp : (join " " ws).getLast? = some p) : isBlank p = false := by
  induction ws with
  | nil => cases hp
  | cons w ws ih =>
    have hw := (hws w List.mem_cons_self).2
    cases ws with
    | nil => exact hw p (List.mem_of_getLast? hp)
    | cons v ws =>
      have hne : join " " (v :: ws) ≠ [] := by
        intro h
        have hwords := words_join fun u hu => hws u (List.mem_cons_of_mem w hu)
        rw [h] at hwords
        cases hwords
      rw [show join " " (w :: v :: ws) = w ++ " " ++ join " " (v :: ws) from rfl,
        List.getLast?_append, List.getLast?_eq_some_getLast hne, Option.some_or,
        ← List.getLast?_eq_some_getLast hne] at hp
      exact ih (fun u hu => hws u (List.mem_cons_of_mem w hu)) hp

/-- What has none of a class at its ends loses nothing there. -/
theorem trim_eq_self {α : Type} {p : α → Bool} {s : List α}
    (hfirst : ∀ c, s.head? = some c → p c = false) (hlast : ∀ c, s.getLast? = some c → p c = false) :
    trim p s = s := by
  have keep {s : List α} (hs : ∀ c, s.head? = some c → p c = false) : s.dropWhile p = s := by
    cases s with
    | nil => rfl
    | cons c s => simp [hs c rfl]
  have hback : ∀ c, s.reverse.head? = some c → p c = false := by
    intro c hc
    exact hlast c (List.head?_reverse ▸ hc)
  rw [trim, keep hfirst, keep hback, List.reverse_reverse]

/-- What has none of a class loses nothing at its ends. -/
theorem trim_word {α : Type} {p : α → Bool} {w : List α} (hw : ∀ c ∈ w, p c = false) :
    trim p w = w :=
  trim_eq_self (fun c hc => hw c (List.mem_of_head? hc)) fun c hc => hw c (List.mem_of_getLast? hc)

/-- A word has no blanks at its ends. -/
theorem strip_word {w : Text} (hw : ∀ p ∈ w, isBlank p = false) : strip w = w := trim_word hw

end Lamella.Text
