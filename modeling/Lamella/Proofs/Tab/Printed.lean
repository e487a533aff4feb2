import Lamella.Proofs.Command.Folding
import Lamella.Proofs.Result
import Lamella.Proofs.Tab.Readback
import Lamella.Proofs.Tab.Torn

/-!
# Printed tablature

The text of steps is printed measure by measure, and each measure is folded between its scraps. So
what is printed are lines of scraps, which hold all of them in their order; if it is read again, it
means what these lines mean.

## Main definitions

- `Screen.transcript`: what a screen shows of a text, as a text.
- `Tab.ShowsScraps`: a printed line that shows some scraps.

## Main statements

- `Tab.lines_measureText`: steps are printed as lines of their scraps.
- `Tab.textShapes_transcript`: what is printed means what these lines mean.
- `Tab.read_transcript_of_read`: what is printed of notes that were read is read as the same notes if
  no chord is torn.
-/

namespace Lamella

/-- What a screen of some width shows of a text: its lines, with a line feed after each. -/
def Screen.transcript (width : Nat) (s : Text) : Text :=
  (Screen.lines width s).flatMap fun line => line ++ "\n"

namespace Tab

/-! ## §1 Measures -/

/-- Rows of images are images of rows. -/
theorem exists_rows {α β : Type} {f : α → β} {rows : List (List β)} {xs : List α}
    (h : rows.flatten = xs.map f) :
    ∃ groups : List (List α), groups.flatten = xs ∧ rows = groups.map (List.map f) := by
  induction rows generalizing xs with
  | nil => exact ⟨[], (List.map_eq_nil_iff.mp h.symm).symm, rfl⟩
  | cons row rows ih =>
    obtain ⟨ys, zs, rfl, rfl, hrest⟩ := List.map_eq_append_iff.mp h.symm
    obtain ⟨groups, rfl, rfl⟩ := ih hrest.symm
    exact ⟨ys :: groups, rfl, rfl⟩

/-- The tokens of steps lie on lines, one after another, the first of them on the first line. -/
theorem pieces_append_measureText (perLine : Nat) {ws : List Text}
    (hws : ∀ w ∈ ws, ∀ p ∈ w, p ≠ .char '\n') (step : Nat) {w : Text} (hw : ∀ p ∈ w, p ≠ .char '\n') :
    ∃ row rows, row ++ List.flatten rows = ws ∧
      Text.pieces (fun (p : Point) => p = '\n') (w ++ measureText perLine (step + 1) ws) =
        Text.join " " (w :: row) :: rows.map (Text.join " ") := by
  have hplain : ∀ p ∈ w, decide (p = .char '\n') = false := fun p hp => decide_eq_false (hw p hp)
  induction ws generalizing step w with
  | nil => exact ⟨[], [], rfl, by rw [measureText, List.append_nil, Text.pieces_word hplain]; rfl⟩
  | cons v ws ih =>
    have hv := hws v List.mem_cons_self
    obtain ⟨row, rows, rfl, hpieces⟩ := ih (fun u hu => hws u (List.mem_cons_of_mem v hu)) (step + 1)
      hv fun p hp => decide_eq_false (hv p hp)
    have hnewline : (↑"\n" : Text) = [.char '\n'] := by decide
    have hspace : (↑" " : Text) = [.char ' '] := by decide
    simp only [measureText, Nat.add_one_ne_zero, if_false]
    by_cases hmeasure : (step + 1) % perLine = 0
    · -- A measure is full: the token ends its line
      refine ⟨[], (v :: row) :: rows, rfl, ?_⟩
      rw [if_pos hmeasure, hnewline, List.append_assoc, List.singleton_append,
        Text.pieces_append hplain (decide_eq_true rfl), hpieces]
      rfl
    · -- Within a measure: the token begins the line of the next one
      refine ⟨v :: row, rows, rfl, ?_⟩
      rw [if_neg hmeasure, hspace, List.append_assoc, ← List.append_assoc w]
      rw [Text.pieces_append_first _ hpieces]
      · simp [Text.join, hspace]
      · refine List.forall_mem_append.mpr ⟨hplain, List.forall_mem_singleton.mpr ?_⟩
        decide

theorem pieces_measureText (perLine : Nat) {ws : List Text}
    (hws : ∀ w ∈ ws, ∀ p ∈ w, p ≠ .char '\n') :
    ∃ rows, List.flatten rows = ws ∧
      Text.pieces (fun (p : Point) => p = '\n') (measureText perLine 0 ws) =
        rows.map (Text.join " ") := by
  cases ws with
  | nil => exact ⟨[[]], rfl, rfl⟩
  | cons w ws =>
    obtain ⟨row, rows, rfl, hpieces⟩ := pieces_append_measureText perLine
      (fun v hv => hws v (List.mem_cons_of_mem w hv)) 0 (hws w List.mem_cons_self)
    exact ⟨(w :: row) :: rows, rfl, hpieces⟩

/-- What is written of steps is points of their tokens, and separators. -/
theorem mem_measureText {perLine step : Nat} {ws : List Text} {p : Point}
    (hp : p ∈ measureText perLine step ws) : p = .char '\n' ∨ p = .char ' ' ∨ ∃ w ∈ ws, p ∈ w := by
  have hnewline : (↑"\n" : Text) = [.char '\n'] := by decide
  have hspace : (↑" " : Text) = [.char ' '] := by decide
  have hempty : (↑"" : Text) = [] := by decide
  induction ws generalizing step with
  | nil => cases hp
  | cons w ws ih =>
    rw [measureText, List.append_assoc, List.mem_append, List.mem_append] at hp
    rcases hp with hp | hp | hp
    · split_ifs at hp
      · rw [hempty] at hp
        cases hp
      · rw [hnewline, List.mem_singleton] at hp
        exact .inl hp
      · rw [hspace, List.mem_singleton] at hp
        exact .inr (.inl hp)
    · exact .inr (.inr ⟨w, List.mem_cons_self, hp⟩)
    · rcases ih hp with hp | hp | ⟨v, hv, hp⟩
      · exact .inl hp
      · exact .inr (.inl hp)
      · exact .inr (.inr ⟨v, List.mem_cons_of_mem w hv, hp⟩)

/-! ## §2 Points of scraps -/

/-- The points of scraps, and of the tokens of steps. -/
def IsTabPoint (p : Point) : Prop :=
  (49 ≤ p.code ∧ p.code ≤ 55) ∨ p.code = 176 ∨ p.code = 45 ∨ p.code = 40 ∨ p.code = 41

section

variable {ls : List Text}

/-- A scrap of a step is a rest or has a label of the step. -/
theorem mem_lastScraps {w : Scrap} (hw : w ∈ lastScraps ls) :
    ∃ s ∈ ls, w = .label s ∨ w = .closing s := by
  induction ls with
  | nil => cases hw
  | cons s ls ih =>
    cases ls with
    | nil => exact ⟨s, List.mem_cons_self, .inr (List.mem_singleton.mp hw)⟩
    | cons t ls =>
      rw [lastScraps_cons (List.cons_ne_nil t ls)] at hw
      rcases List.mem_cons.mp hw with rfl | hw
      · exact ⟨s, List.mem_cons_self, .inl rfl⟩
      · obtain ⟨u, hu, hw⟩ := ih hw
        exact ⟨u, List.mem_cons_of_mem s hu, hw⟩

theorem mem_stepScraps {w : Scrap} (hw : w ∈ stepScraps ls) :
    w = .rest ∨ ∃ s ∈ ls, w = .label s ∨ w = .opening s ∨ w = .closing s := by
  match ls with
  | [] => exact .inl (List.mem_singleton.mp hw)
  | [s] => exact .inr ⟨s, List.mem_cons_self, .inl (List.mem_singleton.mp hw)⟩
  | s :: t :: ls =>
    rcases List.mem_cons.mp hw with rfl | hw
    · exact .inr ⟨s, List.mem_cons_self, .inr (.inl rfl)⟩
    · obtain ⟨u, hu, hw⟩ := mem_lastScraps hw
      exact .inr ⟨u, List.mem_cons_of_mem s hu, hw.imp_right .inr⟩

/-- The points of a scrap have these codes. -/
theorem isTabPoint_scrap (hls : ∀ s ∈ ls, IsLabelText s) {w : Scrap} (hw : w ∈ stepScraps ls) {p : Point}
    (hp : p ∈ w.text) : IsTabPoint p := by
  have hlabel : ∀ s ∈ ls, p ∈ s → IsTabPoint p := by
    intro s hs hp
    exact ((hls s hs).code hp).imp_right .inl
  have hopen : (↑"(" : Text) = [.char '('] := by decide
  have hclose : (↑")" : Text) = [.char ')'] := by decide
  have hdash : (↑"-" : Text) = [.char '-'] := by decide
  rcases mem_stepScraps hw with rfl | ⟨s, hs, rfl | rfl | rfl⟩
  · rw [Scrap.text, hdash, List.mem_singleton] at hp
    rw [hp]
    exact .inr (.inr (.inl rfl))
  · exact hlabel s hs hp
  · rw [Scrap.text, List.mem_append, hopen, List.mem_singleton] at hp
    rcases hp with rfl | hp
    · exact .inr (.inr (.inr (.inl rfl)))
    · exact hlabel s hs hp
  · rw [Scrap.text, List.mem_append, hclose, List.mem_singleton] at hp
    rcases hp with hp | rfl
    · exact hlabel s hs hp
    · exact .inr (.inr (.inr (.inr rfl)))

/-- The token of a step has points of scraps, and spaces. -/
theorem isTabPoint_stepText (hls : ∀ s ∈ ls, IsLabelText s) {p : Point} (hp : p ∈ stepText ls) :
    p = .char ' ' ∨ IsTabPoint p := by
  rw [← lineOf_stepScraps] at hp
  refine (Text.mem_join hp).imp_right ?_
  rintro ⟨text, htext, hp⟩
  obtain ⟨w, hw, rfl⟩ := List.mem_map.mp htext
  exact isTabPoint_scrap hls hw hp

theorem IsTabPoint.isBlank_eq {p : Point} (hp : IsTabPoint p) : Text.isBlank p = false := by
  unfold IsTabPoint at hp
  simp only [Text.isBlank, Text.isBlankCode, Bool.or_eq_false_iff, Bool.and_eq_false_iff,
    decide_eq_false_iff_not, beq_eq_false_iff_ne]
  omega

theorem IsTabPoint.isControl_eq {p : Point} (hp : IsTabPoint p) : Screen.isControl p = false := by
  unfold IsTabPoint at hp
  simp only [Screen.isControl, List.mem_cons, List.not_mem_nil, or_false, decide_eq_false_iff_not]
  omega

theorem IsTabPoint.isNarrow {p : Point} (hp : IsTabPoint p) : Text.IsNarrow p := by
  have hcells : ∀ n ∈ [49, 50, 51, 52, 53, 54, 55, 176, 45, 40, 41],
      Text.inRanges Text.noCell n = false ∧ Text.inRanges Text.twoCells n = false := by
    decide +kernel
  have hmem : p.code ∈ [49, 50, 51, 52, 53, 54, 55, 176, 45, 40, 41] := by
    unfold IsTabPoint at hp
    simp only [List.mem_cons, List.not_mem_nil, or_false]
    omega
  obtain ⟨hnone, htwo⟩ := hcells p.code hmem
  have hjoiner : (Point.char Text.joiner).code = 8205 := by decide
  have hmark : (Point.char Text.colourMark).code = 65039 := by decide
  unfold IsTabPoint at hp
  refine ⟨by simp [Text.cellWidth, hnone, htwo], ?_, ?_⟩
  · rintro rfl
    omega
  · rintro rfl
    omega

/-- A scrap fits on a screen if the labels do, with a parenthesis each. -/
theorem fits_scrap {width : Nat} (hls : ∀ s ∈ ls, IsLabelText s) (hshort : ∀ s ∈ ls, s.length < width)
    (hwidth : 0 < width) {w : Scrap} (hw : w ∈ stepScraps ls) : Screen.Fits width w.text := by
  have hopen : (↑"(" : Text) = [.char '('] := by decide
  have hclose : (↑")" : Text) = [.char ')'] := by decide
  have hpoints : ∀ p ∈ w.text, IsTabPoint p := fun p hp => isTabPoint_scrap hls hw hp
  refine ⟨⟨?_, fun p hp => (hpoints p hp).isBlank_eq⟩, fun p hp => (hpoints p hp).isNarrow, ?_⟩
  · rcases mem_stepScraps hw with rfl | ⟨s, hs, rfl | rfl | rfl⟩
    · decide
    · exact (hls s hs).ne_nil
    · simp [Scrap.text, hopen]
    · simp [Scrap.text, hclose]
  · rcases mem_stepScraps hw with rfl | ⟨s, hs, rfl | rfl | rfl⟩
    · exact hwidth
    · exact (hshort s hs).le
    · have := hshort s hs
      simp only [Scrap.text, hopen, List.length_append, List.length_singleton]
      omega
    · have := hshort s hs
      simp only [Scrap.text, hclose, List.length_append, List.length_singleton]
      omega

end

/-! ## §3 Printed lines -/

/-- The line of steps holds their scraps. -/
theorem join_stepText (steps : List (List Text)) :
    Text.join " " (steps.map stepText) = lineOf (steps.flatMap stepScraps) := by
  induction steps with
  | nil => rfl
  | cons ls steps ih =>
    rw [List.flatMap_cons, List.map_cons]
    cases steps with
    | nil =>
      rw [List.flatMap_nil, List.append_nil, lineOf_stepScraps]
      rfl
    | cons ms steps =>
      have hne : (ms :: steps).flatMap stepScraps ≠ [] := by
        rw [List.flatMap_cons]
        exact List.append_ne_nil_of_left_ne_nil (stepScraps_ne_nil ms) _
      rw [lineOf_append (stepScraps_ne_nil ls) hne, ← ih, lineOf_stepScraps, List.map_cons]
      exact List.append_assoc _ [Point.char ' '] _

/-- A printed line that shows some scraps, perhaps with the blank after them. -/
def ShowsScraps (ws : List Scrap) (line : Text) : Prop :=
  line = lineOf ws ∨ line = lineOf ws ++ [.char ' ']

theorem ShowsScraps.lineShapes_eq {ws : List Scrap} {line : Text} (h : ShowsScraps ws line) :
    lineShapes line = lineShapes (lineOf ws) := by
  rcases h with rfl | rfl
  · rfl
  · exact lineShapes_concat_space (lineOf ws)

theorem ShowsScraps.isClosed_iff {ws : List Scrap} {line : Text} (h : ShowsScraps ws line) :
    IsClosed line ↔ IsClosed (lineOf ws) := by
  rcases h with rfl | rfl
  · rfl
  · have hspace (c : Char) (hc : c ≠ ' ') :
        (lineOf ws ++ [Point.char ' ']).count (Point.char c) = (lineOf ws).count (.char c) := by
      have hnone : [Point.char ' '].count (.char c) = 0 := by
        rw [List.count_singleton, if_neg (by simpa using hc.symm)]
      rw [List.count_append, hnone, Nat.add_zero]
    rw [IsClosed, IsClosed, hspace '(' (by decide), hspace ')' (by decide)]

section

variable {width : Nat} {steps : List (List Text)} (hsteps : ∀ ls ∈ steps, ∀ s ∈ ls, IsLabelText s)
  (hshort : ∀ ls ∈ steps, ∀ s ∈ ls, s.length < width) (hwidth : 0 < width)

include hsteps hshort hwidth

/-- A line of steps is folded into lines of their scraps. -/
theorem fold_steps : ∃ shown : List (List Scrap), shown.flatten = steps.flatMap stepScraps ∧
    List.Forall₂ ShowsScraps shown
      ((Screen.fold width (Screen.expandTabs (Text.join " " (steps.map stepText)))).map
        (Screen.trimLine width)) := by
  have hfits : ∀ w ∈ (steps.flatMap stepScraps).map Scrap.text, Screen.Fits width w := by
    refine List.forall_mem_map.mpr fun w hw => ?_
    obtain ⟨ls, hls, hw⟩ := List.mem_flatMap.mp hw
    exact fits_scrap (hsteps ls hls) (hshort ls hls) hwidth hw
  obtain ⟨rows, hflatten, hshows⟩ := Screen.fold_join hfits
  obtain ⟨shown, hshown, rfl⟩ := exists_rows hflatten
  refine ⟨shown, hshown, ?_⟩
  rw [join_stepText]
  exact (List.forall₂_map_left_iff.mp hshows).imp fun ws line h => h.2

/-- Lines of steps are folded one after another. -/
theorem fold_rows {rows : List (List (List Text))} (hrows : rows.flatten = steps) :
    ∃ shown : List (List Scrap), shown.flatten = steps.flatMap stepScraps ∧
      List.Forall₂ ShowsScraps shown (rows.flatMap fun row =>
        (Screen.fold width (Screen.expandTabs (Text.join " " (row.map stepText)))).map
          (Screen.trimLine width)) := by
  induction rows generalizing steps with
  | nil =>
    subst hrows
    exact ⟨[], rfl, .nil⟩
  | cons row rows ih =>
    subst hrows
    rw [List.flatten_cons, List.forall_mem_append] at hsteps hshort
    obtain ⟨first, hfirst, hshows⟩ := fold_steps hsteps.1 hshort.1 hwidth
    obtain ⟨others, hothers, hshows'⟩ := ih hsteps.2 hshort.2 rfl
    refine ⟨first ++ others, ?_, List.rel_append hshows hshows'⟩
    rw [List.flatten_append, hfirst, hothers, List.flatten_cons, List.flatMap_append]

/-- **Steps are printed as lines of their scraps**, all of them in their order. -/
theorem lines_measureText (perLine : Nat) :
    ∃ shown : List (List Scrap), shown.flatten = steps.flatMap stepScraps ∧
      List.Forall₂ ShowsScraps shown
        (Screen.lines width (measureText perLine 0 (steps.map stepText))) := by
  have hpoint : ∀ w ∈ steps.map stepText, ∀ p ∈ w, p = .char ' ' ∨ IsTabPoint p := by
    refine List.forall_mem_map.mpr fun ls hls p hp => ?_
    exact isTabPoint_stepText (hsteps ls hls) hp
  have hfeed : ∀ w ∈ steps.map stepText, ∀ p ∈ w, p ≠ .char '\n' := by
    rintro w hw p hp rfl
    rcases hpoint w hw _ hp with h | h
    · exact absurd h (by decide)
    · exact absurd h.isBlank_eq (by decide)
  -- Nothing of the text is left out on the screen
  have hkept : (measureText perLine 0 (steps.map stepText)).filter (!Screen.isControl ·) =
      measureText perLine 0 (steps.map stepText) := by
    refine List.filter_eq_self.mpr fun p hp => ?_
    rcases mem_measureText hp with rfl | rfl | ⟨w, hw, hp⟩
    · decide
    · decide
    · rcases hpoint w hw p hp with rfl | h
      · decide
      · rw [h.isControl_eq]
        rfl
  obtain ⟨rows, hrows, hpieces⟩ := pieces_measureText perLine hfeed
  obtain ⟨groups, hgroups, rfl⟩ := exists_rows hrows
  obtain ⟨shown, hshown, hshows⟩ := fold_rows hsteps hshort hwidth hgroups
  refine ⟨shown, hshown, ?_⟩
  rw [Screen.lines, hkept, hpieces, List.map_map, List.flatMap_map]
  exact hshows

end

/-! ## §4 What is printed is read -/

/-- The points of a line of scraps. -/
theorem ShowsScraps.isTabPoint {steps : List (List Text)}
    (hsteps : ∀ ls ∈ steps, ∀ s ∈ ls, IsLabelText s) {ws : List Scrap}
    (hws : ∀ w ∈ ws, w ∈ steps.flatMap stepScraps) {line : Text} (hline : ShowsScraps ws line) :
    ∀ p ∈ line, p = .char ' ' ∨ IsTabPoint p := by
  have hwords : ∀ p ∈ lineOf ws, p = .char ' ' ∨ IsTabPoint p := by
    intro p hp
    refine (Text.mem_join hp).imp_right ?_
    rintro ⟨text, htext, hp⟩
    obtain ⟨w, hw, rfl⟩ := List.mem_map.mp htext
    obtain ⟨ls, hls, hw⟩ := List.mem_flatMap.mp (hws w hw)
    exact isTabPoint_scrap (hsteps ls hls) hw hp
  rcases hline with rfl | rfl
  · exact hwords
  · exact List.forall_mem_append.mpr ⟨hwords, List.forall_mem_singleton.mpr (.inl rfl)⟩

/-- Lines with a line feed after each are found again. -/
theorem lines_transcript {ls : List Text} (hls : ∀ line ∈ ls, ∀ p ∈ line, Text.isLineEnd p = false) :
    Text.lines (ls.flatMap fun line => line ++ "\n") = ls := by
  have hnewline : (↑"\n" : Text) = [.char '\n'] := by decide
  induction ls with
  | nil => rfl
  | cons line ls ih =>
    obtain ⟨hline, hrest⟩ := List.forall_mem_cons.mp hls
    rw [List.flatMap_cons, hnewline, List.append_assoc, List.singleton_append, ← hnewline,
      Text.lines_append_feed hline, ih hrest]

/-- **What is printed means what its lines mean.** -/
theorem textShapes_transcript {width : Nat} {text : Text} {steps : List (List Text)}
    (hsteps : ∀ ls ∈ steps, ∀ s ∈ ls, IsLabelText s) {shown : List (List Scrap)}
    (hflatten : shown.flatten = steps.flatMap stepScraps)
    (hshown : List.Forall₂ ShowsScraps shown (Screen.lines width text)) :
    (∀ line ∈ Screen.lines width text, ∀ p ∈ line, p = .char ' ' ∨ IsTabPoint p) ∧
      textShapes (Screen.transcript width text) = shapesIn shown := by
  have hpoints : ∀ line ∈ Screen.lines width text, ∀ p ∈ line, p = .char ' ' ∨ IsTabPoint p := by
    intro line hline
    obtain ⟨ws, hws, hshows⟩ := hshown.exists_left hline
    refine hshows.isTabPoint hsteps fun w hw => ?_
    rw [← hflatten]
    exact List.mem_flatten_of_mem hws hw
  have hends : ∀ line ∈ Screen.lines width text, ∀ p ∈ line, Text.isLineEnd p = false := by
    intro line hline p hp
    rcases hpoints line hline p hp with rfl | h
    · decide
    · exact Text.isLineEnd_eq_false_of_not_blank h.isBlank_eq
  refine ⟨hpoints, ?_⟩
  rw [textShapes, Screen.transcript, lines_transcript hends]
  generalize Screen.lines width text = printed at hshown
  clear hflatten hends hpoints
  induction hshown with
  | nil => rfl
  | cons hline _ ih => 
    rw [List.flatMap_cons, ih, hline.lineShapes_eq]
    rfl

/-! ## §5 What is printed of notes -/

variable {F : Type}

/-- A layout whose labels fit on a screen, with a parenthesis each. -/
def FitsOn (layout : Layout F) (width : Nat) : Prop :=
  ∀ key s, Layout.labelIn layout.addresses key = some s → s.length < width

/-- No more notes are read of tokens than labels. -/
theorem length_notesAt_le (table : List Layout.Address) (g : Grid Rat) (step : Nat) (ts : List Token) :
    (notesAt table g (placesFrom step ts)).length ≤
      ((ts.map Token.shape).map fun shape => shape.schedule.length).sum := by
  refine le_trans (List.length_filterMap_le _ _) (le_of_eq ?_)
  induction ts generalizing step with
  | nil => rfl
  | cons t ts ih =>
    rw [placesFrom, List.length_append, List.length_map, ih, List.map_cons, List.map_cons,
      List.sum_cons, Token.schedule_shape]

/-- As many labels are on the steps that entries take as there are entries. -/
theorem sum_length_labelsAt {entries : List (Int × Text)} (hsteps : ∀ e ∈ entries, 0 ≤ e.1) :
    (((List.range (stepCount entries)).map (labelsAt entries)).map List.length).sum =
      entries.length := by
  have hlength := (bucket_perm_steps hsteps).length_eq
  rw [buckets, List.length_flatMap, List.length_map] at hlength
  rw [← hlength, List.map_map, List.range_eq_range']
  congr 2
  funext step
  simp

/-- **What is printed of notes is read**: as these notes put on steps, and without loss, if no printed
line opens a chord that it does not close; else as fewer notes. -/
theorem read_transcript (layout : Layout F) (g : Grid Rat) (notes : List (Note Rat)) {width : Nat}
    (hfits : FitsOn layout width) (hwidth : 0 < width) :
    ∃ writing reading, write layout g notes = .ok writing ∧
      (∀ line ∈ Screen.lines width writing.text, ∀ p ∈ line, p = .char ' ' ∨ IsTabPoint p) ∧
      read layout g (Screen.transcript width writing.text) = .ok reading ∧
      ((∀ line ∈ Screen.lines width writing.text, IsClosed line) →
        reading.skipped = [] ∧ reading.notes.Perm (notes.filterMap (onStep layout.addresses g))) ∧
      ((∃ line ∈ Screen.lines width writing.text, ¬ IsClosed line) →
        reading.notes.length < (notes.filterMap (onStep layout.addresses g)).length) := by
  set entries := (inOrder notes).filterMap (entryOf layout.addresses g) with hentries
  have hentry := entries_of_notes layout g notes
  have hsteps : ∀ e ∈ entries, 0 ≤ e.1 := fun e he => (hentry e he).1
  have hlabels : ∀ e ∈ entries, ∃ key, Layout.labelIn layout.addresses key = some e.2 :=
    fun e he => (hentry e he).2
  -- The steps that are written, and the lines that show their scraps
  let steps := (List.range (stepCount entries)).map (labelsAt entries)
  have hwritten : ∀ ls ∈ steps, ∀ s ∈ ls, IsLabelText s ∧ s.length < width := by
    refine List.forall_mem_map.mpr fun step _ s hs => ?_
    obtain ⟨key, hkey⟩ := hlabels _ (mem_labelsAt.mp hs)
    exact ⟨(labels_written layout hlabels step s hs).1, hfits key s hkey⟩
  have htext : ∀ ls ∈ steps, ∀ s ∈ ls, IsLabelText s := fun ls hls s hs => (hwritten ls hls s hs).1
  have hshort : ∀ ls ∈ steps, ∀ s ∈ ls, s.length < width := fun ls hls s hs => (hwritten ls hls s hs).2
  obtain ⟨shown, hflatten, hshown⟩ :=
    lines_measureText htext hshort hwidth g.metre.numerator.toNat
  have htokens : measureText g.metre.numerator.toNat 0 (steps.map stepText) =
      entriesText g.metre.numerator.toNat entries := by
    rw [entriesText, List.map_map]
    rfl
  rw [htokens] at hshown
  obtain ⟨hpoints, hshapes⟩ := textShapes_transcript htext hflatten hshown
  have hnotes := (inOrder_perm notes).filterMap (onStep layout.addresses g)
  rcases (whole_or_torn shown).1 steps htext hflatten with ⟨hclosed, hsame⟩ | ⟨⟨ws, hws, hopen⟩, hlost⟩
  · have hmeaning : textShapes (Screen.transcript width (entriesText g.metre.numerator.toNat entries)) =
        (List.range (stepCount entries)).map fun step => stepShape (labelsAt entries step) := by
      rw [hshapes, hsame, List.map_map]
      rfl
    obtain ⟨back, hread, hperm⟩ := read_of_shapes layout g hsteps hlabels hmeaning
    rw [notesAt_entries] at hperm
    refine ⟨_, _, write_rat layout g notes, hpoints, hread, fun _ => ⟨rfl, hperm.trans hnotes⟩, ?_⟩
    rintro ⟨line, hline, hopen⟩
    obtain ⟨ws, hws, hshows⟩ := hshown.exists_left hline
    exact absurd (hshows.isClosed_iff.mpr (hclosed ws hws)) hopen
  · refine ⟨_, _, write_rat layout g notes, hpoints, readFrom_rat 0 _, fun hclosed => ?_, fun _ => ?_⟩
    · obtain ⟨line, hline, hshows⟩ := hshown.exists_right hws
      exact absurd (hshows.isClosed_iff.mp (hclosed line hline)) hopen
    · -- A label is lost, and there is no note without one
      have hcount : entries.length = (notes.filterMap (onStep layout.addresses g)).length := by
        have hsome (n : Note Rat) : (entryOf layout.addresses g n).isSome =
            (onStep layout.addresses g n).isSome := by
          rw [entryOf, onStep, Option.isSome_map, Option.isSome_map]
        rw [← hnotes.length_eq, hentries, List.length_filterMap_eq_countP,
          List.length_filterMap_eq_countP]
        simp only [hsome]
      refine lt_of_le_of_lt (length_notesAt_le layout.addresses g 0 _) ?_
      rw [tokens_shape, hshapes, ← hcount, ← sum_length_labelsAt hsteps]
      exact hlost

/-! ## §6 What is printed of a tablature that was read -/

theorem IsTabPoint.isHalf_eq {p : Point} (hp : IsTabPoint p) : p.isHalf = false := by
  cases p with
  | char c => rfl
  | half unit =>
    simp only [IsTabPoint, Point.code, Point.leastHalf] at hp
    omega

/-- A transcript has no halves and no carriage returns. -/
theorem points_of_transcript {width : Nat} {text : Text}
    (h : ∀ line ∈ Screen.lines width text, ∀ p ∈ line, p = .char ' ' ∨ IsTabPoint p) :
    ∀ p ∈ Screen.transcript width text, p.isHalf = false ∧ p ≠ .char '\r' := by
  have hfeed : ∀ p ∈ Text.ofString "\n", p.isHalf = false ∧ p ≠ .char '\r' := by decide
  refine List.forall_mem_flatMap.mpr fun line hline => List.forall_mem_append.mpr ⟨?_, hfeed⟩
  intro p hp
  rcases h line hline p hp with rfl | hp
  · decide
  · refine ⟨hp.isHalf_eq, ?_⟩
    rintro rfl
    exact absurd hp.isBlank_eq (by decide)

/-- **What is printed of notes that were read** is read back as the same notes if no chord is torn
where lines are folded. If one is, notes are lost. -/
theorem read_transcript_of_read {layout : Layout F} {g : Grid Rat} {text : Text} {first : Reading Rat}
    (hread : read layout g text = .ok first) {notes : List (Note Rat)}
    (hsame : (notes.map Note.signature).Perm (first.notes.map Note.signature)) {width : Nat}
    (hfits : FitsOn layout width) (hwidth : 0 < width) :
    ∃ writing reading, write layout g notes = .ok writing ∧ writing.unlabelled = [] ∧
      (∀ p ∈ Screen.transcript width writing.text, p.isHalf = false ∧ p ≠ .char '\r') ∧
      read layout g (Screen.transcript width writing.text) = .ok reading ∧
      ((∀ line ∈ Screen.lines width writing.text, IsClosed line) → reading.skipped = [] ∧
        (reading.notes.map Note.signature).Perm (first.notes.map Note.signature)) ∧
      ((∃ line ∈ Screen.lines width writing.text, ¬ IsClosed line) →
        reading.notes.length < first.notes.length) := by
  have hrat : read layout g text = .ok _ := readFrom_rat 0 (tokens text)
  -- A note that was read is on a step, so the others are too
  have hstep : ∀ n ∈ notes, ∃ m, onStep layout.addresses g n = some m ∧ m.signature = n.signature := by
    intro n hn
    obtain ⟨m, hm, hsignature⟩ := List.mem_map.mp (hsame.mem_iff.mp (List.mem_map_of_mem hn))
    have hkey : m.key = n.key := congrArg (·.1) hsignature
    have htime : m.time = n.time := congrArg (·.2.1) hsignature
    rw [hrat] at hread
    cases hread
    refine ⟨m, ?_, hsignature⟩
    rw [← onStep_of_mem_notesAt layout g hm, onStep, onStep, hkey, htime]
  have hsigned : (notes.filterMap (onStep layout.addresses g)).map Note.signature =
      notes.map Note.signature := by
    rw [List.map_filterMap, ← List.filterMap_eq_map]
    refine List.filterMap_congr fun n hn => ?_
    obtain ⟨m, hm, hsignature⟩ := hstep n hn
    rw [hm, Option.map_some, hsignature]
    rfl
  obtain ⟨writing, reading, hwriting, hpoints, hback, hclosed, htorn⟩ :=
    read_transcript layout g notes hfits hwidth
  refine ⟨writing, reading, hwriting, ?_, points_of_transcript hpoints, hback, fun h => ?_, fun h => ?_⟩
  · rw [write_rat] at hwriting
    cases hwriting
    refine List.map_eq_nil_iff.mpr (List.filter_eq_nil_iff.mpr fun n hn => ?_)
    obtain ⟨m, hm, -⟩ := hstep n ((inOrder_perm notes).mem_iff.mp hn)
    obtain ⟨label, hlabel, -⟩ := Option.map_eq_some_iff.mp hm
    simp [hlabel]
  · obtain ⟨hskipped, hperm⟩ := hclosed h
    exact ⟨hskipped, (hperm.map Note.signature).trans (hsigned ▸ hsame)⟩
  · have hlength := congrArg List.length hsigned
    rw [List.length_map, List.length_map] at hlength
    have hsize := hsame.length_eq
    rw [List.length_map, List.length_map] at hsize
    have hless := htorn h
    omega

/-! ## §7 Tablature of one chord -/

/-- Labels that are all on the first step are written as its token. -/
theorem entriesText_replicate {count : Nat} (hcount : 0 < count) (perLine : Nat) (s : Text) :
    entriesText perLine (List.replicate count (0, s)) = stepText (List.replicate count s) := by
  have hsteps : stepCount (List.replicate count ((0 : Int), s)) = 1 :=
    stepCount_eq ⟨(0, s), List.mem_replicate.mpr ⟨hcount.ne', rfl⟩, rfl⟩ fun e he => by
      rw [List.eq_of_mem_replicate he]
  have hlabels : labelsAt (List.replicate count ((0 : Int), s)) 0 = List.replicate count s := by
    unfold labelsAt
    exact List.filterMap_replicate_of_some rfl
  rw [entriesText, hsteps]
  show _ ++ stepText (labelsAt _ 0) ++ [] = _
  rw [hlabels, List.append_nil]
  rfl

section

variable {layout : Layout F} {index : Int} {s : Text}
  (hlabel : Layout.labelIn layout.addresses index = some s)

include hlabel

/-- A chord of one label is read as so many notes of its key. -/
theorem read_chord (g : Grid Rat) {count : Nat} (hcount : 0 < count) : ∃ steps,
    read layout g (stepText (List.replicate count s)) =
      .ok ⟨List.replicate count (g.note index 0), [], steps⟩ := by
  have hentry : ∀ e ∈ List.replicate count ((0 : Int), s), e = (0, s) :=
    fun e he => List.eq_of_mem_replicate he
  obtain ⟨notes, hread, hperm⟩ := read_entriesText layout g 4
    (fun e he => by rw [hentry e he]) (fun e he => ⟨index, by rw [hentry e he, hlabel]⟩)
  obtain ⟨label, -, -, hresolve⟩ := Layout.resolveIn_labelIn layout.addresses_distinct hlabel
  have hnotes : notesAt layout.addresses g
      ((List.replicate count ((0 : Int), s)).map fun e => (e.2, e.1.toNat)) =
        List.replicate count (g.note index 0) := by
    rw [List.map_replicate, notesAt]
    exact List.filterMap_replicate_of_some (by simp [hresolve])
  rw [entriesText_replicate hcount] at hread
  rw [hnotes, List.perm_replicate] at hperm
  rw [hread, hperm]
  exact ⟨_, rfl⟩

/-- Notes of one key at the start are written as a chord. -/
theorem text_of_chord {g : Grid Rat} {notes : List (Note Rat)} (hne : notes ≠ [])
    (hnotes : ∀ n ∈ notes, n.key = index ∧ n.time = 0) {writing : Writing}
    (hwriting : write layout g notes = .ok writing) :
    writing.text = stepText (List.replicate notes.length s) := by
  have hentry : ∀ n ∈ inOrder notes, entryOf layout.addresses g n = some (0, s) := by
    intro n hn
    obtain ⟨hkey, htime⟩ := hnotes n ((inOrder_perm notes).mem_iff.mp hn)
    have hzero : roundHalfEven (0 : Rat) = 0 := by decide +kernel
    rw [entryOf, hkey, hlabel, htime, zero_div, Option.map_some, hzero]
  have hentries : (inOrder notes).filterMap (entryOf layout.addresses g) =
      List.replicate notes.length (0, s) := by
    rw [List.filterMap_congr hentry, ← (inOrder_perm notes).length_eq, List.filterMap_eq_map',
      List.map_const']
  rw [write_rat] at hwriting
  cases hwriting
  rw [hentries, entriesText_replicate (List.length_pos_iff.mpr hne)]

end

end Tab

end Lamella
