import Lamella.Proofs.Tab.Measures
import Lamella.Proofs.Tab.Outline

/-!
# Labels written together and apart

Labels can be written without anything between them, with a space between any two, or on a line
each, and with any of the signs that are replaced by the octave glyph. All of this says the same:
the labels sound one after another, each on a step of its own. In parentheses, too, it makes no
difference whether labels are written together or with spaces.

## Main definitions

- `Tab.Handwritten`: a label with any signs for its octaves.
- `Tab.Way`: the ways to write labels one after another.
- `Tab.Saying`, `Tab.oneByOne`: what a reading says, and what labels say one after another.

## Main statements

- `Tab.shapeOf_of_labels?`: a word that is made of labels is a note or a run.
- `Tab.saying_of_rows`: what tokens of labels say.
- `Tab.exists_runs`: the tokens of labels, in whichever way they are written.
- `Tab.ways_agree`: all ways to write labels say the same.
-/

namespace Lamella

/-- Without anything between them, texts that are joined are put together. -/
theorem Text.join_nil {α : Type} (ws : List (List α)) : join [] ws = ws.flatten := by
  induction ws with
  | nil => rfl
  | cons w ws ih =>
    cases ws with
    | nil => exact (List.append_nil w).symm
    | cons v ws =>
      show w ++ [] ++ join [] (v :: ws) = _
      rw [ih, List.append_nil]
      rfl

namespace Tab

/-! ## §1 Labels as they are written -/

/-- A label as it can be written: a degree, and for each octave one of the signs that stand for the
glyph. -/
structure Handwritten where
  degree : Char
  signs : List Char
  isDegree_degree : Label.isDegree degree = true
  mem_of_mem_signs : ∀ c ∈ signs, c ∈ ['°', '*', '\'']

theorem unifyMarkers_signs {signs : List Char} (h : ∀ c ∈ signs, c ∈ ['°', '*', '\'']) :
    unifyMarkers (signs.map .char) = List.replicate signs.length (.char Label.glyph) := by
  simp only [unifyMarkers, Text.replaceChar, List.map_map]
  refine List.map_eq_replicate_iff.mpr fun c hc => ?_
  have hmem := h c hc
  simp only [List.mem_cons, List.not_mem_nil, or_false] at hmem
  rcases hmem with rfl | rfl | rfl <;> decide

namespace Handwritten

/-- What is written. -/
def text (h : Handwritten) : Text := .char h.degree :: h.signs.map .char

/-- The label with the glyph for every sign. -/
def plain (h : Handwritten) : Text :=
  .char h.degree :: List.replicate h.signs.length (.char Label.glyph)

/-- The degree is kept, and every sign is replaced by the glyph. -/
theorem unifyMarkers_text (h : Handwritten) : unifyMarkers h.text = h.plain := by
  have hne (c : Char) (hc : Label.isDegree c = false) : h.degree ≠ c := by
    rintro rfl
    exact absurd h.isDegree_degree (by simp [hc])
  have hdegree : unifyMarkers [.char h.degree] = [.char h.degree] := by
    simp [unifyMarkers, Text.replaceChar, hne '*' (by decide), hne '\'' (by decide)]
  calc unifyMarkers h.text
      = unifyMarkers [.char h.degree] ++ unifyMarkers (h.signs.map .char) :=
        unifyMarkers_append [.char h.degree] (h.signs.map .char)
    _ = h.plain := by rw [hdegree, unifyMarkers_signs h.mem_of_mem_signs]; rfl

theorem labels?_text (h : Handwritten) : labels? (unifyMarkers h.text) = some [h.plain] := by
  have hglyphs : (List.replicate h.signs.length (Point.char Label.glyph)).all
      (Point.is (· = Label.glyph)) = true := by
    rw [List.all_replicate]
    simp [Point.is]
  have hdegree : (Point.char h.degree).is Label.isDegree = true := h.isDegree_degree
  rw [unifyMarkers_text, plain, labels?, if_pos hdegree, cutLabels_of_all_glyph hglyphs]
  rfl

/-- Nothing that is written of a label separates pieces or groups them. -/
theorem isPlain_text (h : Handwritten) : ∀ p ∈ h.text, IsPlain p := by
  intro p hp
  rcases List.mem_cons.mp hp with rfl | hp
  · exact isPlain_of_code (.inl (Label.isDegree_iff.mp h.isDegree_degree))
  · obtain ⟨c, hc, rfl⟩ := List.mem_map.mp hp
    have hmem := h.mem_of_mem_signs c hc
    simp only [List.mem_cons, List.not_mem_nil, or_false] at hmem
    rcases hmem with rfl | rfl | rfl <;> exact ⟨by decide, by decide, by decide⟩

theorem isWord_text (h : Handwritten) : Text.IsWord h.text :=
  ⟨List.cons_ne_nil _ _, fun p hp => (h.isPlain_text p hp).1⟩

theorem ofMember_text (h : Handwritten) : Token.ofMember h.text = ([h.plain], []) :=
  ofMember_of_labels? h.isWord_text h.labels?_text

end Handwritten

section

variable {written : List Handwritten}

theorem isWord_of_mem {w : Text} (hw : w ∈ written.map Handwritten.text) : Text.IsWord w := by
  obtain ⟨h, -, rfl⟩ := List.mem_map.mp hw
  exact h.isWord_text

theorem isWord_texts (hne : written ≠ []) : Text.IsWord (written.map Handwritten.text).flatten :=
  isWord_flatten (by simpa using hne) fun _ hw => isWord_of_mem hw

theorem isPlain_of_mem {p : Point} (hp : p ∈ (written.map Handwritten.text).flatten) : IsPlain p := by
  obtain ⟨w, hw, hp⟩ := List.mem_flatten.mp hp
  obtain ⟨h, -, rfl⟩ := List.mem_map.mp hw
  exact h.isPlain_text p hp

/-- **Labels that are put together are found again**, with the glyph for every sign. -/
theorem labels?_texts (hne : written ≠ []) :
    labels? (unifyMarkers (written.map Handwritten.text).flatten) =
      some (written.map Handwritten.plain) := by
  have hone (h : Handwritten) : memberLabels h.text = [h.plain] := congrArg Prod.fst h.ofMember_text
  rw [labels?_flatten (by simpa using hne) fun w hw => isWord_of_mem hw]
  · rw [List.flatMap_map, List.map_eq_flatMap]
    simp only [hone]
  · intro w hw
    obtain ⟨h, -, rfl⟩ := List.mem_map.mp hw
    simp [hone]

end

/-! ## §2 Tokens of labels -/

/-- What labels mean that are written as one word. -/
def runShape : List Text → Token.Shape
  | [label] => .note label
  | labels => .run labels

theorem runShape_of_two_le {ls : List Text} (h : 2 ≤ ls.length) : runShape ls = .run ls := by
  cases ls with
  | nil => rfl
  | cons l rest =>
    cases rest with
    | nil => exact absurd h (by simp)
    | cons m rest => rfl

/-- **A word that is made of labels is a note or a run.** -/
theorem shapeOf_of_labels? {w : Text} (hw : Text.IsWord w) {ls : List Text}
    (hls : labels? (unifyMarkers w) = some ls) : Token.shapeOf w = runShape ls := by
  -- A word that opens a group begins with no degree
  have hhead : w.head? ≠ some (.char '(') := by
    intro hopen
    obtain ⟨rest, rfl⟩ := List.head?_eq_some_iff.mp hopen
    have hnone : labels? (unifyMarkers [.char '('] ++ unifyMarkers rest) = none := rfl
    rw [← unifyMarkers_append, List.singleton_append, hls] at hnone
    cases hnone
  obtain ⟨hrest, ⟨hlabel, rfl⟩ | ⟨hlabel, hrun, htwo⟩⟩ := word_of_labels? hw hls
  · simp [Token.shapeOf, hrest, hhead, hlabel, runShape]
  · simp [Token.shapeOf, hrest, hhead, hlabel, hrun, runShape_of_two_le htwo]

/-- A token that sounds labels one after another, each on a step of its own, and refuses nothing. -/
structure Token.Sounds (t : Token) (ls : List Text) : Prop where
  schedule_eq : t.schedule = ls.zipIdx
  width_eq : t.width = ls.length
  refused_eq : t.refused = []

theorem Token.sounds_of_shape {t : Token} {ls : List Text} (hne : ls ≠ [])
    (h : t.shape = runShape ls) : t.Sounds ls := by
  obtain ⟨l, rest, rfl⟩ := List.exists_cons_of_ne_nil hne
  cases rest with
  | nil =>
    rw [runShape] at h
    exact ⟨by simp [schedule, labels, h], by simp [width, h], by simp [refused, h]⟩
  | cons m rest =>
    rw [runShape_of_two_le (by simp)] at h
    exact ⟨by simp [schedule, h], by simp [width, h], by simp [refused, h]⟩

theorem sounds_of_shapes {ts : List Token} {rows : List (List Text)} (hne : ∀ row ∈ rows, row ≠ [])
    (h : ts.map Token.shape = rows.map runShape) : List.Forall₂ Token.Sounds ts rows := by
  induction rows generalizing ts with
  | nil =>
    rw [List.map_eq_nil_iff.mp h]
    exact .nil
  | cons row rows ih =>
    obtain ⟨t, ts, rfl, ht, hts⟩ := List.map_eq_cons_iff.mp h
    exact .cons (Token.sounds_of_shape (hne row List.mem_cons_self) ht)
      (ih (fun r hr => hne r (List.mem_cons_of_mem _ hr)) hts)

/-- What is skipped of labels, and why: those that lead to no key. -/
def lostOf (table : List Layout.Address) (ls : List Text) : List (Text × Skipped.Reason) :=
  ls.filterMap fun l => if (Layout.resolveIn table l).isNone then some (l, .noKey l) else none

theorem lostOf_append (table : List Layout.Address) (ls ms : List Text) :
    lostOf table (ls ++ ms) = lostOf table ls ++ lostOf table ms :=
  List.filterMap_append

/-- What is skipped, and why, wherever it stands. -/
def Skipped.account (k : Skipped) : Text × Reason := (k.text, k.reason)

theorem Token.Sounds.lost_eq {t : Token} {ls : List Text} (h : t.Sounds ls)
    (table : List Layout.Address) : (t.lost table).map Skipped.account = lostOf table ls := by
  conv_rhs => rw [← List.zipIdx_map_fst 0 ls, lostOf, List.filterMap_map]
  rw [Token.lost, h.schedule_eq, List.map_filterMap]
  refine List.filterMap_congr fun entry _ => ?_
  simp only [Function.comp_apply]
  split_ifs <;> rfl

section

variable {ts : List Token} {rows : List (List Text)}

/-- The labels of tokens fall on one step after another. -/
theorem placesFrom_of_sounds (h : List.Forall₂ Token.Sounds ts rows) (step : Nat) :
    placesFrom step ts = rows.flatten.zipIdx step := by
  induction h generalizing step with
  | nil => rfl
  | @cons t row ts rows ht _ ih =>
    rw [placesFrom, ih, ht.width_eq, ht.schedule_eq, List.flatten_cons, List.zipIdx_append]
    exact congrArg (· ++ _) List.zipIdx_eq_map_add.symm

theorem widthOf_of_sounds (h : List.Forall₂ Token.Sounds ts rows) :
    widthOf ts = rows.flatten.length := by
  induction h with
  | nil => rfl
  | @cons t row ts rows ht _ ih =>
    rw [List.flatten_cons, List.length_append, ← ih, ← ht.width_eq]
    rfl

theorem skippedIn_of_sounds (h : List.Forall₂ Token.Sounds ts rows)
    (table : List Layout.Address) :
    (skippedIn table ts).map Skipped.account = lostOf table rows.flatten := by
  induction h with
  | nil => rfl
  | @cons t row ts rows ht _ ih =>
    have hskipped : skippedIn table (t :: ts) = t.lost table ++ t.refused ++ skippedIn table ts :=
      rfl
    rw [hskipped, ht.refused_eq, List.append_nil, List.map_append, ht.lost_eq, ih,
      List.flatten_cons, lostOf_append]

end

/-! ## §3 What labels say -/

section

variable {F R : Type} [Scalar R]

/-- What a reading says, wherever the text has its words: the notes, what is skipped and why, and
how many steps it takes. -/
structure Saying (R : Type) [Scalar R] where
  notes : List (Note R)
  skipped : List (Text × Skipped.Reason)
  steps : Nat

/-- What a reading says. -/
def Reading.saying (r : Reading R) : Saying R := ⟨r.notes, r.skipped.map Skipped.account, r.steps⟩

/-- What labels say one after another, each on a step of its own. -/
def oneByOne (layout : Layout F) (g : Grid R) (ls : List Text) : Except Fault (Saying R) := do
  let notes ← (keysAt layout.addresses ls.zipIdx).mapM g.strike
  return ⟨notes, lostOf layout.addresses ls, ls.length⟩

/-- **A text of labels says its labels one after another**, however they are put into words. -/
theorem saying_of_rows (layout : Layout F) (g : Grid R) {text : Text} {rows : List (List Text)}
    (hne : ∀ row ∈ rows, row ≠ []) (htext : textShapes text = rows.map runShape) :
    (read layout g text).map Reading.saying = oneByOne layout g rows.flatten := by
  have hsounds := sounds_of_shapes hne ((tokens_shape text).trans htext)
  rw [read_outline, strikes, placesFrom_of_sounds hsounds, oneByOne]
  cases (keysAt layout.addresses rows.flatten.zipIdx).mapM g.strike with
  | error e => rfl
  | ok notes =>
    show Except.ok (Saying.mk notes ((skips layout text).map Skipped.account) (stepsOf text)) = _
    rw [skips, skippedIn_of_sounds hsounds, stepsOf, widthOf_of_sounds hsounds]
    rfl

/-- In exact arithmetic labels can always be said. -/
theorem oneByOne_rat (layout : Layout F) (g : Grid Rat) (ls : List Text) :
    oneByOne layout g ls = .ok ⟨(keysAt layout.addresses ls.zipIdx).map fun place =>
      g.note place.1 place.2, lostOf layout.addresses ls, ls.length⟩ := by
  rw [oneByOne, Except.mapM_eq_map fun place _ => g.strike_rat place]
  rfl

end

/-! ## §4 Ways to write labels -/

/-- The ways to write labels one after another. -/
inductive Way where
  | joined
  | spaced
  | lined
deriving DecidableEq

/-- What stands between two labels. -/
def Way.separator : Way → Text
  | joined => []
  | spaced => " "
  | lined => "\n"

/-- Labels as they are written in a way. -/
def Way.write (way : Way) (written : List Handwritten) : Text :=
  Text.join way.separator (written.map Handwritten.text)

/-- Measures that always end, or never do, have the same between any two tokens. -/
theorem measureText_eq_join {perLine : Nat} {separator : Text}
    (h : ∀ step, (↑(if (step + 1) % perLine = 0 then "\n" else " ") : Text) = separator)
    (ws : List Text) : measureText perLine 0 ws = Text.join separator ws := by
  have hrest (step : Nat) (w : Text) (ws : List Text) :
      w ++ measureText perLine (step + 1) ws = Text.join separator (w :: ws) := by
    induction ws generalizing step w with
    | nil => exact List.append_nil w
    | cons v ws ih =>
      show w ++ ((↑(if (step + 1) % perLine = 0 then "\n" else " ") : Text) ++ v ++
        measureText perLine (step + 1 + 1) ws) = w ++ separator ++ Text.join separator (v :: ws)
      rw [h, List.append_assoc, ih, List.append_assoc]
  cases ws with
  | nil => rfl
  | cons w ws => exact hrest 0 w ws

/-- The tokens of labels, in whichever way these are written. -/
theorem exists_runs (way : Way) (written : List Handwritten) : ∃ rows : List (List Text),
    (∀ row ∈ rows, row ≠ []) ∧ rows.flatten = written.map Handwritten.plain ∧
      textShapes (way.write written) = rows.map runShape := by
  -- Labels that stand apart are a token each
  have hapart (perLine : Nat) (h : ∀ step,
      (↑(if (step + 1) % perLine = 0 then "\n" else " ") : Text) = way.separator) :
      ∃ rows : List (List Text), (∀ row ∈ rows, row ≠ []) ∧
        rows.flatten = written.map Handwritten.plain ∧
          textShapes (way.write written) = rows.map runShape := by
    refine ⟨written.map fun h => [h.plain], by simp,
      by rw [← List.flatMap_def, List.map_eq_flatMap], ?_⟩
    rw [Way.write, ← measureText_eq_join h, textShapes_measureText]
    · rw [List.map_map, List.map_map]
      exact List.map_congr_left fun h _ => shapeOf_of_labels? h.isWord_text h.labels?_text
    · intro w hw
      obtain ⟨h, -, rfl⟩ := List.mem_map.mp hw
      exact standsAlone_word h.isWord_text.1 fun p hp => (h.isPlain_text p hp).imp_right And.left
  cases way with
  | spaced => exact hapart 0 fun step => congrArg Text.ofString (if_neg (by simp))
  | lined => exact hapart 1 fun step => congrArg Text.ofString (if_pos (Nat.mod_one _))
  | joined =>
    -- Labels that are put together are one token, if there are any
    rcases eq_or_ne written [] with rfl | hne
    · exact ⟨[], by simp, rfl, rfl⟩
    · have hword := isWord_texts hne
      have halone : StandsAlone (written.map Handwritten.text).flatten :=
        standsAlone_word hword.1 fun p hp => (isPlain_of_mem hp).imp_right And.left
      refine ⟨[written.map Handwritten.plain], by simpa using hne, by simp, ?_⟩
      rw [Way.write, Way.separator, Text.join_nil, halone.textShapes_eq,
        shapeOf_of_labels? hword (labels?_texts hne)]
      rfl

/-! ## §5 Groups of labels -/

/-- A group of words that are made of labels is one token, the chord of these. -/
theorem tokens_group (rows : List (List Text)) {w : Text}
    (hw : ∀ p ∈ w, IsPlain p ∨ p = .char ' ')
    (hrows : (Text.words w).map Token.ofMember = rows.map fun row => (row, [])) :
    tokens ("(" ++ w ++ ")") = [⟨.chord rows.flatten [], "(" ++ w ++ ")", 1, 1⟩] := by
  have hparentheses : ∀ p ∈ w, p ≠ .char '(' ∧ p ≠ .char ')' := by
    intro p hp
    rcases hw p hp with hplain | rfl
    · exact hplain.2
    · exact ⟨by decide, by decide⟩
  have hends : ∀ p ∈ w, Text.isLineEnd p = false := by
    intro p hp
    rcases hw p hp with hplain | rfl
    · exact Text.isLineEnd_eq_false_of_not_blank hplain.1
    · decide
  have halone := standsAlone_group hparentheses hends
  -- The members add their labels, and none is refused
  have hlabels : (Text.words w).flatMap memberLabels = rows.flatten := by
    have h := congrArg (List.flatMap Prod.fst) hrows
    rwa [List.flatMap_map, List.flatMap_map, List.flatMap_id'] at h
  have hinvalid : ((Text.words w).flatMap fun m => (Token.ofMember m).2) = [] := by
    have h := congrArg (List.flatMap Prod.snd) hrows
    rw [List.flatMap_map, List.flatMap_map] at h
    exact h.trans (by simp)
  have hshape : Token.shapeOf ("(" ++ w ++ ")") = .chord rows.flatten [] := by
    rw [shapeOf_group rfl, groupBody_closed, hlabels, hinvalid]
  rw [tokens, Text.lines_word halone.no_line_end halone.ne_nil, tokensFrom, lineTokens,
    pieces_group hparentheses]
  show [classify ("(" ++ w ++ ")") 1 1] = _
  rw [classify, hshape]

/-- Labels in a group make a chord, whether they are put together or written with spaces. -/
theorem tokens_chord (written : List Handwritten) (way : Way) (hway : way ≠ .lined) :
    tokens ("(" ++ way.write written ++ ")") =
      [⟨.chord (written.map Handwritten.plain) [], "(" ++ way.write written ++ ")", 1, 1⟩] := by
  cases way with
  | lined => exact absurd rfl hway
  | spaced =>
    have hplain : ∀ p ∈ Way.spaced.write written, IsPlain p ∨ p = .char ' ' := by
      intro p hp
      rcases Text.mem_join hp with rfl | ⟨w, hw, hp⟩
      · exact .inr rfl
      · exact .inl (isPlain_of_mem (List.mem_flatten.mpr ⟨w, hw, hp⟩))
    have hwords : Text.words (Way.spaced.write written) = written.map Handwritten.text :=
      Text.words_join fun w hw => isWord_of_mem hw
    rw [tokens_group (written.map fun h => [h.plain]) hplain]
    · rw [← List.flatMap_def, List.map_eq_flatMap]
    · rw [hwords, List.map_map, List.map_map]
      exact List.map_congr_left fun h _ => h.ofMember_text
  | joined =>
    have hwrite : Way.joined.write written = (written.map Handwritten.text).flatten := Text.join_nil _
    rw [hwrite]
    have hplain : ∀ p ∈ (written.map Handwritten.text).flatten, IsPlain p ∨ p = .char ' ' :=
      fun p hp => .inl (isPlain_of_mem hp)
    rcases eq_or_ne written [] with rfl | hne
    · exact tokens_group [] hplain rfl
    · have hword := isWord_texts hne
      rw [tokens_group [written.map Handwritten.plain] hplain]
      · simp
      · rw [Text.words_word hword]
        exact congrArg ([·]) (ofMember_of_labels? hword (labels?_texts hne))

/-- **All ways to write labels say the same**, whichever signs they have: the labels one after
another, each with the glyph for every sign and on a step of its own. In exact arithmetic this never
fails. A group has the same chord for labels that are put together and for labels with spaces, and
is read the same. -/
theorem ways_agree {F R : Type} [Scalar R] (layout : Layout F) (g : Grid R) (exact : Grid Rat)
    (written : List Handwritten) :
    (∀ way : Way, (read layout g (way.write written)).map Reading.saying =
      oneByOne layout g (written.map Handwritten.plain)) ∧
    (∃ saying, oneByOne layout exact (written.map Handwritten.plain) = .ok saying) ∧
    (∀ way : Way, way ≠ .lined → tokens ("(" ++ way.write written ++ ")") =
      [⟨.chord (written.map Handwritten.plain) [], "(" ++ way.write written ++ ")", 1, 1⟩]) ∧
    read layout g ("(" ++ Way.joined.write written ++ ")") =
      read layout g ("(" ++ Way.spaced.write written ++ ")") := by
  refine ⟨fun way => ?_, ⟨_, oneByOne_rat layout exact _⟩, tokens_chord written, ?_⟩
  · obtain ⟨rows, hne, hflatten, htext⟩ := exists_runs way written
    rw [saying_of_rows layout g hne htext, hflatten]
  · have hjoined := tokens_chord written .joined (by decide)
    have hspaced := tokens_chord written .spaced (by decide)
    unfold read
    rw [hjoined, hspaced]
    rfl

end Tab

end Lamella
