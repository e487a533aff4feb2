import Lamella.Command.Run
import Lamella.Proofs.Command.Sayings

/-!
# What a terminal shows

Text is shown after its tags were followed, and a tag can be a fault: one that closes what was not
opened, or that names a style which cannot be read. Text without tags can be shown after a word in a
colour. Text in a colour can be shown whatever it holds, if it was escaped: no tag of it is left that
is followed. Text without any marks is shown as it is. So a terminal is a lawful screen; text that is
shown can be printed if there are no halves of characters in it, which have no bytes.

## Main definitions

- `Markup.Reads`: markup that can be shown.
- `Markup.IsColour`: words that name a colour and are no tag of another kind.
- `Markup.Chunk.IsHarmless`: parts of a text that are shown without following a tag.

## Main statements

- `Markup.reads_coloured`: text after a word in a colour can be shown if it has no tags.
- `Markup.reads_escaped`: so can text in a colour that was escaped.
- `Markup.not_reads_of_chunks`: text cannot that closes a tag after all of them were closed.
- `Markup.shown_of_plain`: text without marks is shown as it is.
- `Markup.not_half_shown`: text is shown without halves of characters that has none.
- `Screen.terminal_lawful`: a terminal is a lawful screen.
-/

namespace Lamella

/-! ## §1 Text without tags -/

namespace Markup

/-- Markup that can be shown. -/
def Reads (markup : Text) : Prop := ∃ text, shown markup = .ok text

theorem chunksAfter_of_no_bracket {s : Text} (h : ∀ p ∈ s, p ≠ .char '[') (slashes : Nat) :
    ∀ chunk ∈ chunksAfter slashes s, ∀ n name, chunk ≠ .tag n name := by
  induction s generalizing slashes with
  | nil =>
    rw [chunksAfter]
    simp
  | cons c rest ih =>
    have hc : c ≠ .char '[' := h c List.mem_cons_self
    have hrest : ∀ p ∈ rest, p ≠ .char '[' := fun p hp => h p (List.mem_cons_of_mem c hp)
    rw [chunksAfter, if_neg hc]
    split
    · exact ih hrest (slashes + 1)
    · exact List.forall_mem_cons.mpr ⟨fun n name h => Chunk.noConfusion h, ih hrest 0⟩

/-- Without tags nothing is opened or styled. -/
theorem pageAfter_of_no_tag {chunks : List Chunk}
    (h : ∀ chunk ∈ chunks, ∀ n name, chunk ≠ .tag n name) (page : Page) (plain : Text) :
    ∃ s, pageAfter page plain chunks = .ok (page.write s) := by
  induction chunks generalizing plain with
  | nil => exact ⟨_, rfl⟩
  | cons chunk rest ih =>
    obtain ⟨hchunk, hrest⟩ := List.forall_mem_cons.mp h
    cases chunk with
    | plain n c => exact ih hrest _
    | tag n name => exact absurd rfl (hchunk n name)
    | final n => exact ih hrest _

end Markup

/-! ## §2 Colours -/

/-- A word that names a colour: it is of small letters, and names no attribute. -/
structure Markup.IsColour (name : String) : Prop where
  letters : (name.toList.all fun c => 'a' ≤ c ∧ c ≤ 'z') = true
  nonempty : name.toList ≠ []
  word : Text.strip name = ↑name ∧ Text.words name = [↑name] ∧ Text.lower name = ↑name
  apart : (↑name : Text) ≠ "none" ∧ Style.attribute? name = none

namespace Markup.IsColour

variable {name : String}

theorem letter_of_mem (h : IsColour name) {c : Char} (hc : c ∈ name.toList) : 'a' ≤ c ∧ c ≤ 'z' :=
  of_decide_eq_true (List.all_eq_true.mp h.letters c hc)

theorem ne_of_mem (h : IsColour name) {c : Char} (hc : ¬ ('a' ≤ c ∧ c ≤ 'z')) :
    ∀ p ∈ (↑name : Text), p ≠ .char c := by
  refine List.forall_mem_map.mpr fun d hd heq => hc ?_
  obtain rfl := Point.char.inj heq
  exact h.letter_of_mem hd

theorem isColour (h : IsColour name) :
    Style.isColour name = .ok true ∨ Style.isColour name = .ok false := by
  have hbracket : '(' ∉ name.toList := fun hmem => absurd (h.letter_of_mem hmem) (by decide)
  have hnone (other : List Char) : Style.parameters? other name.toList = none := by
    unfold Style.parameters?
    refine if_neg fun ⟨hbegins, _⟩ => hbracket ?_
    exact (List.isPrefixOf_iff_prefix.mp hbegins).subset (by simp)
  have hchars : Text.chars? (↑name : Text) = some name.toList := Text.chars?_ofChars _
  rw [Style.isColour, hchars, Option.elim_some]
  unfold Style.isColourOfChars
  by_cases hnamed : String.ofList name.toList ∈ Style.colours
  · exact .inl (if_pos hnamed)
  · rw [if_neg hnamed, hnone, hnone]
    right
    split
    · rename_i ds hds
      exact absurd (h.letter_of_mem (c := '#') (hds ▸ List.mem_cons_self)) (by decide)
    · contradiction
    · contradiction
    · rfl

/-- Such a word says a colour or nothing. -/
theorem ofText (h : IsColour name) : Style.ofText? name = .ok none ∨
    Style.ofText? name = .ok (some { colour := some (↑name : Text) }) := by
  obtain ⟨hstrip, hwords, hlower⟩ := h.word
  have hword : Style.ofWords {} [↑name] = (do
      if ← Style.isColour name then
        Style.ofWords { colour := some (↑name : Text) } []
      else return none) := by
    rw [Style.ofWords.eq_def]
    simp only [hlower, h.apart.2]
    split
    · contradiction
    · contradiction
    · contradiction
    · rfl
  rw [Style.ofText?, hstrip, if_neg h.apart.1, hwords, hword]
  rcases h.isColour with hcolour | hcolour
  · right
    rw [hcolour, Except.ok_bind, if_pos rfl, Style.ofWords]
  · left
    rw [hcolour, Except.ok_bind, if_neg Bool.false_ne_true]
    rfl

/-- Such a word is its own normal form. -/
theorem normal (h : IsColour name) : Style.normal name = .ok ↑name := by
  have htext : Style.text { colour := some (↑name : Text) } = ↑name := by
    simp [Style.text, Text.join]
  unfold Style.normal
  rcases h.ofText with hread | hread
  · rw [hread, Except.ok_bind, h.word.1]
    exact congrArg _ h.word.2.2
  · rw [hread, Except.ok_bind]
    exact congrArg Except.ok htext

end Markup.IsColour

theorem Markup.isColour_green : IsColour "green" where
  letters := by decide
  nonempty := by decide
  word := by decide +kernel
  apart := by decide

theorem Markup.isColour_yellow : IsColour "yellow" where
  letters := by decide
  nonempty := by decide
  word := by decide +kernel
  apart := by decide

/-! ## §3 Tags of colours -/

/-- The tag that text is shown in a colour with. -/
def Markup.Tag.ofColour (name : String) : Tag := ⟨name, none⟩

namespace Markup

variable {name : String}

/-- What has no brackets reaches to the next one. -/
theorem toBracket?_append {name : Text} (hname : ∀ p ∈ name, p ≠ .char '[' ∧ p ≠ .char ']')
    (rest : Text) : toBracket? (name ++ .char ']' :: rest) = some (name, rest) := by
  induction name with
  | nil => rfl
  | cons c name ih =>
    obtain ⟨⟨hopen, hclose⟩, hname⟩ := List.forall_mem_cons.mp hname
    rw [List.cons_append, toBracket?, if_neg hclose, if_neg hopen, ih hname]
    rfl

/-- What reaches to a bracket has none before it. -/
theorem ne_bracket_of_toBracket? {s name after : Text} (h : toBracket? s = some (name, after)) :
    ∀ p ∈ name, p ≠ .char '[' ∧ p ≠ .char ']' := by
  induction s generalizing name with
  | nil => cases h
  | cons c s ih =>
    rw [toBracket?] at h
    split at h
    · cases h
      exact List.forall_mem_nil _
    split at h
    · cases h
    · rename_i hclose hopen
      obtain ⟨⟨name, after⟩, hrest, heq⟩ := Option.map_eq_some_iff.mp h
      cases heq
      exact List.forall_mem_cons.mpr ⟨⟨hopen, hclose⟩, ih hrest⟩

/-- A tag begins at a bracket and ends at the next one. -/
theorem tag?_append {name : Text} (hbegins : name.head?.any beginsTag = true)
    (hname : ∀ p ∈ name, p ≠ .char '[' ∧ p ≠ .char ']') (rest : Text) :
    tag? (name ++ .char ']' :: rest) = some (name, rest) := by
  cases name with
  | nil => cases hbegins
  | cons c name =>
    have hc : beginsTag c = true := hbegins
    rw [List.cons_append, tag?, if_pos hc, toBracket?_append (List.forall_mem_cons.mp hname).2]
    rfl

namespace IsColour

theorem tag?_open (h : IsColour name) (rest : Text) :
    tag? (↑name ++ .char ']' :: rest) = some (↑name, rest) := by
  refine tag?_append ?_ (fun p hp => ⟨h.ne_of_mem (by decide) p hp, h.ne_of_mem (by decide) p hp⟩) rest
  obtain ⟨c, cs, hname⟩ := List.exists_cons_of_ne_nil h.nonempty
  have hc := h.letter_of_mem (hname ▸ List.mem_cons_self)
  have hhead : (↑name : Text).head? = some (.char c) := by
    rw [Text.ofString, hname]
    rfl
  rw [hhead]
  simp [beginsTag, hc]

theorem tag?_close (h : IsColour name) (rest : Text) :
    tag? (.char '/' :: (↑name ++ .char ']' :: rest)) = some (.char '/' :: ↑name, rest) := by
  refine @tag?_append (.char '/' :: ↑name) rfl (List.forall_mem_cons.mpr ⟨by decide, ?_⟩) rest
  exact fun p hp => ⟨h.ne_of_mem (by decide) p hp, h.ne_of_mem (by decide) p hp⟩

end IsColour

theorem chunksAfter_tag {slashes : Nat} {rest name after : Text}
    (h : tag? rest = some (name, after)) :
    chunksAfter slashes (.char '[' :: rest) = .tag slashes name :: chunksAfter 0 after := by
  have hslash : Point.char '[' ≠ .char '\\' := by decide
  rw [chunksAfter, if_neg hslash, if_pos rfl]
  split
  · rename_i found hfound
    rw [h] at hfound
    cases hfound
    rfl
  · rename_i hnone
    rw [h] at hnone
    cases hnone

theorem chunksAfter_append {s : Text} (h : ∀ p ∈ s, p ≠ .char '[' ∧ p ≠ .char '\\') (rest : Text) :
    chunksAfter 0 (s ++ rest) = s.map (.plain 0) ++ chunksAfter 0 rest := by
  induction s with
  | nil => rfl
  | cons c s ih =>
    obtain ⟨⟨hopen, hslash⟩, hs⟩ := List.forall_mem_cons.mp h
    rw [List.cons_append, chunksAfter, if_neg hslash, if_neg hopen, ih hs]
    rfl

/-! ## §4 Pages -/

namespace Page

/-- A tag of a colour opens it. -/
theorem follow_open (h : IsColour name) (p : Page) :
    p.follow name = .ok (p.openTag (.ofColour name)) := by
  have hname : Tag.ofText name = .ok (.ofColour name) := by
    have hequals := h.ne_of_mem (c := '=') (by decide)
    have hwhole : (Text.ofString name).takeWhile (fun (c : Point) => decide (c ≠ '=')) =
        Text.ofString name :=
      List.takeWhile_eq_self_iff.mpr fun p hp => decide_eq_true (hequals p hp)
    have hnone : (Text.ofString name).dropWhile (fun (c : Point) => decide (c ≠ '=')) = [] :=
      List.dropWhile_eq_nil_iff.mpr fun p hp => decide_eq_true (hequals p hp)
    unfold Tag.ofText
    simp only [hwhole, hnone, h.normal]
    rfl
  have hslash := h.ne_of_mem (c := '/') (by decide)
  unfold follow
  split
  · rename_i heq
    exact absurd rfl (hslash _ (heq ▸ List.mem_cons_self))
  · rw [hname]
    rfl

/-- A closing tag of the colour that is open closes it. -/
theorem follow_close (h : IsColour name) {p : Page} {start : Nat}
    (hopened : p.opened = [(.ofColour name, start)]) :
    p.follow (.char '/' :: ↑name) =
      .ok { p with opened := [], spans := ⟨start, p.count, name⟩ :: p.spans } := by
  have hwhole : (Text.ofString name).takeWhile (fun (c : Point) => decide (c ≠ '=')) =
      Text.ofString name :=
    List.takeWhile_eq_self_iff.mpr fun p hp =>
      decide_eq_true (h.ne_of_mem (c := '=') (by decide) p hp)
  have hne : Text.ofString name ≠ [] := fun hnil => h.nonempty (List.map_eq_nil_iff.mp hnil)
  have hfollow : p.follow (.char '/' :: ↑name) = (do
      let name := Text.strip ((Text.ofString name).takeWhile fun (c : Point) => decide (c ≠ '='))
      p.closeTag (← if name = [] then pure [] else Style.normal name)) := rfl
  have hstyle : (Tag.ofColour name).style = ↑name := rfl
  have hreactive : (Tag.ofColour name).isReactive = false := by
    have hat := h.ne_of_mem (c := '@') (by decide)
    unfold Tag.isReactive
    refine decide_eq_false fun hhead => hat _ (List.mem_of_mem_head? hhead) rfl
  have hclose : (Tag.ofColour name).close = .ok () := by
    unfold Tag.close
    rw [if_pos (by simp [hreactive])]
  rw [hfollow]
  dsimp only
  rw [hwhole, h.word.1, if_neg hne, h.normal, Except.ok_bind]
  unfold closeTag take?
  rw [if_neg hne, hopened]
  simp only [if_pos (show (Tag.ofColour name).name = ↑name from rfl), hclose, hreactive, hstyle]
  rfl

/-- A closing tag closes nothing where nothing is open. -/
theorem exists_follow_of_not_opened {p : Page} (hopened : p.opened = []) (closed : Text) :
    ∃ fault, p.follow (.char '/' :: closed) = .error fault := by
  have hclose (name : Text) : p.closeTag name = .error (.unopenedTag name) := by
    unfold closeTag
    rw [hopened]
    split <;> rfl
  have hfollow : p.follow (.char '/' :: closed) = (do
      let name := Text.strip (closed.takeWhile fun (c : Point) => decide (c ≠ '='))
      p.closeTag (← if name = [] then pure [] else Style.normal name)) := rfl
  rw [hfollow]
  dsimp only
  split
  · exact ⟨_, hclose []⟩
  · cases Style.normal _ with
    | error fault => exact ⟨fault, rfl⟩
    | ok name => exact ⟨_, hclose name⟩

end Page

/-- Parts of a text that are shown without following a tag: characters, and tags that were made
plain. -/
def Chunk.IsHarmless : Chunk → Prop
  | .plain _ _ => True
  | .tag n _ => n % 2 = 1
  | .final _ => False

/-- Harmless parts are written, and leave what is open and what was styled. -/
theorem pageAfter_harmless {chunks : List Chunk} (h : ∀ chunk ∈ chunks, chunk.IsHarmless) (page : Page)
    (plain : Text) (rest : List Chunk) : ∃ s plain',
      pageAfter page plain (chunks ++ rest) = pageAfter (page.write s) plain' rest := by
  induction chunks generalizing page plain with
  | nil => exact ⟨[], plain, rfl⟩
  | cons chunk chunks ih =>
    obtain ⟨hchunk, hchunks⟩ := List.forall_mem_cons.mp h
    have hwrite (s t : Text) : (page.write s).write t = page.write (s ++ t) := by
      simp [Page.write, Nat.add_assoc]
    cases chunk with
    | plain n c => exact ih hchunks page _
    | tag n name =>
      have hodd : n % 2 = 1 := hchunk
      rw [List.cons_append, pageAfter, if_pos hodd, hwrite, hwrite]
      obtain ⟨s, plain', hrest⟩ := ih hchunks (page.write _) []
      rw [hwrite] at hrest
      exact ⟨_, plain', hrest⟩
    | final n => exact absurd hchunk id

end Markup

/-- Styles that can be read are looked at without a fault. -/
theorem Markup.Page.checkStyles_eq_ok {p : Page}
    (h : ∀ span ∈ p.styled, ∃ style, Style.ofText? span.style = .ok style) :
    p.checkStyles = .ok () := by
  have hall (f : Span → Except Fault Unit) (spans : List Span)
      (hf : ∀ span ∈ spans, f span = .ok ()) : spans.forM f = .ok () := by
    induction spans with
    | nil => rfl
    | cons span spans ih =>
      obtain ⟨hspan, hspans⟩ := List.forall_mem_cons.mp hf
      show (f span >>= fun _ => spans.forM f) = _
      rw [hspan, Except.ok_bind, ih hspans]
  refine hall _ _ fun span hspan => ?_
  obtain ⟨style, hstyle⟩ := h span hspan
  rw [hstyle]
  cases p.needsStyle span <;> rfl

open Markup in
/-- What is harmless in a colour is written up to the closing tag, and nothing is open after it. -/
theorem Markup.pageAfter_coloured {name : String} (hname : IsColour name) {cs : List Chunk}
    (hcs : ∀ chunk ∈ cs, chunk.IsHarmless) {slashes : Nat} (hslashes : ¬ slashes % 2 = 1)
    (rest : List Chunk) : ∃ page : Page, page.opened = [] ∧ (∀ span ∈ page.spans, span.style = name) ∧
      pageAfter {} [] (.tag 0 name :: (cs ++ .tag slashes (.char '/' :: ↑name) :: rest)) =
        pageAfter page [] rest := by
  -- The pages before the first tag, in the colour, and before the last tag
  let first : Page := (({} : Page).write (seen [])).write (backslashes 0)
  obtain ⟨s, plain, hcoloured⟩ := pageAfter_harmless hcs (first.openTag (.ofColour name)) []
    (.tag slashes (.char '/' :: ↑name) :: rest)
  let last : Page :=
    (((first.openTag (.ofColour name)).write s).write (seen plain.reverse)).write
      (backslashes (slashes / 2))
  have hopened : last.opened = [(.ofColour name, first.count)] := rfl
  refine ⟨{ last with opened := [], spans := [⟨first.count, last.count, name⟩] }, rfl, ?_, ?_⟩
  · intro span hspan
    rw [List.mem_singleton.mp hspan]
  · show (do pageAfter (← first.follow name) [] _) = _
    rw [Page.follow_open hname, Except.ok_bind, hcoloured, pageAfter, if_neg hslashes]
    show (do pageAfter (← last.follow (.char '/' :: ↑name)) [] rest) = _
    rw [Page.follow_close hname hopened, Except.ok_bind]
    rfl

open Markup in
/-- Text can be shown that is harmless in a colour, up to a closing tag, and has no tags after it. The
closing tag may have been made plain: then the colour reaches to the end. -/
theorem Markup.reads_of_chunks {name : String} (hname : IsColour name) {cs : List Chunk}
    (hcs : ∀ chunk ∈ cs, chunk.IsHarmless) {slashes : Nat} {markup t : Text}
    (ht : ∀ p ∈ t, p ≠ .char '[')
    (h : chunks markup = .tag 0 name :: (cs ++ .tag slashes (.char '/' :: ↑name) :: chunksAfter 0 t)) :
    Reads markup := by
  have hstyle : ∃ style, Style.ofText? name = .ok style := by
    rcases hname.ofText with h | h
    · exact ⟨_, h⟩
    · exact ⟨_, h⟩
  -- Either way all that is styled is in the colour
  suffices ∃ page, pageAfter {} [] (chunks markup) = .ok page ∧
      ∀ span ∈ page.styled, span.style = name by
    obtain ⟨page, hpage, hspans⟩ := this
    refine ⟨page.text, ?_⟩
    unfold shown
    rw [hpage, Except.ok_bind, Page.checkStyles_eq_ok fun span hspan => hspans span hspan ▸ hstyle]
    rfl
  rw [h]
  by_cases hplain : slashes % 2 = 1
  · let first : Page := (({} : Page).write (seen [])).write (backslashes 0)
    have hharmless : ∀ chunk ∈ cs ++ [.tag slashes (.char '/' :: ↑name)], chunk.IsHarmless :=
      List.forall_mem_append.mpr ⟨hcs, List.forall_mem_singleton.mpr hplain⟩
    obtain ⟨s, plain, hcoloured⟩ := pageAfter_harmless hharmless
      (first.openTag (.ofColour name)) [] (chunksAfter 0 t)
    obtain ⟨u, hu⟩ := pageAfter_of_no_tag (chunksAfter_of_no_bracket ht 0)
      ((first.openTag (.ofColour name)).write s) plain
    refine ⟨((first.openTag (.ofColour name)).write s).write u, ?_, fun span hspan => ?_⟩
    · show (do pageAfter (← first.follow name) [] _) = _
      rw [Page.follow_open hname, Except.ok_bind, List.append_cons, hcoloured, hu]
    · rw [List.mem_singleton.mp hspan]
      rfl
  · obtain ⟨page, hopened, hspans, hpage⟩ :=
      pageAfter_coloured hname hcs hplain (chunksAfter 0 t)
    obtain ⟨u, hu⟩ := pageAfter_of_no_tag (chunksAfter_of_no_bracket ht 0) page []
    refine ⟨_, hpage.trans hu, fun span hspan => hspans span ?_⟩
    have hstyled : (page.write u).styled = page.spans := by
      unfold Page.styled
      rw [show (page.write u).opened = [] from hopened]
      rfl
    rwa [hstyled] at hspan

open Markup in
/-- **Text cannot be shown that closes a tag after all of them were closed.** -/
theorem Markup.not_reads_of_chunks {name : String} (hname : IsColour name) {cs ds rest : List Chunk}
    (hcs : ∀ chunk ∈ cs, chunk.IsHarmless) (hds : ∀ chunk ∈ ds, chunk.IsHarmless)
    {markup closed : Text} (h : chunks markup = .tag 0 name ::
      (cs ++ .tag 0 (.char '/' :: ↑name) :: (ds ++ .tag 0 (.char '/' :: closed) :: rest))) :
    ¬ Reads markup := by
  obtain ⟨page, hopened, -, hpage⟩ := @pageAfter_coloured name hname cs hcs 0 (by decide)
    (ds ++ .tag 0 (.char '/' :: closed) :: rest)
  obtain ⟨s, plain, hwritten⟩ :=
    pageAfter_harmless hds page [] (.tag 0 (.char '/' :: closed) :: rest)
  obtain ⟨fault, hfault⟩ := Page.exists_follow_of_not_opened
    (p := ((page.write s).write (seen plain.reverse)).write (backslashes 0)) hopened closed
  have hstuck : pageAfter {} [] (chunks markup) = .error fault := by
    rw [h, hpage, hwritten]
    show (do pageAfter (← Page.follow _ (.char '/' :: closed)) [] rest) = _
    rw [hfault]
    rfl
  rintro ⟨text, hshown⟩
  unfold shown at hshown
  rw [hstuck] at hshown
  cases hshown

open Markup in
/-- **Text after a word in a colour can be shown** if it has no tags. -/
theorem Markup.reads_coloured {name : String} (hname : IsColour name) {s t : Text}
    (hs : ∀ p ∈ s, p ≠ .char '[' ∧ p ≠ .char '\\') (ht : ∀ p ∈ t, p ≠ .char '[') :
    Reads (.char '[' :: (Text.ofString name ++ .char ']' :: (s ++ .char '[' :: .char '/' ::
      (Text.ofString name ++ .char ']' :: t)))) := by
  refine @reads_of_chunks name hname (s.map (.plain 0)) ?_ 0 _ t ht ?_
  · exact List.forall_mem_map.mpr fun _ _ => trivial
  · refine (chunksAfter_tag (hname.tag?_open _)).trans (congrArg _ ?_)
    exact (chunksAfter_append hs _).trans (congrArg _ (chunksAfter_tag (hname.tag?_close t)))

/-! ## §5 Escaped text -/

namespace Markup

/-- What is written of a part of a text that is escaped. -/
def Chunk.escaped : Chunk → Text
  | .plain n c => backslashes n ++ [c]
  | .tag n name => backslashes (2 * n + 1) ++ "[" ++ name ++ "]"
  | .final n => backslashes (if n = 1 then 2 else n)

/-- What is written of the rest of a text that is escaped, after some backslashes. -/
def escapedAfter (slashes : Nat) (s : Text) : Text := (chunksAfter slashes s).flatMap Chunk.escaped

theorem escape_eq (s : Text) : escape s = escapedAfter 0 s := rfl

theorem chunksAfter_backslashes (count slashes : Nat) (rest : Text) :
    chunksAfter slashes (backslashes count ++ rest) = chunksAfter (slashes + count) rest := by
  induction count generalizing slashes with
  | zero => rfl
  | succ count ih =>
    have hcons : backslashes (count + 1) ++ rest = .char '\\' :: (backslashes count ++ rest) := rfl
    rw [hcons, chunksAfter, if_pos rfl, ih]
    congr 1
    omega

theorem toBracket?_backslashes (count : Nat) (rest : Text) (h : toBracket? rest = none) :
    toBracket? (backslashes count ++ rest) = none := by
  induction count with
  | zero => exact h
  | succ count ih =>
    have hcons : backslashes (count + 1) ++ rest = .char '\\' :: (backslashes count ++ rest) := rfl
    rw [hcons, toBracket?, if_neg (by decide), if_neg (by decide), ih]
    rfl

theorem escapedAfter_nil (slashes : Nat) :
    escapedAfter slashes [] = backslashes (if slashes = 1 then 2 else slashes) := by
  rw [escapedAfter, chunksAfter]
  exact List.flatMap_singleton _ _

theorem escapedAfter_slash (slashes : Nat) (rest : Text) :
    escapedAfter slashes (.char '\\' :: rest) = escapedAfter (slashes + 1) rest := by
  rw [escapedAfter, chunksAfter, if_pos rfl, escapedAfter]

theorem escapedAfter_tag {rest name after : Text} (h : tag? rest = some (name, after))
    (slashes : Nat) : escapedAfter slashes (.char '[' :: rest) =
      backslashes (2 * slashes + 1) ++ .char '[' :: (name ++ .char ']' :: escapedAfter 0 after) := by
  rw [escapedAfter, chunksAfter_tag h, List.flatMap_cons, Chunk.escaped, escapedAfter]
  simp [Text.ofString, Text.ofChars]

/-- A character that begins no tag is kept as it is. -/
theorem chunksAfter_plain {c : Point} {rest : Text} (hslash : c ≠ .char '\\')
    (hopen : c = .char '[' → tag? rest = none) (slashes : Nat) :
    chunksAfter slashes (c :: rest) = .plain slashes c :: chunksAfter 0 rest := by
  rw [chunksAfter, if_neg hslash]
  split
  · rename_i hc
    split
    · rename_i hfound
      rw [hopen hc] at hfound
      cases hfound
    · rfl
  · rfl

theorem escapedAfter_plain {c : Point} {rest : Text} (hslash : c ≠ .char '\\')
    (hopen : c = .char '[' → tag? rest = none) (slashes : Nat) :
    escapedAfter slashes (c :: rest) = backslashes slashes ++ c :: escapedAfter 0 rest := by
  rw [escapedAfter, chunksAfter_plain hslash hopen, List.flatMap_cons, Chunk.escaped, escapedAfter,
    List.append_assoc]
  rfl

/-- What was no tag for want of a closing bracket gets none by being escaped. -/
theorem toBracket?_escapedAfter {s : Text} (h : toBracket? s = none) (slashes : Nat) (t : Text) :
    toBracket? (escapedAfter slashes s ++ .char '[' :: t) = none := by
  have hopen (rest : Text) : toBracket? (.char '[' :: rest) = none := by
    rw [toBracket?, if_neg (by decide), if_pos rfl]
  induction s generalizing slashes with
  | nil =>
    rw [escapedAfter_nil]
    exact toBracket?_backslashes _ _ (hopen t)
  | cons c rest ih =>
    rw [toBracket?] at h
    split at h
    · cases h
    rename_i hclose
    by_cases hc : c = .char '['
    · subst hc
      cases htag : tag? rest with
      | none =>
        rw [escapedAfter_plain (by decide) (fun _ => htag), List.append_assoc]
        exact toBracket?_backslashes _ _ (hopen _)
      | some found =>
        rw [escapedAfter_tag htag, List.append_assoc]
        exact toBracket?_backslashes _ _ (hopen _)
    rw [if_neg hc, Option.map_eq_none_iff] at h
    by_cases hslash : c = .char '\\'
    · subst hslash
      rw [escapedAfter_slash]
      exact ih h _
    · rw [escapedAfter_plain hslash (fun heq => absurd heq hc), List.append_assoc]
      refine toBracket?_backslashes _ _ ?_
      rw [List.cons_append, toBracket?, if_neg hclose, if_neg hc, ih h 0]
      rfl

/-- What stands after a backslash is written after one. -/
theorem exists_escapedAfter (slashes : Nat) (s : Text) :
    ∃ rest, escapedAfter (slashes + 1) s = .char '\\' :: rest := by
  induction s generalizing slashes with
  | nil =>
    rw [escapedAfter_nil]
    split
    · exact ⟨_, rfl⟩
    · exact ⟨_, rfl⟩
  | cons c s ih =>
    by_cases hslash : c = .char '\\'
    · subst hslash
      rw [escapedAfter_slash]
      exact ih (slashes + 1)
    cases htag : tag? s with
    | none =>
      rw [escapedAfter_plain hslash (fun _ => htag)]
      exact ⟨_, rfl⟩
    | some found =>
      by_cases hopen : c = .char '['
      · subst hopen
        rw [escapedAfter_tag htag]
        exact ⟨_, rfl⟩
      · rw [escapedAfter_plain hslash (fun heq => absurd heq hopen)]
        exact ⟨_, rfl⟩

/-- What begins no tag begins none when it was escaped. -/
theorem tag?_escapedAfter {s : Text} (h : tag? s = none) (t : Text) :
    tag? (escapedAfter 0 s ++ .char '[' :: t) = none := by
  have hnone {c : Point} (hc : beginsTag c = false) (rest : Text) : tag? (c :: rest) = none := by
    rw [tag?, hc, if_neg Bool.false_ne_true]
  cases s with
  | nil =>
    rw [escapedAfter_nil]
    exact hnone (by decide) t
  | cons c rest =>
    by_cases hslash : c = .char '\\'
    · subst hslash
      obtain ⟨after, hafter⟩ := exists_escapedAfter 0 rest
      rw [escapedAfter_slash, hafter]
      exact hnone (by decide) _
    cases hbegins : beginsTag c with
    | true =>
      have hopen : c ≠ .char '[' := by
        rintro rfl
        exact absurd hbegins (by decide)
      rw [tag?, hbegins, if_pos rfl, Option.map_eq_none_iff] at h
      rw [escapedAfter_plain hslash (fun heq => absurd heq hopen)]
      show tag? (c :: (escapedAfter 0 rest ++ .char '[' :: t)) = none
      rw [tag?, hbegins, if_pos rfl, toBracket?_escapedAfter h]
      rfl
    | false =>
      by_cases hopen : c = .char '['
      · subst hopen
        cases htag : tag? rest with
        | none =>
          rw [escapedAfter_plain hslash (fun _ => htag)]
          exact hnone hbegins _
        | some found =>
          rw [escapedAfter_tag htag]
          exact hnone (by decide : beginsTag (.char '\\') = false) _
      · rw [escapedAfter_plain hslash (fun heq => absurd heq hopen)]
        exact hnone hbegins _

/-- A tag is found again before other text. -/
theorem tag?_again {s name after : Text} (h : tag? s = some (name, after)) (rest : Text) :
    tag? (name ++ .char ']' :: rest) = some (name, rest) := by
  cases s with
  | nil => cases h
  | cons c s =>
    rw [tag?] at h
    split at h
    · rename_i hc
      obtain ⟨⟨name, after⟩, hrest, heq⟩ := Option.map_eq_some_iff.mp h
      cases heq
      -- The rest of the name has no brackets, and no bracket is what a tag begins with
      refine @tag?_append (c :: name) hc
        (List.forall_mem_cons.mpr ⟨?_, ne_bracket_of_toBracket? hrest⟩) rest
      constructor
      · rintro rfl
        exact absurd hc (by decide)
      · rintro rfl
        exact absurd hc (by decide)
    · cases h

/-- **Escaped text is harmless**, up to a bracket after it; in front of that there may be
backslashes. -/
theorem chunksAfter_escapedAfter (slashes : Nat) (s t : Text) :
    ∃ (cs : List Chunk) (count : Nat), (∀ chunk ∈ cs, chunk.IsHarmless) ∧
      chunksAfter 0 (escapedAfter slashes s ++ .char '[' :: t) =
        cs ++ chunksAfter count (.char '[' :: t) := by
  have hplain {slashes : Nat} {c : Point} {rest : Text} (hslash : c ≠ .char '\\')
      (hopen : c = .char '[' → tag? rest = none)
      (ih : ∃ (cs : List Chunk) (count : Nat), (∀ chunk ∈ cs, chunk.IsHarmless) ∧
        chunksAfter 0 (escapedAfter 0 rest ++ .char '[' :: t) =
          cs ++ chunksAfter count (.char '[' :: t)) :
      ∃ (cs : List Chunk) (count : Nat), (∀ chunk ∈ cs, chunk.IsHarmless) ∧
        chunksAfter 0 (escapedAfter slashes (c :: rest) ++ .char '[' :: t) =
          cs ++ chunksAfter count (.char '[' :: t) := by
    obtain ⟨cs, count, hcs, hrest⟩ := ih
    refine ⟨.plain slashes c :: cs, count, List.forall_mem_cons.mpr ⟨trivial, hcs⟩, ?_⟩
    rw [escapedAfter_plain hslash hopen, List.append_assoc, chunksAfter_backslashes, Nat.zero_add,
      List.cons_append, List.cons_append, ← hrest]
    exact chunksAfter_plain hslash (fun hc => tag?_escapedAfter (hopen hc) t) slashes
  induction slashes, s using chunksAfter.induct with
  | case1 slashes =>
    rw [escapedAfter_nil, chunksAfter_backslashes]
    exact ⟨[], _, nofun, rfl⟩
  | case2 slashes rest ih =>
    rw [escapedAfter_slash]
    exact ih
  | case3 slashes rest name after htag _ _ ih =>
    obtain ⟨cs, count, hcs, hrest⟩ := ih
    rw [escapedAfter_tag htag, List.append_assoc, chunksAfter_backslashes]
    have hodd : (0 + (2 * slashes + 1)) % 2 = 1 := by omega
    refine ⟨.tag (0 + (2 * slashes + 1)) name :: cs, count,
      List.forall_mem_cons.mpr ⟨hodd, hcs⟩, ?_⟩
    rw [List.cons_append, List.cons_append, ← hrest, List.append_assoc]
    exact chunksAfter_tag (tag?_again htag _)
  | case4 slashes rest htag hslash ih => exact hplain hslash (fun _ => htag) ih
  | case5 slashes c rest hslash hopen ih =>
    exact hplain hslash (fun heq => absurd heq hopen) ih

end Markup

open Markup in
/-- **A warning can be shown**, whatever it names. -/
theorem Markup.reads_warning (s : Text) :
    Reads ("[yellow]Warning: " ++ escape s ++ "[/yellow]") := by
  obtain ⟨cs, count, hcs, hescaped⟩ :=
    chunksAfter_escapedAfter 0 s (.char '/' :: (Text.ofString "yellow" ++ [.char ']']))
  have hword : ∀ p ∈ Text.ofString "Warning: ", p ≠ .char '[' ∧ p ≠ .char '\\' := by decide
  have hmarkup : Text.ofString "[yellow]Warning: " ++ escape s ++ Text.ofString "[/yellow]" =
      .char '[' :: (Text.ofString "yellow" ++ .char ']' :: (Text.ofString "Warning: " ++
        (escapedAfter 0 s ++
          .char '[' :: .char '/' :: (Text.ofString "yellow" ++ [.char ']'])))) := by
    rw [← escape_eq]
    exact List.append_assoc _ _ _
  rw [hmarkup]
  refine @reads_of_chunks _ isColour_yellow ((Text.ofString "Warning: ").map (.plain 0) ++ cs) ?_
    count _ [] nofun ?_
  · exact List.forall_mem_append.mpr ⟨List.forall_mem_map.mpr fun _ _ => trivial, hcs⟩
  · refine (chunksAfter_tag (isColour_yellow.tag?_open _)).trans (congrArg _ ?_)
    rw [chunksAfter_append hword, hescaped, List.append_assoc]
    exact congrArg _ (congrArg _ (chunksAfter_tag (isColour_yellow.tag?_close [])))

/-! ## §6 Plain text -/

theorem Emoji.replace_of_no_colon {s : Text} (h : ∀ p ∈ s, p ≠ .char ':') : replace s = s := by
  induction s with
  | nil => rw [replace]
  | cons c rest ih =>
    obtain ⟨hc, hrest⟩ := List.forall_mem_cons.mp h
    rw [replace, if_neg hc, ih hrest]

namespace Markup

theorem bare_of_no_bracket {s : Text} (h : ∀ p ∈ s, p ≠ .char '[') : bare s = s := by
  induction s with
  | nil => rfl
  | cons c rest ih =>
    obtain ⟨hc, hrest⟩ := List.forall_mem_cons.mp h
    rw [bare, ih hrest]
    intro after hslash hopen
    exact hrest (.char '[') (hopen ▸ List.mem_cons_self) rfl

/-- A text without brackets and backslashes is cut into its characters. -/
theorem chunks_of_plain {s : Text} (h : ∀ p ∈ s, p ≠ .char '[' ∧ p ≠ .char '\\') :
    chunks s = s.map (.plain 0) ++ [.final 0] := by
  have happend := chunksAfter_append h []
  rwa [List.append_nil, chunksAfter] at happend

theorem pageAfter_plain (s plain : Text) (page : Page) :
    pageAfter page plain (s.map (.plain 0) ++ [.final 0]) =
      .ok (page.write (seen (plain.reverse ++ s))) := by
  induction s generalizing plain with
  | nil =>
    rw [List.append_nil]
    rfl
  | cons c rest ih =>
    have hrest := ih (c :: plain)
    rw [List.reverse_cons, List.append_assoc] at hrest
    exact hrest

/-- **Plain text is shown as it is.** -/
theorem shown_of_plain {s : Text} (h : s.IsPlain) : shown s = .ok s := by
  have hbracket : ∀ p ∈ s, p ≠ .char '[' := fun p hp => (h p hp).2.1
  have hslash : ∀ p ∈ s, p ≠ .char '\\' := fun p hp => (h p hp).2.2.1
  have hcolon : ∀ p ∈ s, p ≠ .char ':' := fun p hp => (h p hp).2.2.2
  have hseen : seen s = s := by
    rw [seen, bare_of_no_bracket hbracket, Emoji.replace_of_no_colon hcolon]
  have hpage := pageAfter_plain s [] {}
  rw [List.reverse_nil, List.nil_append, hseen] at hpage
  unfold shown
  rw [chunks_of_plain fun p hp => ⟨hbracket p hp, hslash p hp⟩, hpage]
  show Except.ok (s.reverse ++ []).reverse = _
  rw [List.append_nil, List.reverse_reverse]

end Markup

/-! ## §7 Halves of characters -/

namespace Emoji

theorem not_half_of_toColon? {s name rest : Text} (h : toColon? s = some (name, rest))
    (hs : ∀ p ∈ s, p.isHalf = false) :
    (∀ p ∈ name, p.isHalf = false) ∧ ∀ p ∈ rest, p.isHalf = false := by
  induction s generalizing name with
  | nil => cases h
  | cons c s ih =>
    obtain ⟨hc, hs⟩ := List.forall_mem_cons.mp hs
    rw [toColon?] at h
    split at h
    · cases h
      exact ⟨List.forall_mem_nil _, hs⟩
    split at h
    · cases h
    · obtain ⟨⟨name, rest⟩, hrest, heq⟩ := Option.map_eq_some_iff.mp h
      cases heq
      obtain ⟨hname, hafter⟩ := ih hrest hs
      exact ⟨List.forall_mem_cons.mpr ⟨hc, hname⟩, hafter⟩

theorem not_half_find? {name picture : Text} (h : find? name = some picture) :
    ∀ p ∈ picture, p.isHalf = false := by
  obtain ⟨_, -, h⟩ := Option.bind_eq_some_iff.mp h
  obtain ⟨chars, -, h⟩ := Option.bind_eq_some_iff.mp h
  cases h
  exact List.forall_mem_map.mpr fun _ _ => rfl

theorem not_half_named? {code picture : Text} (h : named? code = some picture) :
    ∀ p ∈ picture, p.isHalf = false := by
  have hmarked {name : Text} {mark : Char}
      (h : (find? name).map (· ++ [.char mark]) = some picture) :
      ∀ p ∈ picture, p.isHalf = false := by
    obtain ⟨found, hfound, rfl⟩ := Option.map_eq_some_iff.mp h
    exact List.forall_mem_append.mpr ⟨not_half_find? hfound, List.forall_mem_singleton.mpr rfl⟩
  unfold named? at h
  split at h
  · exact hmarked h
  · exact hmarked h
  · exact not_half_find? h

/-- Pictures have no halves. -/
theorem not_half_replace {s : Text} (hs : ∀ p ∈ s, p.isHalf = false) :
    ∀ p ∈ replace s, p.isHalf = false := by
  induction s using replace.induct with
  | case1 =>
    rw [replace]
    exact List.forall_mem_nil _
  | case2 rest code after hfound _ ih =>
    obtain ⟨hcode, hafter⟩ := not_half_of_toColon? hfound (List.forall_mem_cons.mp hs).2
    have hnamed : ∀ p ∈ (named? code).getD (":" ++ code ++ ":"), p.isHalf = false := by
      cases hpicture : named? code with
      | some picture => exact not_half_named? hpicture
      | none =>
        have hcolon : ∀ p ∈ Text.ofString ":", p.isHalf = false := by decide
        exact List.forall_mem_append.mpr ⟨List.forall_mem_append.mpr ⟨hcolon, hcode⟩, hcolon⟩
    rw [replace, if_pos rfl]
    split
    · rename_i heq
      cases hfound.symm.trans heq
      exact List.forall_mem_append.mpr ⟨hnamed, ih hafter⟩
    · rename_i heq
      cases hfound.symm.trans heq
  | case3 rest hnone ih =>
    obtain ⟨hc, hrest⟩ := List.forall_mem_cons.mp hs
    rw [replace, if_pos rfl]
    split
    · rename_i heq
      cases hnone.symm.trans heq
    · exact List.forall_mem_cons.mpr ⟨hc, ih hrest⟩
  | case4 c rest hc ih =>
    obtain ⟨hhead, hrest⟩ := List.forall_mem_cons.mp hs
    rw [replace, if_neg hc]
    exact List.forall_mem_cons.mpr ⟨hhead, ih hrest⟩

end Emoji

namespace Markup

theorem subset_bare (s : Text) : bare s ⊆ s := by
  induction s using bare.induct with
  | case1 rest ih =>
    rw [bare]
    exact List.Subset.trans (List.cons_subset_cons _ ih) (List.subset_cons_self _ _)
  | case2 c rest hc ih =>
    rw [bare]
    · exact List.cons_subset_cons c ih
    · exact hc
  | case3 => exact List.Subset.refl []

theorem not_half_seen {s : Text} (hs : ∀ p ∈ s, p.isHalf = false) : ∀ p ∈ seen s, p.isHalf = false :=
  Emoji.not_half_replace fun p hp => hs p (subset_bare s hp)

theorem not_half_backslashes (count : Nat) : ∀ p ∈ backslashes count, p.isHalf = false := by
  intro p hp
  rw [List.eq_of_mem_replicate hp]
  rfl

/-- A part of a text without halves of characters. -/
def Chunk.IsWhole : Chunk → Prop
  | .plain _ c => c.isHalf = false
  | .tag _ name => ∀ p ∈ name, p.isHalf = false
  | .final _ => True

theorem not_half_of_tag? {s name rest : Text} (h : tag? s = some (name, rest))
    (hs : ∀ p ∈ s, p.isHalf = false) :
    (∀ p ∈ name, p.isHalf = false) ∧ ∀ p ∈ rest, p.isHalf = false := by
  have hbracket {s name rest : Text} (h : toBracket? s = some (name, rest)) :
      s = name ++ .char ']' :: rest := by
    induction s generalizing name with
    | nil => cases h
    | cons c s ih =>
      rw [toBracket?] at h
      split at h
      · rename_i hc
        cases h
        rw [hc]
        rfl
      split at h
      · cases h
      · obtain ⟨⟨name, rest⟩, hrest, heq⟩ := Option.map_eq_some_iff.mp h
        cases heq
        rw [ih hrest]
        rfl
  cases s with
  | nil => cases h
  | cons c s =>
    obtain ⟨hc, hs⟩ := List.forall_mem_cons.mp hs
    rw [tag?] at h
    split at h
    · obtain ⟨⟨name, rest⟩, hrest, heq⟩ := Option.map_eq_some_iff.mp h
      cases heq
      rw [hbracket hrest] at hs
      obtain ⟨hname, hafter⟩ := List.forall_mem_append.mp hs
      exact ⟨List.forall_mem_cons.mpr ⟨hc, hname⟩, (List.forall_mem_cons.mp hafter).2⟩
    · cases h

/-- The parts of a text have no halves that it does not have. -/
theorem isWhole_chunksAfter {s : Text} (hs : ∀ p ∈ s, p.isHalf = false) (slashes : Nat) :
    ∀ chunk ∈ chunksAfter slashes s, chunk.IsWhole := by
  induction slashes, s using chunksAfter.induct with
  | case1 slashes =>
    rw [chunksAfter]
    exact List.forall_mem_singleton.mpr trivial
  | case2 slashes rest ih =>
    rw [chunksAfter, if_pos rfl]
    exact ih (List.forall_mem_cons.mp hs).2
  | case3 slashes rest name after htag _ _ ih =>
    obtain ⟨hname, hafter⟩ := not_half_of_tag? htag (List.forall_mem_cons.mp hs).2
    rw [chunksAfter_tag htag]
    exact List.forall_mem_cons.mpr ⟨hname, ih hafter⟩
  | case4 slashes rest htag hslash ih =>
    obtain ⟨hc, hrest⟩ := List.forall_mem_cons.mp hs
    rw [chunksAfter_plain hslash fun _ => htag]
    exact List.forall_mem_cons.mpr ⟨hc, ih hrest⟩
  | case5 slashes c rest hslash hopen ih =>
    obtain ⟨hc, hrest⟩ := List.forall_mem_cons.mp hs
    rw [chunksAfter_plain hslash fun heq => absurd heq hopen]
    exact List.forall_mem_cons.mpr ⟨hc, ih hrest⟩

namespace Page

/-- What is seen of a page has no halves. -/
def IsWhole (page : Page) : Prop := ∀ p ∈ page.seen, p.isHalf = false

theorem IsWhole.write {page : Page} (h : page.IsWhole) {s : Text} (hs : ∀ p ∈ s, p.isHalf = false) :
    (page.write s).IsWhole :=
  List.forall_mem_append.mpr ⟨fun p hp => hs p (List.mem_reverse.mp hp), h⟩

/-- Following a tag changes nothing that is seen. -/
theorem seen_of_follow {page after : Page} {tag : Text} (h : page.follow tag = .ok after) :
    after.seen = page.seen := by
  have hclose {name : Text} (h : page.closeTag name = .ok after) : after.seen = page.seen := by
    unfold closeTag at h
    dsimp only at h
    split at h
    · obtain ⟨-, -, h⟩ := Except.bind_eq_ok.mp h
      cases h
      rfl
    · cases h
  unfold follow at h
  split at h
  · dsimp only at h
    split at h
    · exact hclose h
    · obtain ⟨name, -, h⟩ := Except.bind_eq_ok.mp h
      exact hclose h
  · obtain ⟨opened, -, h⟩ := Except.bind_eq_ok.mp h
    cases h
    rfl

end Page

/-- Whole parts leave a whole page. -/
theorem isWhole_pageAfter {chunks : List Chunk} (hchunks : ∀ chunk ∈ chunks, chunk.IsWhole)
    {page after : Page} (hpage : page.IsWhole) {plain : Text} (hplain : ∀ p ∈ plain, p.isHalf = false)
    (h : pageAfter page plain chunks = .ok after) : after.IsWhole := by
  have hseen {plain : Text} (hplain : ∀ p ∈ plain, p.isHalf = false) :
      ∀ p ∈ seen plain.reverse, p.isHalf = false :=
    not_half_seen fun p hp => hplain p (List.mem_reverse.mp hp)
  induction chunks generalizing page plain with
  | nil =>
    cases h
    exact hpage.write (hseen hplain)
  | cons chunk rest ih =>
    obtain ⟨hchunk, hrest⟩ := List.forall_mem_cons.mp hchunks
    cases chunk with
    | plain n c =>
      exact ih hrest hpage (List.forall_mem_cons.mpr
        ⟨hchunk, List.forall_mem_append.mpr ⟨not_half_backslashes n, hplain⟩⟩) h
    | final n =>
      exact ih hrest hpage (List.forall_mem_append.mpr ⟨not_half_backslashes n, hplain⟩) h
    | tag n name =>
      have hwritten := (hpage.write (hseen hplain)).write (not_half_backslashes (n / 2))
      have hname : ∀ p ∈ name, p.isHalf = false := hchunk
      have hopen : ∀ p ∈ Text.ofString "[", p.isHalf = false := by decide
      have hclose : ∀ p ∈ Text.ofString "]", p.isHalf = false := by decide
      rw [pageAfter] at h
      split at h
      · exact ih hrest (hwritten.write (not_half_seen (List.forall_mem_append.mpr
          ⟨List.forall_mem_append.mpr ⟨hopen, hname⟩, hclose⟩))) (List.forall_mem_nil _) h
      · obtain ⟨followed, hfollowed, h⟩ := Except.bind_eq_ok.mp h
        refine ih hrest ?_ (List.forall_mem_nil _) h
        unfold Page.IsWhole
        rw [Page.seen_of_follow hfollowed]
        exact hwritten

/-- **Text is shown without halves that has none.** -/
theorem not_half_shown {markup text : Text} (hmarkup : ∀ p ∈ markup, p.isHalf = false)
    (h : shown markup = .ok text) : ∀ p ∈ text, p.isHalf = false := by
  obtain ⟨page, hpage, h⟩ := Except.bind_eq_ok.mp h
  obtain ⟨-, -, h⟩ := Except.bind_eq_ok.mp h
  cases h
  have hempty : Page.IsWhole {} := List.forall_mem_nil _
  have hwhole := isWhole_pageAfter (isWhole_chunksAfter hmarkup 0) hempty (List.forall_mem_nil _) hpage
  exact fun p hp => hwhole p (List.mem_reverse.mp hp)

theorem not_half_escape {s : Text} (hs : ∀ p ∈ s, p.isHalf = false) :
    ∀ p ∈ escape s, p.isHalf = false := by
  intro p hp
  obtain ⟨chunk, hchunk, hp⟩ := List.mem_flatMap.mp hp
  have hwhole := isWhole_chunksAfter hs 0 chunk hchunk
  have hopen : ∀ p ∈ Text.ofString "[", p.isHalf = false := by decide
  have hclose : ∀ p ∈ Text.ofString "]", p.isHalf = false := by decide
  cases chunk with
  | plain n c =>
    exact List.forall_mem_append.mpr
      ⟨not_half_backslashes n, List.forall_mem_singleton.mpr hwhole⟩ p hp
  | tag n name =>
    exact List.forall_mem_append.mpr ⟨List.forall_mem_append.mpr ⟨List.forall_mem_append.mpr
      ⟨not_half_backslashes _, hopen⟩, hwhole⟩, hclose⟩ p hp
  | final n => exact not_half_backslashes _ p hp

end Markup

/-! ## §8 The terminal -/

namespace Screen

theorem accept_terminal {p : Printed} :
    terminal.accept p = .ok () ↔ ∀ q ∈ p.points, q.isHalf = false := by
  rw [← Task.firstRun?_isHalf_eq_none]
  unfold terminal
  dsimp only
  split
  · rename_i hhalf
    simp [hhalf]
  · rename_i hwhole
    simp [hwhole]

/-- Markup that can be shown is said, if it can be made bytes. -/
theorem sayable_terminal {markup : Text} (hreads : Markup.Reads markup)
    (hwhole : ∀ p ∈ markup, p.isHalf = false) : terminal.Sayable markup := by
  obtain ⟨text, htext⟩ := hreads
  exact ⟨text, htext, accept_terminal.mpr (Markup.not_half_shown hwhole htext)⟩

/-- **A terminal is a lawful screen.** -/
theorem terminal_lawful : terminal.Lawful where
  accept_text s hs := accept_terminal.mpr hs
  accept_table t ht := accept_terminal.mpr fun p hp => (ht p hp).1
  shown_plain s hs := Markup.shown_of_plain hs
  sayable_warning s hs := by
    have hopen : ∀ p ∈ Text.ofString "[yellow]Warning: ", p.isHalf = false := by decide
    have hclose : ∀ p ∈ Text.ofString "[/yellow]", p.isHalf = false := by decide
    exact sayable_terminal (Markup.reads_warning s) (List.forall_mem_append.mpr
      ⟨List.forall_mem_append.mpr ⟨hopen, Markup.not_half_escape hs⟩, hclose⟩)

end Screen

end Lamella
