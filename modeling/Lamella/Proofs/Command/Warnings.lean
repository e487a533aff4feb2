import Lamella.Proofs.Command.Sayings
import Lamella.Proofs.Layout.Presets
import Lamella.Proofs.Song.Composed
import Lamella.Proofs.Tab.Accounts
import Lamella.Proofs.Tab.Grammar

/-!
# Warnings that can be printed

The warnings of a piece of work are printed after it, when it may have written a file. So it matters
that none of them holds half a character, which has no bytes. Whatever is quoted in a warning is
written in whole characters; only a root note that is not understood is named as it was given.

## Main definitions

- `Warning.IsWhole`: a warning without halves of characters.
- `AddsWhole`: work that adds only such warnings to those of before.

## Main statements

- `AddsWhole.bind`, `AddsWhole.bind_of_leads`: one piece of work after another.
- `Choice.addsWhole_layout`: laying out an instrument whose root, if one is given, is without halves.
- `Song.addsWhole_compose`, `Song.addsWhole_ofText`, `Transcription.addsWhole_song`,
  `Midi.addsWhole_ofSong`: work on songs.
-/

namespace Lamella

/-! ## §1 Whole warnings -/

namespace Value

variable {R : Type} [Scalar R]

mutual

/-- Values are shown without halves. -/
theorem not_half_shown (v : Value R) : ∀ p ∈ v.shown, p.isHalf = false := by
  cases v with
  | null => exact not_half_ofString "None"
  | bool b =>
    cases b with
    | false => exact not_half_ofString "False"
    | true => exact not_half_ofString "True"
  | int n => exact not_half_ofString _
  | num x => exact not_half_ofString _
  | str s => exact List.forall_mem_map.mpr fun _ _ => rfl
  | list items =>
    rw [shown]
    exact List.forall_mem_append.mpr ⟨List.forall_mem_append.mpr
      ⟨not_half_ofString "[", not_half_shownItems items⟩, not_half_ofString "]"⟩
  | object fields =>
    rw [shown]
    exact List.forall_mem_append.mpr ⟨List.forall_mem_append.mpr
      ⟨not_half_ofString "\x7b", not_half_shownFields fields⟩, not_half_ofString "\x7d"⟩
termination_by sizeOf v

theorem not_half_shownItems (items : List (Value R)) : ∀ p ∈ shownItems items, p.isHalf = false := by
  match items with
  | [] => exact nofun
  | [v] => exact not_half_shown v
  | v :: w :: rest =>
    exact List.forall_mem_append.mpr ⟨List.forall_mem_append.mpr
      ⟨not_half_shown v, not_half_ofString ", "⟩, not_half_shownItems (w :: rest)⟩
termination_by sizeOf items

theorem not_half_shownFields (fields : List (Text × Value R)) :
    ∀ p ∈ shownFields fields, p.isHalf = false := by
  have hquoted (s : Text) : ∀ p ∈ Text.quoted s, p.isHalf = false :=
    List.forall_mem_map.mpr fun _ _ => rfl
  match fields with
  | [] => exact nofun
  | [(name, v)] =>
    exact List.forall_mem_append.mpr ⟨List.forall_mem_append.mpr
      ⟨hquoted name, not_half_ofString ": "⟩, not_half_shown v⟩
  | (name, v) :: field :: rest =>
    exact List.forall_mem_append.mpr ⟨List.forall_mem_append.mpr ⟨List.forall_mem_append.mpr
      ⟨List.forall_mem_append.mpr ⟨hquoted name, not_half_ofString ": "⟩, not_half_shown v⟩,
        not_half_ofString ", "⟩, not_half_shownFields (field :: rest)⟩
termination_by sizeOf fields

end

end Value

namespace Warning

/-- A warning without halves of characters. -/
def IsWhole (w : Warning) : Prop := ∀ p ∈ w.message, p.isHalf = false

theorem isWhole_reissued {count : Nat} {ids : Text} (hids : ∀ p ∈ ids, p.isHalf = false) :
    (reissued count ids).IsWhole :=
  List.forall_mem_append.mpr ⟨List.forall_mem_append.mpr ⟨List.forall_mem_append.mpr
    ⟨Value.not_half_ofString "Re-issued ids for ", Value.not_half_ofString _⟩,
    Value.not_half_ofString " note(s) with duplicate ids: "⟩, hids⟩

theorem isWhole_unknownRoot {name : Text} (hname : ∀ p ∈ name, p.isHalf = false) :
    (unknownRoot name).IsWhole :=
  List.forall_mem_append.mpr ⟨List.forall_mem_append.mpr
    ⟨Value.not_half_ofString "Unknown root note '", hname⟩,
    Value.not_half_ofString "', falling back to C"⟩

theorem isWhole_missingKeys {count : Nat} {layout : Text} (hlayout : ∀ p ∈ layout, p.isHalf = false) :
    (missingKeys count layout).IsWhole :=
  List.forall_mem_append.mpr ⟨List.forall_mem_append.mpr ⟨Value.not_half_ofString _,
    Value.not_half_ofString " note(s) use keys missing from "⟩, hlayout⟩

theorem isWhole_unlabelled (count : Nat) (keys : List Int) : (unlabelled count keys).IsWhole :=
  List.forall_mem_append.mpr ⟨List.forall_mem_append.mpr ⟨List.forall_mem_append.mpr
    ⟨Value.not_half_ofString "Skipped ", Value.not_half_ofString _⟩,
    Value.not_half_ofString " note(s) on keys without a notation label: "⟩,
    Value.not_half_ofString _⟩

/-- So is a warning that names places in whole characters. -/
theorem isWhole_skipped {count : Nat} {places : List Text}
    (hplaces : ∀ s ∈ places, ∀ p ∈ s, p.isHalf = false) : (skipped count places).IsWhole := by
  have hjoined : ∀ p ∈ Text.join ", " places, p.isHalf = false := by
    intro p hp
    rcases Text.mem_join_separator hp with hp | ⟨s, hs, hp⟩
    · exact Value.not_half_ofString ", " p hp
    · exact hplaces s hs p hp
  exact List.forall_mem_append.mpr ⟨List.forall_mem_append.mpr ⟨List.forall_mem_append.mpr
    ⟨List.forall_mem_append.mpr ⟨Value.not_half_ofString "Skipped ", Value.not_half_ofString _⟩,
      Value.not_half_ofString " notation token(s): "⟩, hjoined⟩, Value.not_half_ofString _⟩

theorem isWhole_retrying : retrying.IsWhole :=
  Value.not_half_ofString "No notes detected, retrying with relaxed thresholds"

end Warning

/-! ## §2 Work with a journal -/

/-- A state with a journal at hand. -/
class HasJournal (σ : Type) where
  journalOf : σ → Journal

open HasJournal

instance : HasJournal Journal := ⟨id⟩

instance {S : Type} : HasJournal (Desk S) := ⟨Desk.journal⟩

instance {S : Type} : HasJournal (Console S) := ⟨fun console => console.desk.journal⟩

section

variable {ε σ α β : Type} [HasJournal σ] {w w' : ExceptT ε (StateM σ) α}
  {f : α → ExceptT ε (StateM σ) β}

/-- Work that goes well adds only whole warnings to those of before. -/
def AddsWhole (w : ExceptT ε (StateM σ) α) : Prop := ∀ s a s', Leads w s a s' →
  ∃ ws, (journalOf s').given = ws ++ (journalOf s).given ∧ ∀ x ∈ ws, x.IsWhole

/-- So does work that leaves the warnings as they are. -/
theorem addsWhole_of_same
    (h : ∀ s a s', Leads w s a s' → (journalOf s').given = (journalOf s).given) : AddsWhole w :=
  fun s a s' hleads => ⟨[], h s a s' hleads, nofun⟩

theorem addsWhole_pure (a : α) : AddsWhole (pure a : ExceptT ε (StateM σ) α) := by
  refine addsWhole_of_same fun s b s' h => ?_
  obtain ⟨-, rfl⟩ := leads_pure.mp h
  rfl

theorem addsWhole_throw (e : ε) : AddsWhole (throw e : ExceptT ε (StateM σ) α) :=
  addsWhole_of_same fun _ _ _ h => absurd h not_leads_throw

theorem addsWhole_throw_bind (e : ε) (f : α → ExceptT ε (StateM σ) β) :
    AddsWhole (throw e >>= f) := by
  intro s b s' h
  obtain ⟨a, t, hthrow, -⟩ := leads_bind.mp h
  exact absurd hthrow not_leads_throw

/-- Work of which every piece adds only whole warnings does, given what the pieces before lead to. -/
theorem AddsWhole.bind_of_leads (hw : AddsWhole w)
    (hf : ∀ s a s', Leads w s a s' → AddsWhole (f a)) : AddsWhole (w >>= f) := by
  intro s b s' h
  obtain ⟨a, t, hfirst, hrest⟩ := leads_bind.mp h
  obtain ⟨ws, hgiven, hwhole⟩ := hw s a t hfirst
  obtain ⟨vs, hgiven', hwhole'⟩ := hf s a t hfirst t b s' hrest
  refine ⟨vs ++ ws, ?_, List.forall_mem_append.mpr ⟨hwhole', hwhole⟩⟩
  rw [hgiven', hgiven, List.append_assoc]

theorem AddsWhole.bind (hw : AddsWhole w) (hf : ∀ a, AddsWhole (f a)) : AddsWhole (w >>= f) :=
  hw.bind_of_leads fun _ a _ _ => hf a

theorem AddsWhole.map (hw : AddsWhole w) {g : α → β} : AddsWhole (g <$> w) := by
  rw [← bind_pure_comp]
  exact hw.bind fun _ => addsWhole_pure _

end

namespace Work

theorem addsWhole_of {α : Type} (result : Except Fault α) : AddsWhole (Work.of result) := by
  refine addsWhole_of_same fun j a j' h => ?_
  obtain ⟨-, rfl⟩ := gives_of.mp h
  rfl

theorem addsWhole_freshId : AddsWhole freshId := by
  refine addsWhole_of_same fun j a j' h => ?_
  obtain ⟨-, rfl⟩ := gives_freshId.mp h
  rfl

theorem addsWhole_now : AddsWhole Work.now := by
  refine addsWhole_of_same fun j a j' h => ?_
  cases h
  rfl

theorem addsWhole_warn {w : Warning} (h : w.IsWhole) : AddsWhole (warn w) := by
  intro j a j' hgives
  obtain rfl := gives_warn.mp hgives
  exact ⟨[w], rfl, List.forall_mem_singleton.mpr h⟩

theorem addsWhole_warnAll {ws : List Warning} (h : ∀ w ∈ ws, w.IsWhole) : AddsWhole (warnAll ws) := by
  intro j a j' hgives
  obtain rfl := gives_warnAll.mp hgives
  exact ⟨ws.reverse, rfl, fun w hw => h w (List.mem_reverse.mp hw)⟩

end Work

/-! ## §3 Layouts -/

section

variable {F : Type} [Analytic F] {l : Layout F}

/-- The name of a layout that is generated has no halves. -/
theorem Tuning.not_half_name {t : Tuning} {count : Int} (h : t.generate count = .ok l) :
    ∀ p ∈ l.name, p.isHalf = false := by
  have hmade {keys : List (Key F)} {name : Text} {calibrated : Bool}
      (hname : ∀ p ∈ name, p.isHalf = false) (h : Layout.make keys name calibrated = .ok l) :
      ∀ p ∈ l.name, p.isHalf = false := by
    unfold Layout.make at h
    dsimp only at h
    split at h
    · cases h
    split at h
    · cases h
      exact hname
    · cases h
  unfold generate at h
  split at h
  · cases h
  split at h
  · unfold Layout.ofTable at h
    split at h
    · cases h
    · obtain ⟨keys, -, h⟩ := Except.bind_eq_ok.mp h
      exact hmade (List.forall_mem_append.mpr
        ⟨Value.not_half_ofString _, Value.not_half_ofString "-key calibrated"⟩) h
  · obtain ⟨keys, -, h⟩ := Except.bind_eq_ok.mp h
    exact hmade (Value.not_half_ofString _) h

/-- Nor has that of an instrument, whatever root is asked for. -/
theorem Choice.not_half_name {choice : Choice} {scale : Text} {j j' : Journal}
    (h : (choice.layout scale).Gives j l j') : ∀ p ∈ l.name, p.isHalf = false := by
  obtain ⟨preset, _, -, h⟩ := Work.gives_bind.mp h
  obtain ⟨tuning, _, -, h⟩ := Work.gives_bind.mp h
  exact Tuning.not_half_name (Work.gives_of.mp h).1

/-- Warnings of an instrument are whole, if the root that is asked for has no halves. -/
theorem Preset.addsWhole_layout {id : Text} {root : Option Text} {scale : Text}
    (hroot : ∀ s ∈ root, ∀ p ∈ s, p.isHalf = false) :
    AddsWhole (layout id root scale : Work (Layout F)) := by
  have hname (preset : Preset) : ∀ p ∈ root.getD preset.root, p.isHalf = false := by
    cases root with
    | none => exact Value.not_half_ofString preset.root
    | some s => exact hroot s rfl
  have htuning (name : Text) (hname : ∀ p ∈ name, p.isHalf = false) (octave : Option Int) :
      AddsWhole (Tuning.root name octave) := by
    unfold Tuning.root
    split
    · exact addsWhole_pure _
    · exact (Work.addsWhole_warn (Warning.isWhole_unknownRoot hname)).bind fun _ => addsWhole_pure _
  exact (Work.addsWhole_of _).bind fun preset => ((Work.addsWhole_of _).bind fun _ =>
    (htuning _ (hname preset) _).bind fun _ => addsWhole_pure _).bind fun _ => Work.addsWhole_of _

theorem Choice.addsWhole_layout {choice : Choice} {scale : Text}
    (hroot : ∀ s ∈ choice.root, ∀ p ∈ s, p.isHalf = false) :
    AddsWhole (choice.layout scale : Work (Layout F)) := by
  refine Preset.addsWhole_layout fun s hs => ?_
  obtain ⟨root, hchoice, hgiven⟩ := Option.bind_eq_some_iff.mp hs
  unfold Text.given? at hgiven
  split at hgiven
  · cases hgiven
  · cases hgiven
    exact hroot s hchoice

end

/-! ## §4 Tablature -/

namespace Tab

/-- Labels that are read in a piece have no halves. -/
theorem not_half_of_mem_labels (s : Text) (line column : Int) :
    ∀ label ∈ (classify s line column).labels, ∀ p ∈ label, p.isHalf = false := by
  have htext (l : Label) : ∀ p ∈ l.text, p.isHalf = false :=
    List.forall_mem_append.mpr ⟨Value.not_half_ofString _, fun p hp => by
      rw [List.eq_of_mem_replicate hp]
      rfl⟩
  have hlabel {u : Text} (h : isLabel u = true) : ∀ p ∈ u, p.isHalf = false := by
    obtain ⟨l, hl⟩ := Option.isSome_iff_exists.mp h
    rcases (Label.ofText?_eq_some_iff.mp hl).2 with rfl | rfl
    · exact htext l
    · exact List.forall_mem_append.mpr ⟨htext l, List.forall_mem_singleton.mpr rfl⟩
  have hrun {u : Text} {ls : List Text} (h : runLabels? u = some ls) :
      ∀ label ∈ ls, ∀ p ∈ label, p.isHalf = false := by
    intro label hmem
    obtain ⟨l, -, rfl⟩ := (runLabels?_eq_some_iff.mp h).2.1 label hmem
    exact htext l
  have hmember (w : Text) : ∀ label ∈ memberLabels w, ∀ p ∈ label, p.isHalf = false := by
    unfold memberLabels Token.ofMember
    dsimp only
    split
    · exact nofun
    split
    · exact List.forall_mem_singleton.mpr (hlabel ‹_›)
    split
    · exact hrun ‹_›
    · exact nofun
  by_cases hs : s.head? = some (.char '(')
  · unfold classify Token.labels
    rw [shapeOf_group hs]
    intro label hmem
    obtain ⟨w, -, hw⟩ := List.mem_flatMap.mp hmem
    exact hmember w label hw
  · unfold classify Token.labels Token.shapeOf
    rw [if_neg hs]
    dsimp only
    split_ifs with hrest hnote
    · exact nofun
    · exact List.forall_mem_singleton.mpr (hlabel hnote)
    · cases hfound : runLabels? (unifyMarkers s) with
      | some ls => exact hrun hfound
      | none => exact nofun

/-- A token of a text is what a piece of it was taken for. -/
theorem exists_classify_of_mem_tokens {text : Text} {t : Token} (ht : t ∈ tokens text) :
    ∃ s line column, t = classify s line column := by
  have hlines (line : Nat) (lines : List Text) (ht : t ∈ tokensFrom line lines) :
      ∃ s line column, t = classify s line column := by
    induction lines generalizing line with
    | nil => cases ht
    | cons s rest ih =>
      rcases List.mem_append.mp ht with ht | ht
      · obtain ⟨piece, -, rfl⟩ := List.mem_map.mp ht
        exact ⟨_, _, _, rfl⟩
      · exact ih _ ht
  exact hlines 1 _ ht

/-- What is said of skipped places has no halves. -/
theorem not_half_message {x : Skipped} (hreason : ∀ p ∈ x.reason.message, p.isHalf = false) :
    ∀ p ∈ x.message, p.isHalf = false := by
  have hquoted : ∀ p ∈ Text.quoted x.text, p.isHalf = false := List.forall_mem_map.mpr fun _ _ => rfl
  have hplace := List.forall_mem_append.mpr ⟨List.forall_mem_append.mpr ⟨List.forall_mem_append.mpr
    ⟨hquoted, Value.not_half_ofString " at "⟩, Value.not_half_ofString (toString x.line)⟩,
    Value.not_half_ofString ":"⟩
  exact List.forall_mem_append.mpr ⟨List.forall_mem_append.mpr ⟨List.forall_mem_append.mpr
    ⟨List.forall_mem_append.mpr ⟨hplace, Value.not_half_ofString (toString x.column)⟩,
      Value.not_half_ofString " ("⟩, hreason⟩, Value.not_half_ofString ")"⟩

theorem not_half_skips {F : Type} (l : Layout F) (text : Text) :
    ∀ x ∈ skips l text, ∀ p ∈ x.message, p.isHalf = false := by
  intro x hx
  refine not_half_message ?_
  obtain ⟨t, ht, hx⟩ := List.mem_flatMap.mp hx
  obtain ⟨s, line, column, rfl⟩ := exists_classify_of_mem_tokens ht
  rcases List.mem_append.mp hx with hx | hx
  · -- A label without a key is named as it was read
    obtain ⟨entry, hentry, hlost⟩ := List.mem_filterMap.mp hx
    obtain ⟨-, heq⟩ := Option.ite_none_right_eq_some.mp hlost
    cases heq
    have hlabel : entry.1 ∈ (classify s line column).labels := by
      rw [← Token.map_fst_schedule]
      exact List.mem_map_of_mem hentry
    exact List.forall_mem_append.mpr ⟨List.forall_mem_append.mpr
      ⟨Value.not_half_ofString "no key for '", not_half_of_mem_labels s line column _ hlabel⟩,
      Value.not_half_ofString "'"⟩
  · unfold Token.refused at hx
    split at hx
    · obtain ⟨member, -, rfl⟩ := List.mem_map.mp hx
      exact Value.not_half_ofString "invalid chord member"
    · rw [List.mem_singleton.mp hx]
      exact Value.not_half_ofString "unrecognized token"
    · cases hx

end Tab

/-! ## §5 Songs -/

section

variable {F R : Type} [Scalar R]

theorem Tab.addsWhole_readWarning (l : Layout F) (g : Grid R) (text : Text) :
    AddsWhole (readWarning l g text) := by
  refine (Work.addsWhole_of _).bind_of_leads fun _ r _ hleads =>
    (Work.addsWhole_warnAll ?_).bind fun _ => addsWhole_pure _
  obtain ⟨hr, -⟩ := Work.gives_of.mp hleads
  rw [read_outline] at hr
  obtain ⟨notes, -, hr⟩ := Except.bind_eq_ok.mp hr
  cases hr
  unfold Reading.warnings
  split
  · exact nofun
  · refine List.forall_mem_singleton.mpr (Warning.isWhole_skipped (List.forall_mem_map.mpr ?_))
    exact fun x hx => not_half_skips l text x (List.mem_of_mem_take hx)

theorem Tab.addsWhole_writeWarning (l : Layout F) (g : Grid R) (notes : List (Note R)) :
    AddsWhole (writeWarning l g notes) := by
  refine (Work.addsWhole_of _).bind fun w => (Work.addsWhole_warnAll ?_).bind fun _ =>
    addsWhole_pure _
  unfold Writing.warnings
  split
  · exact nofun
  · exact List.forall_mem_singleton.mpr (Warning.isWhole_unlabelled _ _)

namespace Song

theorem addsWhole_adopt (seen : Shelves (Value R)) (notes : List (Note R)) :
    AddsWhole (adopt seen notes) := by
  induction notes generalizing seen with
  | nil => exact addsWhole_pure _
  | cons n rest ih =>
    -- Whichever id the note gets, the others are adopted after it
    have hadopts {id : Work (Value R)} (hid : AddsWhole id)
        (f : Value R → List (Note R) × List (Value R) → List (Note R) × List (Value R)) :
        AddsWhole (do
          let id ← id
          let found ← adopt (seen.put (idCode id) id) rest
          return f id found) :=
      hid.bind fun id => (ih _).bind fun _ => addsWhole_pure _
    unfold adopt
    dsimp only
    split
    · exact addsWhole_throw_bind _ _
    · split
      · exact hadopts Work.addsWhole_freshId.map _
      · exact hadopts (addsWhole_pure n.id) _

theorem addsWhole_own (notes : List (Note R)) : AddsWhole (own notes) := by
  refine (addsWhole_adopt _ _).bind fun _ => ?_
  dsimp only
  split
  · split
    · exact addsWhole_throw_bind _ _
    · exact (Work.addsWhole_warn (Warning.isWhole_reissued (Value.not_half_shown _))).bind
        fun _ => addsWhole_pure _
  · exact addsWhole_pure _

/-- **Songs are made so.** -/
theorem addsWhole_make (d : Draft R) : AddsWhole (make d) := by
  have hid : AddsWhole (d.id.elim Work.freshId pure) := by
    cases d.id with
    | none => exact Work.addsWhole_freshId
    | some id => exact addsWhole_pure id
  refine hid.bind fun _ => ?_
  split
  · exact addsWhole_throw _
  · exact (Work.addsWhole_of _).bind fun _ => (Work.addsWhole_of _).bind fun _ =>
      (addsWhole_own _).bind fun _ => Work.addsWhole_now.bind fun _ => addsWhole_pure _

theorem addsWhole_compose (l : Layout F) (sheet : Sheet R) : AddsWhole (compose l sheet) :=
  (Work.addsWhole_of _).bind fun _ => (Tab.addsWhole_readWarning _ _ _).bind fun _ => addsWhole_make _

theorem addsWhole_ofText (text : Text) : AddsWhole (ofText text : Work (Song R)) :=
  (Work.addsWhole_of _).bind fun _ => (Work.addsWhole_of _).bind fun _ => addsWhole_make _

end Song

end

section

variable {F R : Type} [Analytic F] [Scalar R]

theorem Transcription.addsWhole_listen (t : Transcription F R)
    (ear : Nat → Thresholds F → Except Fault (List (HeardNote F R))) : AddsWhole (t.listen ear) := by
  unfold listen
  split
  · exact addsWhole_pure _
  · split
    · exact (Work.addsWhole_warn Warning.isWhole_retrying).bind fun _ => addsWhole_pure _
    · exact addsWhole_pure _

theorem Transcription.addsWhole_song (t : Transcription F R) (notes : List (Note R)) (title : Text)
    (artist : Value R) : AddsWhole (t.song notes title artist) :=
  (Work.addsWhole_of _).bind fun _ => (Tab.addsWhole_writeWarning _ _ _).bind fun _ =>
    Song.addsWhole_make _

theorem Midi.addsWhole_ofSong {l : Layout F} (hname : ∀ p ∈ l.name, p.isHalf = false) (name : Text)
    (program velocity : Int) (song : Song R) : AddsWhole (ofSong l name program velocity song) := by
  refine (Work.addsWhole_of _).bind fun _ => ?_
  dsimp only
  split
  · exact (Work.addsWhole_warn (Warning.isWhole_missingKeys hname)).bind fun _ => addsWhole_pure _
  · exact addsWhole_pure _

end

/-! ## §6 Tasks and runs -/

section

variable {R S α : Type}

namespace Task

theorem addsWhole_ofWork {w : Work α} (h : AddsWhole w) : AddsWhole (ofWork w : Task S α) := by
  intro desk a desk' hleads
  obtain ⟨j, hgives, rfl⟩ := leads_ofWork.mp hleads
  exact h desk.journal a j hgives

theorem addsWhole_of (result : Except Fault α) : AddsWhole (of result : Task S α) := by
  refine addsWhole_of_same fun desk a desk' h => ?_
  obtain ⟨-, rfl⟩ := leads_of.mp h
  rfl

theorem addsWhole_files : AddsWhole (Task.files : Task S (Files S)) := by
  refine addsWhole_of_same fun desk a desk' h => ?_
  obtain ⟨-, rfl⟩ := leads_files.mp h
  rfl

theorem addsWhole_contains (p : Path) : AddsWhole (contains p : Task S Bool) :=
  addsWhole_files.bind fun _ => addsWhole_of _

theorem addsWhole_makeRoom (p : Path) : AddsWhole (makeRoom p : Task S Unit) := by
  refine addsWhole_of_same fun desk a desk' h => ?_
  obtain ⟨room, -, rfl⟩ := leads_makeRoom.mp h
  rfl

theorem addsWhole_put (p : Path) (content : Content S) : AddsWhole (put p content) := by
  refine addsWhole_of_same fun desk a desk' h => ?_
  obtain ⟨files, -, rfl⟩ := leads_put.mp h
  rfl

theorem addsWhole_tryCatch {w : Task S α} (h : AddsWhole w) (fault : Fault) :
    AddsWhole (tryCatch w fun _ => throw fault) :=
  fun desk a desk' hleads => h desk a desk' (leads_tryCatch.mp hleads)

variable [Scalar R]

theorem addsWhole_saveSong (p : Path) (song : Song R) : AddsWhole (saveSong p song : Task S Unit) := by
  refine addsWhole_of_same fun desk a desk' h => ?_
  obtain ⟨-, files, -, rfl⟩ := leads_saveSong.mp h
  rfl

theorem addsWhole_loadSong (p : Path) : AddsWhole (loadSong p : Task S (Song R)) := by
  have htext : AddsWhole (songText p : Task S Text) := by
    refine addsWhole_of_same fun desk a desk' h => ?_
    obtain ⟨-, rfl⟩ := leads_songText.mp h
    rfl
  exact htext.bind fun _ => addsWhole_ofWork (Song.addsWhole_ofText _)

omit [Scalar R] in
theorem addsWhole_savePiece (p : Path) (piece : Midi.Piece R) (formats : Formats R S) :
    AddsWhole (savePiece p piece formats) :=
  (addsWhole_makeRoom p).bind fun _ => (addsWhole_of _).bind fun _ => addsWhole_put p _

theorem addsWhole_loadParts [Scalar S] (p : Path) (formats : Formats R S) :
    AddsWhole (loadParts p formats) := by
  refine (addsWhole_contains p).bind fun there => ?_
  cases there with
  | false => exact addsWhole_throw _
  | true => exact addsWhole_files.bind fun _ => (addsWhole_of _).bind fun _ => addsWhole_of _

omit [Scalar R] in
theorem addsWhole_saveRecording (p : Path) (recording : Recording S) (formats : Formats R S) :
    AddsWhole (saveRecording p recording formats) := by
  refine (addsWhole_makeRoom p).bind fun _ => (addsWhole_of _).bind fun kept =>
    addsWhole_tryCatch ?_ _
  induction kept with
  | nil => exact addsWhole_pure _
  | cons file kept ih => exact (addsWhole_put _ _).bind fun _ => ih

omit [Scalar R] in
theorem addsWhole_loadRecording (p : Path) (formats : Formats R S) :
    AddsWhole (loadRecording p formats) :=
  addsWhole_files.bind fun _ => (addsWhole_of _).bind fun _ => (addsWhole_of _).bind fun _ =>
    addsWhole_of _

end Task

namespace Run

theorem addsWhole_task {t : Task S α} (h : AddsWhole t) : AddsWhole (task t) := by
  intro console a console' hleads
  obtain ⟨desk, htask, rfl⟩ := leads_task.mp hleads
  exact h console.desk a desk htask

theorem addsWhole_work {w : Work α} (h : AddsWhole w) : AddsWhole (work w : Run S α) :=
  addsWhole_task (Task.addsWhole_ofWork h)

theorem addsWhole_of (result : Except Fault α) : AddsWhole (of result : Run S α) := by
  refine addsWhole_of_same fun console a console' h => ?_
  obtain ⟨-, rfl⟩ := leads_of.mp h
  rfl

theorem addsWhole_say (screen : Screen) (markup : Text) :
    AddsWhole (say screen markup : Run S Unit) := by
  refine addsWhole_of_same fun console a console' h => ?_
  obtain ⟨shown, -, rfl⟩ := leads_say.mp h
  rfl

end Run

end

/-- The warnings of whole work can be said. -/
theorem Screen.Lawful.sayable_warnings {screen : Screen} (h : screen.Lawful) {ws : List Warning}
    {j : Journal} (hgiven : j.given = ws ++ []) (hwhole : ∀ w ∈ ws, w.IsWhole) :
    ∀ w ∈ j.warnings, screen.Sayable (Run.warningMarkup screen w) := by
  intro w hw
  rw [Journal.warnings, hgiven, List.append_nil] at hw
  exact h.sayable_warning w.message (hwhole w (List.mem_reverse.mp hw))

end Lamella
