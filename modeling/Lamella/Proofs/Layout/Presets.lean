import Lamella.Layout.Preset
import Lamella.Proofs.Layout.Climb

/-!
# Instruments as they are sold

An instrument as it is sold has few keys, and what is engraved on a key is short: so are the labels
that tablature is written with. Which layout it has does not depend on the journal, which is only
told if the root was not understood.

## Main definitions

- `Work.OnlyWarns`: work that gives the same result from every journal.

## Main statements

- `Preset.exists_generate`: the layout of an instrument depends on no journal.
- `Preset.size_le`, `Preset.length_label_le`: an instrument has few keys and short labels.
-/

namespace Lamella

/-! ## §1 What is engraved -/

/-- A label that is read from a text is written in no more points. -/
theorem Label.length_text_le {s : Text} {l : Label} (h : ofText? s = some l) :
    l.text.length ≤ s.length := by
  obtain ⟨c, -, -, htext⟩ := text_eq (readable_of_ofText? h)
  have hfeed : (withoutLineFeed s).length ≤ s.length := by
    unfold withoutLineFeed
    split
    · rw [List.length_dropLast]
      omega
    · exact le_refl _
  have hmarkers : l.markers + 1 = (withoutLineFeed s).length := by
    unfold ofText? ofPlain? at h
    split at h
    · rename_i hs
      split at h
      · cases h
        rw [hs]
        simp
      · cases h
    · cases h
  have hnonneg := (readable_of_ofText? h).markers_nonneg
  rw [htext, List.length_cons, glyphs, List.length_replicate]
  omega

/-- A label that tablature is written with is engraved on a key, in no fewer points. -/
theorem Layout.exists_key_of_labelIn {F : Type} (l : Layout F) {index : Int} {s : Text}
    (h : labelIn l.addresses index = some s) :
    ∃ k ∈ l.keys, s.length ≤ k.displayDegree.length := by
  obtain ⟨label, hlabel, rfl⟩ := Option.map_eq_some_iff.mp h
  obtain ⟨a, hfound, rfl⟩ := Option.map_eq_some_iff.mp hlabel
  obtain ⟨k, hk, -, hengraved⟩ :=
    (mem_foldl_enter (List.mem_of_find?_eq_some hfound)).resolve_left List.not_mem_nil
  exact ⟨k, hk, Label.length_text_le hengraved⟩

namespace Layout

variable {F : Type} [Analytic F]

/-- What is listed for the keys of a calibrated instrument. -/
theorem rows_bounds {size : Int} {rows : List Row} (h : rows? size = some rows) :
    (rows.length : Int) = size ∧ ∀ r ∈ rows, (r.displayDegree : Text).length ≤ 3 := by
  unfold rows? at h
  split_ifs at h with hsize hsize
  · cases h
    exact ⟨by rw [hsize]; decide, by decide +kernel⟩
  · cases h
    exact ⟨by rw [hsize]; decide, by decide +kernel⟩

theorem bounds_of_table {size : Int} {l : Layout F} (h : ofTable size = .ok l) :
    (l.size : Int) = size ∧ ∀ k ∈ l.keys, k.displayDegree.length ≤ 3 := by
  unfold ofTable at h
  cases hrows : rows? size with
  | none => simp [hrows] at h
  | some rows =>
    rw [hrows] at h
    obtain ⟨hlength, hengraved⟩ := rows_bounds hrows
    obtain ⟨keys, hkeys, hmake⟩ := Except.bind_eq_ok.mp h
    have hperm := keys_perm_of_make hmake
    have hrelated := Except.mapM_eq_ok.mp hkeys
    refine ⟨?_, fun k hk => ?_⟩
    · rw [Layout.size, hperm.length_eq, ← hrelated.length_eq, List.length_zipIdx, hlength]
    · obtain ⟨⟨r, i⟩, hmem, hkey⟩ := hrelated.exists_left (hperm.mem_iff.mp hk)
      obtain ⟨frequency, -, hkey⟩ := Except.bind_eq_ok.mp hkey
      cases hkey
      exact hengraved r (List.fst_mem_of_mem_zipIdx hmem)

end Layout

namespace Tuning

theorem five_le_length_steps (scale : Scale) : 5 ≤ scale.steps.length := by cases scale <;> decide

/-- The degrees of a scale are written with one digit. -/
theorem length_degree (scale : Scale) (i : Nat) :
    (toString (scale.steps.getD i (0, 0)).2 : Text).length = 1 := by
  have hlisted : ∀ step ∈ scale.steps, (toString step.2 : Text).length = 1 := by
    cases scale <;> decide
  by_cases hi : i < scale.steps.length
  · rw [List.getD_eq_getElem _ _ hi]
    exact hlisted _ (List.getElem_mem hi)
  · rw [List.getD_eq_default _ _ (not_lt.mp hi)]
    decide

/-- What is engraved: a digit, the glyphs, and perhaps that a note is raised. -/
theorem length_engraved (scale : Scale) (i j : Nat) (markers : Nat) :
    (engraved (scale.steps.getD i (0, 0)).2 (scale.steps.getD j (0, 0)).2 markers).length ≤
      2 + markers := by
  have htext (i : Nat) :
      (Label.mk (scale.steps.getD i (0, 0)).2 markers).text.length = 1 + markers := by
    rw [Label.text, List.length_append, length_degree, Label.glyphs, List.length_replicate,
      Int.toNat_natCast]
  have hraised : (Text.ofString "#").length = 1 := rfl
  unfold engraved
  split
  · rw [List.length_append, htext, hraised]
    omega
  · rw [htext]
    omega

variable {F : Type} [Analytic F]

/-- **A generated layout has as many keys as are asked for**, and little is engraved on them. -/
theorem bounds_of_generate {t : Tuning} {count : Int} {l : Layout F}
    (h : t.generate count = .ok l) :
    (l.size : Int) = count ∧ ∀ k ∈ l.keys, (k.displayDegree.length : Int) ≤ 3 + count / 5 := by
  unfold generate at h
  split_ifs at h with hcount hlisted
  · obtain ⟨hsize, hengraved⟩ := Layout.bounds_of_table h
    refine ⟨hsize, fun k hk => ?_⟩
    have hthree := hengraved k hk
    omega
  · obtain ⟨keys, hkeys, hmake⟩ := Except.bind_eq_ok.mp h
    have hperm := Layout.keys_perm_of_make hmake
    have hrelated := Except.mapM_eq_ok.mp hkeys
    refine ⟨?_, fun k hk => ?_⟩
    · rw [Layout.size, hperm.length_eq, ← hrelated.length_eq, List.length_range]
      omega
    · obtain ⟨step, hstep, hkey⟩ := hrelated.exists_left (hperm.mem_iff.mp hk)
      obtain ⟨number, -, hkey⟩ := Except.bind_eq_ok.mp hkey
      obtain ⟨frequency, -, hkey⟩ := Except.bind_eq_ok.mp hkey
      cases hkey
      have hlength := length_engraved t.scale (step % t.scale.steps.length)
        (step % t.scale.steps.length - 1) (step / t.scale.steps.length)
      -- A scale has five steps or more, so at most every fifth step adds a glyph
      have hmarkers : step / t.scale.steps.length ≤ step / 5 :=
        Nat.div_le_div_left (five_le_length_steps t.scale) (by omega)
      have hbelow := List.mem_range.mp hstep
      dsimp only
      omega

end Tuning

/-! ## §2 Instruments -/

namespace Work

/-- Work that gives the same result from every journal, which it only adds warnings to. -/
def OnlyWarns {α : Type} (w : Work α) (a : α) (ws : List Warning) : Prop :=
  ∀ j, w.Gives j a { j with given := ws ++ j.given }

end Work

namespace Preset

variable {F : Type} [Analytic F]

/-- What is known of the layout of an instrument. -/
theorem exists_generate {id : Text} {root : Option Text} {scale : Text} {l : Layout F}
    {j j' : Journal} (h : (layout id root scale).Gives j l j') :
    ∃ ws, (layout id root scale : Work (Layout F)).OnlyWarns l ws ∧
      ∃ p ∈ all, ∃ t : Tuning, t.generate p.keys = .ok l := by
  unfold layout Layout.generate Tuning.make at h ⊢
  simp only [Work.gives_bind, Work.gives_of, Work.gives_pure] at h
  obtain ⟨p, _, ⟨hp, rfl⟩, t, k, ⟨scale', _, ⟨hscale, rfl⟩, ⟨rootClass, rootOctave⟩, k', hroot, rfl,
    rfl⟩, hl, rfl⟩ := h
  obtain ⟨rootClass', rootOctave', ws, honly⟩ := Tuning.exists_root (root.getD p.root) 4
  have hsame : (rootClass, rootOctave) = (rootClass', some rootOctave') :=
    Except.ok.inj (Prod.ext_iff.mp (hroot.symm.trans (honly _))).1
  cases hsame
  refine ⟨ws, fun j => ?_, p, ?_, _, hl⟩
  · simp only [Work.gives_bind, Work.gives_of, Work.gives_pure]
    exact ⟨p, j, ⟨hp, rfl⟩, _, _, ⟨scale', j, ⟨hscale, rfl⟩, _, _, honly j, rfl, rfl⟩, hl, rfl⟩
  · unfold ofId at hp
    split at hp
    · rename_i found hfound
      cases hp
      exact List.mem_of_find?_eq_some hfound
    · cases hp

/-- No instrument has more than 34 keys. -/
theorem keys_le {p : Preset} (hp : p ∈ all) : p.keys ≤ 34 := by
  have hall : ∀ p ∈ all, p.keys ≤ 34 := by decide +kernel
  exact hall p hp

variable {id : Text} {root : Option Text} {scale : Text} {l : Layout F} {j j' : Journal}

/-- **An instrument has few keys.** -/
theorem size_le (h : (layout id root scale).Gives j l j') : l.size ≤ 34 := by
  obtain ⟨-, -, p, hp, t, hgenerate⟩ := exists_generate h
  have hsize := (Tuning.bounds_of_generate hgenerate).1
  have hkeys := keys_le hp
  omega

/-- **An instrument has short labels.** -/
theorem length_label_le (h : (layout id root scale).Gives j l j') {index : Int} {s : Text}
    (hs : Layout.labelIn l.addresses index = some s) : s.length ≤ 9 := by
  obtain ⟨-, -, p, hp, t, hgenerate⟩ := exists_generate h
  obtain ⟨k, hk, hle⟩ := l.exists_key_of_labelIn hs
  have hengraved := (Tuning.bounds_of_generate hgenerate).2 k hk
  have hkeys := keys_le hp
  omega

end Preset

/-! ## §3 Any number of keys -/

/-- **There is a layout of any number of keys**, if their frequencies can be computed. The first
label leads to a key of it. -/
theorem Tuning.exists_generate {F : Type} [Analytic F] {t : Tuning} {root : Int} {count : Nat}
    (hcount : 1 ≤ count) (hlisted : t.calibrated = false) (hroot : t.rootNumber = .ok root)
    (hfrequency : ∀ n, ∃ f : F, Pitch.frequencyOfNumber n = .ok f) :
    ∃ l : Layout F, t.generate count = .ok l ∧
      ∃ index, Layout.indexIn l.addresses ⟨1, 0⟩ = some index := by
  obtain ⟨l, hl⟩ := exists_generate_of_frequencies hcount hlisted hroot fun i _ => hfrequency _
  have hclimbs := climbs_of_generate hcount hlisted hroot hl
  obtain ⟨k, hk, semitones, -, -, hstep, hmarkers, -⟩ := hclimbs.key_at 0 hcount
  -- The climb begins with the first degree
  have hdegree : k.degree = 1 := by
    have hfirst : t.scale.steps[0 % t.scale.steps.length]? = some (0, 1) := by
      cases t.scale <;> rfl
    exact (Prod.mk.inj (Option.some.inj (hstep.symm.trans hfirst))).2
  refine ⟨l, hl, k.index, (hclimbs.lookup_iff ⟨1, 0⟩ k.index).mpr ⟨k, hk, ?_, rfl, ?_⟩⟩
  · rw [hdegree]
    decide
  · rw [hdegree, hmarkers, Nat.zero_div]
    rfl

namespace Preset

variable {F : Type} [Analytic F]

/-- **There is a layout of the instrument that is meant where none is named**, if its frequencies
can be computed, and nothing is warned of. -/
theorem exists_usualLayout (hfrequency : ∀ n, ∃ f : F, Pitch.frequencyOfNumber n = .ok f) :
    ∃ l : Layout F, (usualLayout : Work (Layout F)).OnlyWarns l [] ∧
      ∃ index, Layout.indexIn l.addresses ⟨1, 0⟩ = some index := by
  let t : Tuning := ⟨.major, 0, some 4, false⟩
  have hlayout : ∃ l : Layout F, t.generate (17 : Nat) = .ok l ∧
      ∃ index, Layout.indexIn l.addresses ⟨1, 0⟩ = some index :=
    Tuning.exists_generate (by decide) rfl rfl hfrequency
  obtain ⟨l, hl, hindex⟩ := hlayout
  let p : Preset :=
    { id := "17", name := "Standard 17 Tines", keys := 17, description := "2 octaves + 2 notes" }
  have hpreset : ofId usual = .ok p := by decide +kernel
  have hscale : Scale.ofName "major" = .ok .major := by decide +kernel
  have hroot (j : Journal) : (Tuning.root "C4" (some 4)).Gives j (0, some 4) j := by
    have hname : Pitch.ofName "C4" (some 4) = .ok (0, some 4) := by decide +kernel
    rw [Tuning.root, hname]
    exact Work.gives_pure.mpr ⟨rfl, rfl⟩
  refine ⟨l, fun j => ?_, hindex⟩
  have htuning : (Tuning.make "C4" "major" (some 4) false).Gives j t j :=
    Work.gives_bind.mpr ⟨_, j, Work.gives_of.mpr ⟨hscale, rfl⟩,
      Work.gives_bind.mpr ⟨_, j, hroot j, Work.gives_pure.mpr ⟨rfl, rfl⟩⟩⟩
  have hgenerate : (Layout.generate 17 "C4" "major" (some 4) false : Work (Layout F)).Gives j l j :=
    Work.gives_bind.mpr ⟨t, j, htuning, Work.gives_of.mpr ⟨hl, rfl⟩⟩
  unfold usualLayout layout
  simp only [Option.getD_none]
  exact Work.gives_bind.mpr ⟨p, j, Work.gives_of.mpr ⟨hpreset, rfl⟩, hgenerate⟩

end Preset

end Lamella
