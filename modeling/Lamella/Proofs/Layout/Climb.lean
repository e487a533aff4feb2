import Lamella.Proofs.Layout.Lookup
import Lamella.Proofs.Scalar.Octaves
import Lamella.Proofs.Song.Owning

/-!
# Climbs from the middle outwards

A generated layout can always be put together from its keys: the steps of the climb lie alternately
to the left and to the right of those before, so that the first steps fill a block around the middle
and all steps together fill the row. Pitch rises with each step. A key with a degree displays the
label of its degree and octave, no other key displays it, and so labels and such keys lead to each
other; a key between two degrees has no label.

## Main definitions

- `Tuning.OnStep`: what the key of a step of the climb is like.
- `Layout.Climbs`: what a generated layout is like.

## Main statements

- `Layout.mem_take_centerOut`: the first steps of the climb fill a block around the middle.
- `Tuning.consecutive_of_mapM`: the keys of a climb make a layout.
- `Tuning.generated_layouts`: what is generated for any number of keys, any scale and any root.
-/

namespace Lamella

/-! ## §1 Where the steps lie -/

namespace Layout

/-- The places of the climb are those of the row. -/
theorem position_perm (count : Nat) :
    ((List.range count).map (position count)).Perm ((List.range count).map Int.ofNat) := by
  have hinjective : Function.Injective (position count) := fun s t h => by
    rw [← stepAt_position count s, h, stepAt_position]
  have hnodup : ((List.range count).map (position count)).Nodup := List.nodup_range.map hinjective
  have hsubset : (List.range count).map (position count) ⊆ (List.range count).map Int.ofNat := by
    intro index hindex
    obtain ⟨step, hstep, rfl⟩ := List.mem_map.mp hindex
    have hbelow := List.mem_range.mp hstep
    have hplace : 0 ≤ position count step ∧ position count step < count := by
      unfold position
      dsimp only
      split <;> omega
    refine List.mem_map.mpr ⟨(position count step).toNat, List.mem_range.mpr ?_, ?_⟩
    · omega
    · exact Int.toNat_of_nonneg hplace.1
  exact (List.subperm_of_subset hnodup hsubset).perm_of_length_le (by simp)

theorem getElem?_centerOut {count step : Nat} (h : step < count) :
    (centerOut count)[step]? = some (position count step) := by
  simp [centerOut, h]

/-- **The first steps of the climb fill a block around the middle.** -/
theorem mem_take_centerOut {count m : Nat} (hm : m ≤ count) {index : Int} :
    index ∈ (centerOut count).take m ↔
      ((count / 2 : Nat) : Int) - (m / 2 : Nat) ≤ index ∧
        index < ((count / 2 : Nat) : Int) - (m / 2 : Nat) + m := by
  have htake : (centerOut count).take m = (List.range m).map (position count) := by
    rw [centerOut, Int.toNat_natCast, ← List.map_take, List.take_range, min_eq_left hm]
  rw [htake, List.mem_map]
  constructor
  · rintro ⟨step, hstep, rfl⟩
    have hbelow := List.mem_range.mp hstep
    unfold position
    dsimp only
    split <;> omega
  · rintro ⟨hlow, hhigh⟩
    refine ⟨stepAt count index, List.mem_range.mpr ?_, position_stepAt count index⟩
    unfold stepAt
    dsimp only
    split <;> omega

end Layout

/-! ## §2 The keys of a climb -/

namespace Tuning

/-- The degrees of a scale are those that labels are read with, and zero. -/
theorem degree_bounds (scale : Scale) : ∀ step ∈ scale.steps, step.2 ≠ 0 →
    1 ≤ step.2 ∧ step.2 ≤ 7 := by
  cases scale <;> decide

/-- No two steps of a scale have the same degree, but those between two degrees. -/
theorem degree_injective (scale : Scale) : ∀ i < scale.steps.length, ∀ j < scale.steps.length,
    (scale.steps.getD i (0, 0)).2 = (scale.steps.getD j (0, 0)).2 →
      (scale.steps.getD i (0, 0)).2 ≠ 0 → i = j := by
  cases scale <;> decide

end Tuning

variable {F : Type}

/-- A key sounds a pitch number: its frequency is computed from the number, and it is named by it. -/
structure Key.HasPitch [Analytic F] (k : Key F) (number : Int) : Prop where
  frequency_eq : Pitch.frequencyOfNumber number = .ok k.frequency
  noteName_eq : k.noteName = Pitch.name number
  octave_eq : k.octave = Pitch.octave number

namespace Tuning

variable [Analytic F] {t : Tuning} {root : Int} {count step : Nat} {k : Key F}

/-- What the key of a step of the climb is like: where it lies, how it sounds, and what is engraved on
it. -/
structure OnStep (t : Tuning) (root : Int) (count step : Nat) (k : Key F) : Prop where
  index_eq : k.index = Layout.position count step
  hasPitch : k.HasPitch (pitchOf t.scale root step)
  degree_eq : k.degree = (t.scale.steps.getD (step % t.scale.steps.length) (0, 0)).2
  markers_eq : k.markers = (step / t.scale.steps.length : Nat)
  displayDegree_eq : ∃ lower, k.displayDegree = engraved k.degree lower k.markers

theorem onStep_of_key (hroot : t.rootNumber = .ok root) (h : t.key count step = .ok k) :
    t.OnStep root count step k := by
  obtain ⟨number, hnumber, h⟩ := Except.bind_eq_ok.mp h
  obtain ⟨frequency, hfrequency, h⟩ := Except.bind_eq_ok.mp h
  obtain rfl : root = number := Except.ok.inj (hroot.symm.trans hnumber)
  cases h
  exact ⟨rfl, ⟨hfrequency, rfl, rfl⟩, rfl, rfl, _, rfl⟩

theorem exists_key (hroot : t.rootNumber = .ok root)
    (h : ∃ f : F, Pitch.frequencyOfNumber (pitchOf t.scale root step) = .ok f) :
    ∃ k : Key F, t.key count step = .ok k := by
  obtain ⟨f, hf⟩ := h
  exact ⟨_, Except.bind_eq_ok.mpr ⟨root, hroot, Except.bind_eq_ok.mpr ⟨f, hf, rfl⟩⟩⟩

/-- Only the frequency of a key can fail. -/
theorem fault_of_key {fault : Fault} (hroot : t.rootNumber = .ok root)
    (h : (t.key count step : Except Fault (Key F)) = .error fault) :
    (Pitch.frequencyOfNumber (pitchOf t.scale root step) : Except Fault F) = .error fault := by
  rcases Except.bind_eq_error.mp h with h | ⟨number, hnumber, h⟩
  · exact absurd (hroot.symm.trans h) nofun
  · obtain rfl : root = number := Except.ok.inj (hroot.symm.trans hnumber)
    rcases Except.bind_eq_error.mp h with h | ⟨f, -, h⟩
    · exact h
    · cases h

/-- **The keys of a climb make a layout.** -/
theorem consecutive_of_mapM {keys : List (Key F)} (hcount : 1 ≤ count)
    (hroot : t.rootNumber = .ok root) (h : (List.range count).mapM (t.key count) = .ok keys) :
    Layout.Consecutive keys := by
  have hrelated := Except.mapM_eq_ok.mp h
  have hlength : keys.length = count := by rw [← hrelated.length_eq, List.length_range]
  have hindices : keys.map Key.index = (List.range count).map (Layout.position count) := by
    symm
    rw [← List.forall₂_eq_eq_eq, List.forall₂_map_left_iff, List.forall₂_map_right_iff]
    exact hrelated.imp fun step k hk => (onStep_of_key hroot hk).index_eq.symm
  refine ⟨?_, ?_⟩
  · rintro rfl
    rw [List.length_nil] at hlength
    omega
  · rw [hindices, hlength]
    exact Layout.position_perm count

end Tuning

/-! ## §3 What is engraved -/

/-- What is engraved on a key between two degrees is no label. -/
theorem Label.ofText?_raised (s : Text) : ofText? ("#" ++ s) = none := by
  have hraised : (↑"#" : Text) = [.char '#'] := by decide
  have hplain (rest : Text) : ofPlain? (.char '#' :: rest) = none := by
    simp [ofPlain?, show isDegree '#' = false by decide]
  rw [hraised, List.singleton_append, ofText?, withoutLineFeed]
  split
  · cases s with
    | nil => rfl
    | cons p s => exact hplain _
  · exact hplain s

namespace Tuning

variable [Analytic F] {t : Tuning} {root : Int} {count step : Nat} {k : Key F}

/-- What is engraved on a key with a degree is the written label of its degree and octave. -/
theorem OnStep.displayDegree_of_degree (h : t.OnStep root count step k) (hdegree : k.degree ≠ 0) :
    k.displayDegree = (Label.mk k.degree k.markers).text := by
  obtain ⟨lower, hengraved⟩ := h.displayDegree_eq
  rw [hengraved, engraved, if_neg hdegree]

theorem OnStep.readable (h : t.OnStep root count step k) (hdegree : k.degree ≠ 0) :
    (Label.mk k.degree k.markers).Readable := by
  have hstep := Nat.mod_lt step (steps_length_pos t.scale)
  have hdegree' := h.degree_eq
  rw [List.getD_eq_getElem _ _ hstep] at hdegree'
  rw [hdegree'] at hdegree
  obtain ⟨hone, hseven⟩ := degree_bounds t.scale _ (List.getElem_mem hstep) hdegree
  refine ⟨hdegree' ▸ hone, hdegree' ▸ hseven, ?_⟩
  dsimp only
  rw [h.markers_eq]
  exact Int.natCast_nonneg _

/-- A key displays the label of its degree and octave, or if it has no degree, no label. -/
theorem OnStep.label?_eq (h : t.OnStep root count step k) :
    k.label? = if k.degree = 0 then none else some ⟨k.degree, k.markers⟩ := by
  split_ifs with hdegree
  · obtain ⟨lower, hengraved⟩ := h.displayDegree_eq
    rw [Key.label?, hengraved, engraved, if_pos hdegree]
    exact Label.ofText?_raised _
  · rw [Key.label?, h.displayDegree_of_degree hdegree, Label.ofText?_text (h.readable hdegree)]

/-- No two steps have the same degree in the same octave. -/
theorem OnStep.step_eq {step' : Nat} {k' : Key F} (h : t.OnStep root count step k)
    (h' : t.OnStep root count step' k') (hdegree : k.degree ≠ 0) (hsame : k.degree = k'.degree)
    (hoctave : k.markers = k'.markers) : step = step' := by
  have hpos := steps_length_pos t.scale
  rw [h.degree_eq, h'.degree_eq] at hsame
  rw [h.degree_eq] at hdegree
  rw [h.markers_eq, h'.markers_eq, Int.natCast_inj] at hoctave
  have hplace := degree_injective t.scale _ (Nat.mod_lt step hpos) _ (Nat.mod_lt step' hpos) hsame
    hdegree
  rw [← Nat.div_add_mod step t.scale.steps.length, ← Nat.div_add_mod step' t.scale.steps.length,
    hoctave, hplace]

end Tuning

/-! ## §4 Generated layouts -/

/-- What a generated layout is like. The key at the place of each step sounds as many semitones above
the root as the step of the scale, and an octave more for each time that the scale is gone through.
Keys with a degree and their labels lead to each other, and other keys have no label. -/
structure Layout.Climbs [Analytic F] (l : Layout F) (count : Nat) (scale : Scale) (root : Int) :
    Prop where
  size_eq : l.size = count
  key_at : ∀ i < count, ∃ k ∈ l.keys, ∃ semitones,
    (centerOut count)[i]? = some k.index ∧ l.get k.index = .ok k ∧
    scale.steps[i % scale.steps.length]? = some (semitones, k.degree) ∧
    k.markers = (i / scale.steps.length : Nat) ∧
    Tuning.pitchOf scale root i = root + semitones + 12 * (i / scale.steps.length : Nat) ∧
    k.HasPitch (Tuning.pitchOf scale root i)
  labelled : ∀ k ∈ l.keys, k.degree ≠ 0 →
    l.resolve k.displayDegree = some k.index ∧ l.labelFor k.index = some k.displayDegree
  unlabelled : ∀ k ∈ l.keys, k.degree = 0 →
    l.resolve k.displayDegree = none ∧ l.labelFor k.index = none
  lookup_iff : ∀ label index, l.lookup label = some index ↔
    ∃ k ∈ l.keys, k.degree ≠ 0 ∧ k.index = index ∧ label = ⟨k.degree, k.markers⟩

namespace Tuning

variable [Analytic F] {t : Tuning} {root : Int} {count : Nat} {l : Layout F}

/-- Labels lead to the keys with a degree. -/
theorem lookup_iff_of_onStep (h : ∀ k ∈ l.keys, ∃ step, t.OnStep root count step k) {label : Label}
    {index : Int} : l.lookup label = some index ↔
      ∃ k ∈ l.keys, k.degree ≠ 0 ∧ k.index = index ∧ label = ⟨k.degree, k.markers⟩ := by
  have hshown {k : Key F} (hk : k ∈ l.keys) :
      k.label? = some label ↔ k.degree ≠ 0 ∧ label = ⟨k.degree, k.markers⟩ := by
    obtain ⟨step, hstep⟩ := h k hk
    rw [hstep.label?_eq]
    split_ifs with hdegree <;> simp [hdegree, eq_comm]
  -- Whatever a label leads to displays it
  have hfound {i : Int} (hi : l.lookup label = some i) :
      ∃ k ∈ l.keys, k.degree ≠ 0 ∧ k.index = i ∧ label = ⟨k.degree, k.markers⟩ := by
    rcases l.lookup_eq_some_iff.mp hi with ⟨⟨k, hk, hlabel, -, hindex⟩, -⟩ |
      ⟨-, ⟨k, hk, hlabel, hindex⟩, -⟩
    all_goals
      obtain ⟨hdegree, hsame⟩ := (hshown hk).mp hlabel
      exact ⟨k, hk, hdegree, hindex, hsame⟩
  refine ⟨hfound, ?_⟩
  rintro ⟨k, hk, hdegree, rfl, hlabel⟩
  cases hlookup : l.lookup label with
  | none =>
    have hnone := l.lookup_eq_none_iff.mp hlookup
    have hmem : k.index ∈ Layout.displaying l.keys label :=
      ⟨k, hk, (hshown hk).mpr ⟨hdegree, hlabel⟩, rfl⟩
    exact absurd hmem (hnone ▸ Set.notMem_empty _)
  | some i =>
    obtain ⟨k', hk', -, rfl, hlabel'⟩ := hfound hlookup
    obtain ⟨hsame, hoctave⟩ := Label.mk.inj (hlabel.symm.trans hlabel')
    obtain ⟨step, hstep⟩ := h k hk
    obtain ⟨step', hstep'⟩ := h k' hk'
    rw [hstep.index_eq, hstep'.index_eq, hstep.step_eq hstep' hdegree hsame hoctave]

/-- What is generated without a list is put together from the keys of the climb. -/
theorem generate_eq (hcount : 1 ≤ count) (hlisted : t.calibrated = false) :
    (t.generate count : Except Fault (Layout F)) =
      (List.range count).mapM (t.key count) >>= fun keys =>
        Layout.make keys (t.layoutName count) false := by
  unfold generate
  rw [if_neg (by omega), if_neg (by simp [hlisted])]
  rfl

/-- **Such a layout is a climb.** -/
theorem climbs_of_generate (hcount : 1 ≤ count) (hlisted : t.calibrated = false)
    (hroot : t.rootNumber = .ok root) (h : t.generate count = .ok l) :
    l.Climbs count t.scale root := by
  rw [generate_eq hcount hlisted] at h
  obtain ⟨keys, hkeys, hmake⟩ := Except.bind_eq_ok.mp h
  have hperm := Layout.keys_perm_of_make hmake
  have hrelated := Except.mapM_eq_ok.mp hkeys
  have honStep (k : Key F) (hk : k ∈ l.keys) : ∃ step, t.OnStep root count step k := by
    obtain ⟨step, -, hkey⟩ := hrelated.exists_left (hperm.mem_iff.mp hk)
    exact ⟨step, onStep_of_key hroot hkey⟩
  have hlabel {k : Key F} (hk : k ∈ l.keys) (hdegree : k.degree ≠ 0) :
      l.lookup ⟨k.degree, k.markers⟩ = some k.index :=
    (lookup_iff_of_onStep honStep).mpr ⟨k, hk, hdegree, rfl, rfl⟩
  constructor
  · rw [Layout.size, hperm.length_eq, ← hrelated.length_eq, List.length_range]
  · intro i hi
    obtain ⟨k, hk, hkey⟩ := hrelated.exists_right (List.mem_range.mpr hi)
    have hstep := onStep_of_key hroot hkey
    have hplace := Nat.mod_lt i (steps_length_pos t.scale)
    have hmem := hperm.mem_iff.mpr hk
    refine ⟨k, hmem, (t.scale.steps.getD (i % t.scale.steps.length) (0, 0)).1, ?_,
      (l.get_index hmem).2.2, ?_, hstep.markers_eq, rfl, hstep.hasPitch⟩
    · rw [hstep.index_eq]
      exact Layout.getElem?_centerOut hi
    · rw [hstep.degree_eq, Prod.mk.eta, List.getD_eq_getElem _ _ hplace,
        List.getElem?_eq_getElem hplace]
  · intro k hk hdegree
    obtain ⟨step, hstep⟩ := honStep k hk
    have hdisplayed := hstep.displayDegree_of_degree hdegree
    refine ⟨?_, ?_⟩
    · rw [hdisplayed, Layout.resolve, Layout.resolveIn, Label.ofText?_text (hstep.readable hdegree)]
      exact hlabel hk hdegree
    · rw [hdisplayed]
      exact l.labelFor_of_lookup (hlabel hk hdegree)
  · intro k hk hdegree
    obtain ⟨step, hstep⟩ := honStep k hk
    have hnone : k.label? = none := by rw [hstep.label?_eq, if_pos hdegree]
    refine ⟨?_, Option.eq_none_iff_forall_ne_some.mpr fun s hs => ?_⟩
    · rw [Layout.resolve, Layout.resolveIn]
      rw [Key.label?] at hnone
      rw [hnone, Option.bind_none]
    · obtain ⟨k', hk', hindex, label, hlabel', -⟩ := l.labelFor_eq_some_iff.mp hs
      rw [l.eq_of_index_eq hk' hk hindex, hnone] at hlabel'
      cases hlabel'
  · exact fun label index => lookup_iff_of_onStep honStep

/-- A layout can be generated if the frequencies of its pitches can be computed, -/
theorem exists_generate_of_frequencies (hcount : 1 ≤ count) (hlisted : t.calibrated = false)
    (hroot : t.rootNumber = .ok root)
    (h : ∀ i < count, ∃ f : F, Pitch.frequencyOfNumber (pitchOf t.scale root i) = .ok f) :
    ∃ l : Layout F, t.generate count = .ok l := by
  have hkey (i : Nat) (hi : i ∈ List.range count) : ∃ k : Key F,
      t.key count i = .ok k := exists_key hroot (h i (List.mem_range.mp hi))
  obtain ⟨keys, hkeys⟩ := Except.exists_mapM hkey
  obtain ⟨l, hl, -⟩ := Layout.exists_make (consecutive_of_mapM hcount hroot hkeys)
    (t.layoutName count) false
  exact ⟨l, by rw [generate_eq hcount hlisted, hkeys]; exact hl⟩

/-- and whatever is amiss is amiss with one of these frequencies. -/
theorem fault_of_generate {fault : Fault} (hcount : 1 ≤ count) (hlisted : t.calibrated = false)
    (hroot : t.rootNumber = .ok root)
    (h : (t.generate count : Except Fault (Layout F)) = .error fault) :
    ∃ i < count, (Pitch.frequencyOfNumber (pitchOf t.scale root i) : Except Fault F) =
      .error fault := by
  rw [generate_eq hcount hlisted] at h
  rcases Except.bind_eq_error.mp h with h | ⟨keys, hkeys, h⟩
  · obtain ⟨i, hi, hfault⟩ := Except.mapM_eq_error h
    exact ⟨i, List.mem_range.mp hi, fault_of_key hroot hfault⟩
  · -- The keys of a climb are not refused
    obtain ⟨l, hl, -⟩ := Layout.exists_make (consecutive_of_mapM hcount hroot hkeys)
      (t.layoutName count) false
    rw [hl] at h
    cases h

end Tuning

/-! ## §5 Layouts from names -/

namespace Tuning

variable [Analytic F]

theorem octave_of_ofName {name : Text} {octave : Int} {found : Int × Option Int}
    (h : Pitch.ofName name (some octave) = .ok found) : ∃ o, found.2 = some o := by
  unfold Pitch.ofName at h
  split at h
  · rename_i p hname
    split_ifs at h
    cases h
    obtain ⟨⟨semitone, own⟩, -, hfound⟩ := Option.bind_eq_some_iff.mp hname
    cases own <;> cases hfound <;> exact ⟨_, rfl⟩
  · cases h

/-- A root is read in its octave from any journal, with a warning perhaps. -/
theorem exists_root (name : Text) (octave : Int) : ∃ rootClass rootOctave warnings, ∀ j,
    (Tuning.root name (some octave)).Gives j (rootClass, some rootOctave)
      { j with given := warnings ++ j.given } := by
  unfold Tuning.root
  cases hname : Pitch.ofName name (some octave) with
  | ok found =>
    obtain ⟨rootOctave, hoctave⟩ := octave_of_ofName hname
    exact ⟨found.1, rootOctave, [], fun j => Work.gives_pure.mpr ⟨Prod.ext rfl hoctave, rfl⟩⟩
  | error fault =>
    refine ⟨0, octave, [.unknownRoot name], fun j => ?_⟩
    exact Work.gives_bind.mpr ⟨(), _, Work.gives_warn.mpr rfl, Work.gives_pure.mpr ⟨rfl, rfl⟩⟩

theorem ofName_name (scale : Scale) : Scale.ofName scale.name = .ok scale := by
  cases scale <;> decide +kernel

/-- The tuning of any scale and root that takes no instrument from a list. -/
theorem exists_tuning (scale : Scale) (rootName : Text) (octave : Int) :
    ∃ t : Tuning, ∃ rootClass rootOctave warnings, t.scale = scale ∧ t.calibrated = false ∧
      t.rootNumber = .ok (Pitch.number rootClass rootOctave) ∧
      ∀ j, (Tuning.root rootName (some octave)).Gives j (rootClass, some rootOctave)
          { j with given := warnings ++ j.given } ∧
        (Tuning.make rootName scale.name (some octave) false).Gives j t
          { j with given := warnings ++ j.given } := by
  obtain ⟨rootClass, rootOctave, warnings, hroot⟩ := exists_root rootName octave
  refine ⟨⟨scale, rootClass, some rootOctave, false⟩, rootClass, rootOctave, warnings, rfl, rfl, rfl,
    fun j => ⟨hroot j, ?_⟩⟩
  exact Work.gives_bind.mpr ⟨scale, j, Work.gives_of.mpr ⟨ofName_name scale, rfl⟩,
    Work.gives_bind.mpr ⟨_, _, hroot j, Work.gives_pure.mpr ⟨rfl, rfl⟩⟩⟩

/-- **What is generated for any number of keys, any scale and any root.** The root is read in its
octave, with a warning perhaps, and whatever is made of the names does not depend on the journal. A
layout is made if the frequencies of its pitches can be computed, and if none is made, one of these
frequencies is amiss: the keys always fill the row. The layout is a climb from the root; pitch rises
with each step, and the first steps fill a block around the middle. -/
theorem generated_layouts (count : Nat) (hcount : 1 ≤ count) (scale : Scale) (rootName : Text)
    (octave : Int) : ∃ rootClass rootOctave warnings, ∃ made : Except Fault (Layout F),
      (∀ j, (Tuning.root rootName (some octave)).Gives j (rootClass, some rootOctave)
        { j with given := warnings ++ j.given }) ∧
      (∀ j, (Layout.generate count rootName scale.name (some octave) false).run.run j =
        (made, { j with given := warnings ++ j.given })) ∧
      ((∀ i < count, ∃ f : F, Pitch.frequencyOfNumber
        (pitchOf scale (Pitch.number rootClass rootOctave) i) = .ok f) → ∃ l, made = .ok l) ∧
      (∀ fault, made = .error fault → ∃ i < count, (Pitch.frequencyOfNumber
        (pitchOf scale (Pitch.number rootClass rootOctave) i) : Except Fault F) = .error fault) ∧
      (∀ l, made = .ok l → l.Climbs count scale (Pitch.number rootClass rootOctave)) ∧
      (∀ i j, i < j → pitchOf scale (Pitch.number rootClass rootOctave) i <
        pitchOf scale (Pitch.number rootClass rootOctave) j) ∧
      ∀ m ≤ count, ∀ index : Int, index ∈ (Layout.centerOut count).take m ↔
        ((count / 2 : Nat) : Int) - (m / 2 : Nat) ≤ index ∧
          index < ((count / 2 : Nat) : Int) - (m / 2 : Nat) + m := by
  obtain ⟨t, rootClass, rootOctave, warnings, rfl, hlisted, hnumber, hgives⟩ :=
    exists_tuning scale rootName octave
  refine ⟨rootClass, rootOctave, warnings, t.generate count, fun j => (hgives j).1, fun j => ?_,
    exists_generate_of_frequencies hcount hlisted hnumber,
    fun fault => fault_of_generate hcount hlisted hnumber,
    fun l => climbs_of_generate hcount hlisted hnumber, fun _ _ => pitchOf_lt t.scale _,
    fun m hm index => Layout.mem_take_centerOut hm⟩
  unfold Layout.generate
  rw [(hgives j).2.run_bind]
  rfl

section

open scoped Octaves

/-- Nine keys from B flat, between the degrees too, in exact octaves. -/
theorem generated_layouts_of_nine_keys : 1 ≤ 9 ∧ ∃ l : Layout Rat,
    (∀ j, (Layout.generate 9 "Bb" "chromatic" (some 3) false).Gives j l j) ∧
      l.Climbs 9 .chromatic 58 := by
  refine ⟨by decide, ?_⟩
  obtain ⟨rootClass, rootOctave, warnings, made, hroot, hmade, hexists, -, hclimbs, -⟩ :=
    generated_layouts (F := Rat) 9 (by decide) .chromatic "Bb" 3
  have hname : Pitch.ofName "Bb" (some 3) = .ok (10, some 3) := by decide +kernel
  have hflat := hroot default
  rw [Tuning.root, hname] at hflat
  obtain ⟨hread, hjournal⟩ := Work.gives_pure.mp hflat
  cases hread
  obtain rfl : warnings = [] := by simpa using congrArg Journal.given hjournal
  have hlayout : ∃ l, made = .ok l :=
    hexists fun i _ => ⟨_, Octaves.frequencyOfNumber_eq _⟩
  obtain ⟨l, rfl⟩ := hlayout
  exact ⟨l, hmade, hclimbs l rfl⟩

end

end Tuning

end Lamella
