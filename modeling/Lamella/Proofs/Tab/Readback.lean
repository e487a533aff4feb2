import Lamella.Proofs.Order.Sorted
import Lamella.Proofs.Tab.Measures

/-!
# Reading back what was written

Notes that are put on steps and written are read back on those steps. Where a note is not on a step,
it comes back on the step nearest to it, one step long; where no label leads to its key, it does not
come back.

## Main statements

- `bucket_perm`: the labels of all steps together are the labels that were put on steps.
- `read_entriesText`: what is written of labels on steps is read back without loss.
- `read_write`: what is written of notes is read back as these notes put on steps.
- `read_write_read`: a tablature that was read, written and read again has the same notes.
- `read_of_written`: what comes back of any notes, and how many steps it takes.
-/

namespace Lamella.Tab

/-! ## §1 Steps as buckets -/

/-- Labels on steps, the labels of each step together. -/
def buckets (entries : List (Int × Text)) (steps : List Nat) : List (Text × Nat) :=
  steps.flatMap fun step => (labelsAt entries step).map fun label => (label, step)

/-- Only one step of a row without repetition is a given one. -/
theorem flatMap_ite_eq {α : Type} (x : Nat → List α) {steps : List Nat} (hsteps : steps.Nodup)
    {n : Nat} (hn : n ∈ steps) :
    (steps.flatMap fun step => if n = step then x step else []) = x n := by
  induction steps with
  | nil => exact absurd hn List.not_mem_nil
  | cons m steps ih =>
    obtain ⟨hm, hsteps⟩ := List.nodup_cons.mp hsteps
    rw [List.flatMap_cons]
    by_cases hnm : n = m
    · have hrest : (steps.flatMap fun step => if n = step then x step else []) = [] := by
        refine List.flatMap_eq_nil_iff.mpr fun step hstep => if_neg ?_
        rintro rfl
        exact hm (hnm ▸ hstep)
      rw [if_pos hnm, hrest, hnm, List.append_nil]
    · rw [if_neg hnm, ih hsteps ((List.mem_cons.mp hn).resolve_left hnm), List.nil_append]

/-- **The labels of all steps together are the labels that were put on steps.** -/
theorem bucket_perm {steps : List Nat} (hsteps : steps.Nodup) {entries : List (Int × Text)}
    (hentries : ∀ e ∈ entries, 0 ≤ e.1 ∧ e.1.toNat ∈ steps) :
    (buckets entries steps).Perm (entries.map fun e => (e.2, e.1.toNat)) := by
  induction entries with
  | nil => simp [buckets, labelsAt]
  | cons e entries ih =>
    obtain ⟨i, label⟩ := e
    obtain ⟨hi, hmem⟩ := hentries (i, label) List.mem_cons_self
    have hrest := ih fun e he => hentries e (List.mem_cons_of_mem _ he)
    -- The first entry adds its label to the bucket of its own step and to no other
    have hsplit (step : Nat) : (labelsAt ((i, label) :: entries) step).map (fun l => (l, step)) =
        (if i.toNat = step then [(label, step)] else []) ++
          (labelsAt entries step).map fun l => (l, step) := by
      have hiff : i = (step : Int) ↔ i.toNat = step := by omega
      simp only [labelsAt, List.filterMap_cons, hiff]
      by_cases hstep : i.toNat = step <;> simp [hstep]
    have hown := flatMap_ite_eq (fun step => [(label, step)]) hsteps hmem
    have happend := List.flatMap_append_perm steps
      (fun step => if i.toNat = step then [(label, step)] else [])
      (fun step => (labelsAt entries step).map fun l => (l, step))
    rw [hown] at happend
    have hbuckets : buckets ((i, label) :: entries) steps = steps.flatMap fun step =>
        (if i.toNat = step then [(label, step)] else []) ++
          (labelsAt entries step).map fun l => (l, step) := by
      rw [buckets]
      exact List.flatMap_congr fun step _ => hsplit step
    rw [hbuckets, List.map_cons]
    exact happend.symm.trans (hrest.cons _)

theorem mem_labelsAt {entries : List (Int × Text)} {step : Nat} {s : Text} :
    s ∈ labelsAt entries step ↔ ((step : Int), s) ∈ entries := by
  simp only [labelsAt, List.mem_filterMap, Prod.exists]
  constructor
  · rintro ⟨i, label, hmem, hlabel⟩
    by_cases hstep : i = step
    · rw [if_pos hstep] at hlabel
      rwa [← hstep, ← Option.some.inj hlabel]
    · rw [if_neg hstep] at hlabel
      exact absurd hlabel (by simp)
  · intro hmem
    exact ⟨step, s, hmem, if_pos rfl⟩

theorem le_stepCount (entries : List (Int × Text)) {e : Int × Text} (he : e ∈ entries) :
    (e.1 + 1).toNat ≤ stepCount entries := by
  -- The count grows along the entries and covers each of them
  have hgrow (es : List (Int × Text)) (n : Nat) :
      n ≤ es.foldl (fun count e => max count (e.1 + 1).toNat) n ∧
        ∀ e ∈ es, (e.1 + 1).toNat ≤ es.foldl (fun count e => max count (e.1 + 1).toNat) n := by
    induction es generalizing n with
    | nil => exact ⟨le_refl n, by simp⟩
    | cons d es ih =>
      obtain ⟨hbase, hall⟩ := ih (max n (d.1 + 1).toNat)
      refine ⟨le_trans (le_max_left ..) hbase, fun e he => ?_⟩
      rcases List.mem_cons.mp he with rfl | he
      · exact le_trans (le_max_right ..) hbase
      · exact hall e he
  exact (hgrow entries 0).2 e he

/-- The count does not outgrow a bound of all entries. -/
theorem stepCount_le {entries : List (Int × Text)} {n : Nat}
    (h : ∀ e ∈ entries, (e.1 + 1).toNat ≤ n) : stepCount entries ≤ n := by
  have hgrow (es : List (Int × Text)) (m : Nat) (hm : m ≤ n)
      (hes : ∀ e ∈ es, (e.1 + 1).toNat ≤ n) :
      es.foldl (fun count e => max count (e.1 + 1).toNat) m ≤ n := by
    induction es generalizing m with
    | nil => exact hm
    | cons e es ih =>
      exact ih _ (max_le hm (hes e List.mem_cons_self)) fun d hd =>
        hes d (List.mem_cons_of_mem _ hd)
  exact hgrow entries 0 (Nat.zero_le n) h

/-! ## §2 What is written of labels on steps -/

variable {F : Type}

/-- Tokens that mean the labels of steps fall on those steps. -/
theorem placesFrom_steps (labels : Nat → List Text) (start n : Nat) {ts : List Token}
    (hts : ts.map Token.shape = (List.range' start n).map fun step => stepShape (labels step)) :
    placesFrom start ts =
      (List.range' start n).flatMap fun step => (labels step).map fun label => (label, step) := by
  induction n generalizing start ts with
  | zero =>
    rw [List.map_eq_nil_iff.mp hts]
    rfl
  | succ n ih =>
    obtain ⟨t, ts, rfl, hshape, hrest⟩ := List.map_eq_cons_iff.mp hts
    -- The labels of the token all fall on its first step, which is its only one
    have hschedule : t.schedule = (labels start).map fun label => (label, 0) := by
      rw [Token.schedule_shape, hshape, schedule_stepShape]
    have hwidth : t.width = 1 := by rw [Token.width_shape, hshape, width_stepShape]
    rw [placesFrom, hschedule, hwidth, ih (start + 1) hrest, List.range'_succ, List.flatMap_cons,
      List.map_map]
    rfl

/-- Tokens that mean the labels of steps take one step each. -/
theorem widthOf_steps (labels : Nat → List Text) (steps : List Nat) {ts : List Token}
    (hts : ts.map Token.shape = steps.map fun step => stepShape (labels step)) :
    widthOf ts = steps.length := by
  induction steps generalizing ts with
  | nil =>
    rw [List.map_eq_nil_iff.mp hts]
    rfl
  | cons step steps ih =>
    obtain ⟨t, ts, rfl, hshape, hrest⟩ := List.map_eq_cons_iff.mp hts
    have hwidth : t.width = 1 := by rw [Token.width_shape, hshape, width_stepShape]
    have hih : (ts.map Token.width).sum = steps.length := ih hrest
    rw [widthOf, List.map_cons, List.sum_cons, hwidth, hih, List.length_cons, Nat.add_comm]

/-- Tokens that mean labels with keys lose nothing. -/
theorem skippedIn_steps {table : List Layout.Address} {labels : Nat → List Text}
    (hlabels : ∀ step, ∀ s ∈ labels step, (Layout.resolveIn table s).isSome) {steps : List Nat}
    {ts : List Token} (hts : ts.map Token.shape = steps.map fun step => stepShape (labels step)) :
    skippedIn table ts = [] := by
  refine List.flatMap_eq_nil_iff.mpr fun t ht => ?_
  have hmem : t.shape ∈ steps.map fun step => stepShape (labels step) :=
    hts ▸ List.mem_map_of_mem ht
  obtain ⟨step, -, hshape⟩ := List.mem_map.mp hmem
  have hlost : t.lost table = [] := by
    refine List.filterMap_eq_nil_iff.mpr fun entry hentry => ?_
    rw [Token.schedule_shape, ← hshape, schedule_stepShape] at hentry
    obtain ⟨s, hs, rfl⟩ := List.mem_map.mp hentry
    have hkey := hlabels step s hs
    simp only [Option.isNone_iff_eq_none]
    exact if_neg fun hnone => by simp [hnone] at hkey
  have hrefused : t.refused = [] := by
    unfold Token.refused
    rw [← hshape]
    match labels step with
    | [] => rfl
    | [_] => rfl
    | _ :: _ :: _ => rfl
  rw [hlost, hrefused]
  rfl

section

variable {entries : List (Int × Text)}

/-- Labels by which keys are written lead back to the keys, since the table is one-to-one. -/
theorem labels_written (layout : Layout F)
    (hlabels : ∀ e ∈ entries, ∃ key, Layout.labelIn layout.addresses key = some e.2) (step : Nat) :
    ∀ s ∈ labelsAt entries step, IsLabelText s ∧ (Layout.resolveIn layout.addresses s).isSome := by
  intro s hs
  obtain ⟨key, hkey⟩ := hlabels _ (mem_labelsAt.mp hs)
  obtain ⟨label, hreadable, htext, hresolve⟩ :=
    Layout.resolveIn_labelIn layout.addresses_distinct hkey
  exact ⟨⟨label, hreadable, htext⟩, by simp [hresolve]⟩

/-- The steps that entries take hold their labels. -/
theorem bucket_perm_steps (hsteps : ∀ e ∈ entries, 0 ≤ e.1) :
    (buckets entries (List.range' 0 (stepCount entries))).Perm
      (entries.map fun e => (e.2, e.1.toNat)) := by
  refine bucket_perm List.nodup_range' fun e he => ⟨hsteps e he, ?_⟩
  have hcount := le_stepCount entries he
  have hstep := hsteps e he
  rw [List.mem_range'_1]
  omega

/-- The tokens of written labels mean the labels of the steps, one step after another. -/
theorem textShapes_entriesText (layout : Layout F) (perLine : Nat)
    (hlabels : ∀ e ∈ entries, ∃ key, Layout.labelIn layout.addresses key = some e.2) :
    textShapes (entriesText perLine entries) =
      (List.range (stepCount entries)).map fun step => stepShape (labelsAt entries step) := by
  have hwritten := labels_written layout hlabels
  rw [entriesText, textShapes_measureText, List.map_map]
  · exact List.map_congr_left fun step _ => shapeOf_stepText fun s hs => (hwritten step s hs).1
  · intro w hw
    obtain ⟨step, -, rfl⟩ := List.mem_map.mp hw
    exact standsAlone_stepText fun s hs => (hwritten step s hs).1

/-- Tokens that mean labels on steps fall on these steps, lose nothing, and take as many steps. -/
theorem tokens_of_shapes (layout : Layout F)
    (hlabels : ∀ e ∈ entries, ∃ key, Layout.labelIn layout.addresses key = some e.2) {text : Text}
    (htext : textShapes text =
      (List.range (stepCount entries)).map fun step => stepShape (labelsAt entries step)) :
    placesFrom 0 (tokens text) = buckets entries (List.range' 0 (stepCount entries)) ∧
      skippedIn layout.addresses (tokens text) = [] ∧
      widthOf (tokens text) = stepCount entries := by
  have hwritten := labels_written layout hlabels
  have hshapes : (tokens text).map Token.shape =
      (List.range (stepCount entries)).map fun step => stepShape (labelsAt entries step) := by
    rw [tokens_shape, htext]
  have hskipped : skippedIn layout.addresses (tokens text) = [] :=
    skippedIn_steps (fun step s hs => (hwritten step s hs).2) hshapes
  have hwidth := widthOf_steps (labelsAt entries) _ hshapes
  rw [List.length_range] at hwidth
  rw [List.range_eq_range'] at hshapes
  exact ⟨placesFrom_steps (labelsAt entries) 0 _ hshapes, hskipped, hwidth⟩

/-- **What means labels on steps is read back**: on the same steps, without loss, and taking as many
steps as there are. -/
theorem read_of_shapes (layout : Layout F) (g : Grid Rat) (hsteps : ∀ e ∈ entries, 0 ≤ e.1)
    (hlabels : ∀ e ∈ entries, ∃ key, Layout.labelIn layout.addresses key = some e.2) {text : Text}
    (htext : textShapes text =
      (List.range (stepCount entries)).map fun step => stepShape (labelsAt entries step)) :
    ∃ notes, read layout g text = .ok ⟨notes, [], stepCount entries⟩ ∧
      notes.Perm (notesAt layout.addresses g (entries.map fun e => (e.2, e.1.toNat))) := by
  obtain ⟨hplaces, hskipped, hwidth⟩ := tokens_of_shapes layout hlabels htext
  refine ⟨notesAt layout.addresses g (buckets entries (List.range' 0 (stepCount entries))), ?_, ?_⟩
  · rw [read, readFrom_rat, hskipped, hwidth, hplaces, Nat.zero_add]
  · exact (bucket_perm_steps hsteps).filterMap _

/-- **What is written of labels on steps is read back**: on the same steps, without loss, and taking
as many steps as were written. -/
theorem read_entriesText (layout : Layout F) (g : Grid Rat) (perLine : Nat)
    {entries : List (Int × Text)} (hsteps : ∀ e ∈ entries, 0 ≤ e.1)
    (hlabels : ∀ e ∈ entries, ∃ key, Layout.labelIn layout.addresses key = some e.2) :
    ∃ notes, read layout g (entriesText perLine entries) =
        .ok ⟨notes, [], stepCount entries⟩ ∧
      notes.Perm (notesAt layout.addresses g (entries.map fun e => (e.2, e.1.toNat))) :=
  read_of_shapes layout g hsteps hlabels (textShapes_entriesText layout perLine hlabels)

end

/-! ## §3 What is written of notes -/

/-- The step nearest to a note, and the label of its key. -/
def entryOf (table : List Layout.Address) (g : Grid Rat) (n : Note Rat) : Option (Int × Text) :=
  (Layout.labelIn table n.key).map fun label => (roundHalfEven (n.time / g.step), label)

/-- A note put on the step nearest to it, if a label leads to its key. -/
def onStep (table : List Layout.Address) (g : Grid Rat) (n : Note Rat) : Option (Note Rat) :=
  (Layout.labelIn table n.key).map fun _ => g.note n.key (roundHalfEven (n.time / g.step)).toNat

/-- No note is before the first step. -/
theorem roundHalfEven_time_nonneg (g : Grid Rat) (n : Note Rat) :
    0 ≤ roundHalfEven (n.time / g.step) :=
  roundHalfEven_nonneg (div_nonneg (not_lt.mp n.time_not_neg) g.step_pos.le)

/-- The order in which notes are written only rearranges them. -/
theorem inOrder_perm {R : Type} [Scalar R] (notes : List (Note R)) :
    (inOrder notes).Perm notes := Order.sortBy_perm mayPrecede notes

/-- In exact arithmetic notes can always be written. -/
theorem write_rat (layout : Layout F) (g : Grid Rat) (notes : List (Note Rat)) :
    write layout g notes = .ok {
      text := entriesText g.metre.numerator.toNat
        ((inOrder notes).filterMap (entryOf layout.addresses g))
      unlabelled := ((inOrder notes).filter fun n =>
        (Layout.labelIn layout.addresses n.key).isNone).map Note.key } := by
  -- No step index fails in exact numbers
  have hentry (n : Note Rat) :
      entry layout.addresses g n = .ok (entryOf layout.addresses g n) := by
    unfold entry entryOf
    cases Layout.labelIn layout.addresses n.key with
    | none => rfl
    | some label =>
      simp only [Grid.stepIndex_rat]
      rfl
  have hentries : (inOrder notes).mapM (entry layout.addresses g) =
      .ok ((inOrder notes).map (entryOf layout.addresses g)) := by
    rw [funext hentry]
    exact List.mapM_pure
  have hsome : ((inOrder notes).map (entryOf layout.addresses g)).filterMap id =
      (inOrder notes).filterMap (entryOf layout.addresses g) := by
    rw [List.filterMap_map]
    rfl
  rw [write, hentries, ← hsome]
  rfl

/-- What is written of notes is on steps, with labels that lead to their keys. -/
theorem entries_of_notes (layout : Layout F) (g : Grid Rat) (notes : List (Note Rat)) :
    ∀ e ∈ (inOrder notes).filterMap (entryOf layout.addresses g),
      0 ≤ e.1 ∧ ∃ key, Layout.labelIn layout.addresses key = some e.2 := by
  intro e he
  obtain ⟨n, -, hn⟩ := List.mem_filterMap.mp he
  obtain ⟨label, hlabel, rfl⟩ := Option.map_eq_some_iff.mp hn
  exact ⟨roundHalfEven_time_nonneg g n, n.key, hlabel⟩

/-- What is written of notes means these notes put on steps. -/
theorem notesAt_entries (layout : Layout F) (g : Grid Rat) (notes : List (Note Rat)) :
    notesAt layout.addresses g
        (((inOrder notes).filterMap (entryOf layout.addresses g)).map fun e => (e.2, e.1.toNat)) =
      (inOrder notes).filterMap (onStep layout.addresses g) := by
  -- The label of a note leads back to the key of the note
  have hback (n : Note Rat) : (entryOf layout.addresses g n).bind (fun e =>
      (Layout.resolveIn layout.addresses e.2).map (g.note · e.1.toNat)) =
      onStep layout.addresses g n := by
    unfold entryOf onStep
    cases hlabel : Layout.labelIn layout.addresses n.key with
    | none => rfl
    | some label =>
      obtain ⟨-, -, -, hresolve⟩ := Layout.resolveIn_labelIn layout.addresses_distinct hlabel
      simp [hresolve]
  rw [notesAt, List.filterMap_map, List.filterMap_filterMap]
  congr 1
  funext n
  exact hback n

/-- **What is written of notes is read back as these notes put on steps**, as many steps as were
written, and nothing is skipped. -/
theorem read_write (layout : Layout F) (g : Grid Rat) (notes : List (Note Rat)) :
    ∃ writing reading, write layout g notes = .ok writing ∧
      read layout g writing.text = .ok reading ∧ reading.skipped = [] ∧
      reading.steps = stepCount ((inOrder notes).filterMap (entryOf layout.addresses g)) ∧
      reading.notes.Perm (notes.filterMap (onStep layout.addresses g)) := by
  have hentries := entries_of_notes layout g notes
  obtain ⟨back, hread, hperm⟩ := read_entriesText layout g g.metre.numerator.toNat
    (fun e he => (hentries e he).1) fun e he => (hentries e he).2
  refine ⟨_, _, write_rat layout g notes, hread, rfl, rfl, ?_⟩
  rw [notesAt_entries] at hperm
  exact hperm.trans ((inOrder_perm notes).filterMap _)

/-! ## §4 The round trip -/

/-- A note that was read is on a step. -/
theorem onStep_of_mem_notesAt (layout : Layout F) (g : Grid Rat) {places : List (Text × Nat)}
    {n : Note Rat} (hn : n ∈ notesAt layout.addresses g places) :
    onStep layout.addresses g n = some n := by
  obtain ⟨⟨s, step⟩, -, hkey⟩ := List.mem_filterMap.mp hn
  obtain ⟨key, hresolve, rfl⟩ := Option.map_eq_some_iff.mp hkey
  obtain ⟨label, -, -, hlabel⟩ := Layout.labelIn_resolveIn layout.addresses_distinct hresolve
  -- The step nearest to a note on a step is that step
  have hstep : roundHalfEven ((g.note key step).time / g.step) = step :=
    g.roundHalfEven_stepTime step
  unfold onStep
  rw [show (g.note key step).key = key from rfl, hlabel, Option.map_some, hstep, Int.toNat_natCast]

/-- **Round trip.** A tablature that is read, written and read again has the same notes, each as
often, and nothing is skipped in the second reading. -/
theorem read_write_read (layout : Layout F) (g : Grid Rat) (text : Text) :
    ∃ first writing second, read layout g text = .ok first ∧
      write layout g first.notes = .ok writing ∧
      read layout g writing.text = .ok second ∧
      (second.notes.map Note.signature).Perm (first.notes.map Note.signature) ∧
      second.skipped = [] := by
  have hfirst : read layout g text = .ok _ := readFrom_rat 0 (tokens text)
  obtain ⟨writing, second, hwrite, hsecond, hskipped, -, hperm⟩ :=
    read_write layout g (notesAt layout.addresses g (placesFrom 0 (tokens text)))
  -- All notes of the first reading are on steps and have labels, so none is moved or left out
  have hsame : (notesAt layout.addresses g (placesFrom 0 (tokens text))).filterMap
      (onStep layout.addresses g) = notesAt layout.addresses g (placesFrom 0 (tokens text)) := by
    rw [List.filterMap_congr fun n hn => onStep_of_mem_notesAt layout g hn]
    exact List.filterMap_some
  rw [hsame] at hperm
  exact ⟨_, writing, second, hfirst, hwrite, hsecond, hperm.map Note.signature, hskipped⟩

/-! ## §5 How far a writing reaches -/

/-- As many steps are counted as the last entry ends. -/
theorem stepCount_eq {entries : List (Int × Text)} {last : Int} (hlast : ∃ e ∈ entries, e.1 = last)
    (hle : ∀ e ∈ entries, e.1 ≤ last) : stepCount entries = (last + 1).toNat := by
  obtain ⟨e, he, rfl⟩ := hlast
  refine le_antisymm (stepCount_le fun d hd => ?_) (le_stepCount entries he)
  have := hle d hd
  omega

/-- The entries that are written are those of the notes that a label leads to. -/
theorem mem_entries {table : List Layout.Address} {g : Grid Rat} {notes : List (Note Rat)}
    {e : Int × Text} : e ∈ (inOrder notes).filterMap (entryOf table g) ↔
      ∃ n ∈ notes, Layout.labelIn table n.key = some e.2 ∧
        roundHalfEven (n.time / g.step) = e.1 := by
  simp only [List.mem_filterMap, (inOrder_perm notes).mem_iff, entryOf, Option.map_eq_some_iff,
    Prod.ext_iff]
  constructor
  · rintro ⟨n, hn, label, hlabel, hstep, rfl⟩
    exact ⟨n, hn, hlabel, hstep⟩
  · rintro ⟨n, hn, hlabel, hstep⟩
    exact ⟨n, hn, e.2, hlabel, hstep, rfl⟩

/-- The notes that a writing shows: those on keys that a label leads to. -/
def shown (layout : Layout F) (notes : List (Note Rat)) : List (Note Rat) :=
  notes.filter fun n => (layout.labelFor n.key).isSome

theorem mem_shown {layout : Layout F} {notes : List (Note Rat)} {n : Note Rat} :
    n ∈ shown layout notes ↔ n ∈ notes ∧ ∃ s, Layout.labelIn layout.addresses n.key = some s := by
  rw [shown, List.mem_filter, Layout.labelFor, Option.isSome_iff_exists]

/-- A shown note that is put on its step has its own key, the time of the step and its length. -/
theorem signature_onStep (layout : Layout F) (g : Grid Rat) (notes : List (Note Rat)) :
    (notes.filterMap (onStep layout.addresses g)).map Note.signature =
      (shown layout notes).map fun n =>
        (n.key, g.stepTime (roundHalfEven (n.time / g.step)), g.step) := by
  induction notes with
  | nil => rfl
  | cons n notes ih =>
    have hnat := Int.toNat_of_nonneg (roundHalfEven_time_nonneg g n)
    cases hlabel : Layout.labelIn layout.addresses n.key with
    | none => simpa [onStep, shown, Layout.labelFor, hlabel] using ih
    | some label =>
      simpa [onStep, shown, Layout.labelFor, hlabel, Note.signature, Grid.note, hnat] using ih

/-- The entries take one step more than the last step of a shown note. -/
theorem stepCount_entries (layout : Layout F) (g : Grid Rat) (notes : List (Note Rat)) :
    (stepCount ((inOrder notes).filterMap (entryOf layout.addresses g)) : Int) =
      (((shown layout notes).map fun n => roundHalfEven (n.time / g.step)).max?.map (· + 1)).getD
        0 := by
  cases hmax : ((shown layout notes).map fun n => roundHalfEven (n.time / g.step)).max? with
  | none =>
    have hshown : shown layout notes = [] := List.map_eq_nil_iff.mp (List.max?_eq_none_iff.mp hmax)
    have hnone : (inOrder notes).filterMap (entryOf layout.addresses g) = [] := by
      rw [List.eq_nil_iff_forall_not_mem]
      intro e he
      obtain ⟨n, hn, hlabel, -⟩ := mem_entries.mp he
      have hmem : n ∈ shown layout notes := mem_shown.mpr ⟨hn, e.2, hlabel⟩
      rw [hshown] at hmem
      cases hmem
    rw [hnone]
    rfl
  | some last =>
    -- The last of the steps is that of an entry, and no entry is after it
    obtain ⟨hlast, hle⟩ := List.max?_eq_some_iff.mp hmax
    obtain ⟨n, hn, rfl⟩ := List.mem_map.mp hlast
    obtain ⟨hmem, label, hlabel⟩ := mem_shown.mp hn
    have hcount : stepCount ((inOrder notes).filterMap (entryOf layout.addresses g)) =
        (roundHalfEven (n.time / g.step) + 1).toNat := by
      refine stepCount_eq ⟨(_, label), mem_entries.mpr ⟨n, hmem, hlabel, rfl⟩, rfl⟩ fun e he => ?_
      obtain ⟨m, hm, hlabel', hstep⟩ := mem_entries.mp he
      rw [← hstep]
      exact hle _ (List.mem_map_of_mem (mem_shown.mpr ⟨hm, e.2, hlabel'⟩))
    have hnonneg := roundHalfEven_time_nonneg g n
    rw [hcount, Option.map_some, Option.getD_some]
    omega

/-- **What is written of any notes is read back as what they are on the grid.** The notes on keys
that a label leads to come back, each on the step nearest to its time and one step long, and nothing
is skipped; the reading takes one step more than the last of these steps, or none if there is no
such note. -/
theorem read_of_written (layout : Layout F) (g : Grid Rat) (notes : List (Note Rat)) :
    let index := fun n : Note Rat => roundHalfEven (n.time / g.step)
    (∀ n : Note Rat, g.stepIndex n.time = .ok (index n)) ∧
    ∃ writing reading, write layout g notes = .ok writing ∧
      read layout g writing.text = .ok reading ∧ reading.skipped = [] ∧
      (reading.notes.map Note.signature).Perm
        ((shown layout notes).map fun n => (n.key, g.stepTime (index n), g.step)) ∧
      (reading.steps : Int) = (((shown layout notes).map index).max?.map (· + 1)).getD 0 := by
  intro index
  obtain ⟨writing, reading, hwrite, hread, hskipped, hsteps, hnotes⟩ := read_write layout g notes
  refine ⟨fun n => g.stepIndex_rat n.time, writing, reading, hwrite, hread, hskipped, ?_, ?_⟩
  · rw [← signature_onStep]
    exact hnotes.map Note.signature
  · rw [hsteps]
    exact stepCount_entries layout g notes

end Lamella.Tab
