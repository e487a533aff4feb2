import Lamella.Proofs.Scalar.Octaves
import Lamella.Proofs.Scalar.Steps
import Lamella.Proofs.Tab.Placed

/-!
# Writing what was read of a writing

The keys of a step are written in the order of the times of their notes, and read back at one time.
So what is written of them next has them in the order of keys, and that is how they stay.

## Main definitions

- `Tab.placesOf`: the keys of notes and the steps that they are put on, in the order of writing.
- `Tab.Settles`: what becomes of the writing of notes when it is read and written again.

## Main statements

- `Tab.inOrder_pairwise`: notes are written in the order of times, and of keys at one time.
- `Tab.text_of_write`, `Tab.exists_write`: a writing is the text of the keys of its notes.
- `Tab.write_read_write`: a writing that is read and written again has the keys of each step in
  their order.
- `Tab.writing_settles`: it is the first writing just if these were in order, and stays from then
  on, in exact arithmetic and in that of machines.
-/

namespace Lamella

variable {F R : Type} [Scalar R]

/-! ## §1 Notes on steps -/

/-- The step that a note is put on. -/
def Grid.indexOf (g : Grid R) (n : Note R) : Nat :=
  match g.stepIndex n.time with
  | .ok i => i.toNat
  | .error _ => 0

theorem Grid.indexOf_eq {g : Grid R} (hstart : g.StartsAtZero) {n : Note R} {i : Int}
    (h : g.stepIndex n.time = .ok i) : (g.indexOf n : Int) = i := by
  have := hstart n.time i n.time_not_neg h
  simp only [Grid.indexOf, h]
  omega

theorem Grid.of_strike {g : Grid R} {place : Int × Nat} {n : Note R} (h : g.strike place = .ok n) :
    n.key = place.1 ∧ n.time = g.stepTime place.2 := by
  unfold Grid.strike Note.make at h
  split at h
  · cases h
  · split at h
    · cases h
    · cases h
      exact ⟨rfl, rfl⟩

theorem Grid.TellsApart.exists_strike {g : Grid R} {count : Nat} (h : g.TellsApart count)
    {place : Int × Nat} (hplace : place.2 < count) : ∃ n, g.strike place = .ok n := by
  unfold Grid.strike Note.make
  rw [dif_neg (h.time_not_neg place.2 hplace), dif_neg (h.lasts (by omega))]
  exact ⟨_, rfl⟩

/-- What was struck on a step is put on that step. -/
theorem Grid.TellsApart.indexOf_strike {g : Grid R} (hstart : g.StartsAtZero) {count : Nat}
    (h : g.TellsApart count) {place : Int × Nat} (hplace : place.2 < count) {n : Note R}
    (hn : g.strike place = .ok n) :
    g.stepIndex n.time = .ok (place.2 : Int) ∧ g.indexOf n = place.2 := by
  have hback := h.stepIndex_stepTime place.2 hplace
  rw [← (of_strike hn).2] at hback
  exact ⟨hback, Int.ofNat_inj.mp (indexOf_eq hstart hback)⟩

/-! ## §2 The order of notes -/

theorem Order.lexLe_iff [Scalar.Ranked R] {a b : R × Int} :
    lexLe a b = true ↔ a.1 ≤ b.1 ∧ (b.1 ≤ a.1 → a.2 ≤ b.2) := by
  unfold lexLe Scalar.same
  by_cases hab : a.1 ≤ b.1
  · by_cases hba : b.1 ≤ a.1
    · simp [hab, hba]
    · simp [hab, hba, Scalar.Ranked.lt_iff_le_not_le]
  · simp [hab, Scalar.Ranked.lt_iff_le_not_le]

namespace Tab

/-- Where times are numbers, notes are in the order of times, and of keys at one time. -/
theorem inOrder_pairwise [Scalar.Ranked R] {notes : List (Note R)}
    (htimed : ∀ n ∈ notes, n.time ≤ n.time) :
    (inOrder notes).Pairwise fun a b => a.time ≤ b.time ∧ (b.time ≤ a.time → a.key ≤ b.key) := by
  have hprecede {a b : Note R} (ha : a.time ≤ a.time) : mayPrecede a b = true ↔
      a.time ≤ b.time ∧ (b.time ≤ a.time → a.key ≤ b.key) := by
    have hua : a.isUntimed = false := by simp [Note.isUntimed, Scalar.same, ha]
    rw [mayPrecede, hua, Bool.false_and, if_neg Bool.false_ne_true, Order.lexLe_iff]
  have hsorted : (inOrder notes).Pairwise fun a b => mayPrecede a b = true := by
    refine Order.sortBy_pairwise_of_mem ?_ ?_ ?_
    · exact fun a ha => (hprecede (htimed a ha)).mpr ⟨htimed a ha, fun _ => le_rfl⟩
    · intro a ha b hb c hc hab hbc
      rw [hprecede (htimed a ha)] at hab ⊢
      rw [hprecede (htimed b hb)] at hbc
      have htrans {x y z : R} : x ≤ y → y ≤ z → x ≤ z := Scalar.Orderly.le_trans
      refine ⟨htrans hab.1 hbc.1, fun hca => ?_⟩
      -- If the last is at the time of the first, so is the one between them
      exact (hab.2 (htrans hbc.1 hca)).trans (hbc.2 (htrans hca hab.1))
    · intro a ha b hb
      rw [hprecede (htimed a ha), hprecede (htimed b hb)]
      have := Scalar.Comparable.le_total (htimed a ha) (htimed b hb)
      by_cases hab : a.time ≤ b.time <;> by_cases hba : b.time ≤ a.time
      · simp only [hab, hba, true_and, forall_const]
        exact le_total a.key b.key
      · exact .inl ⟨hab, fun h => absurd h hba⟩
      · exact .inr ⟨hba, fun h => absurd h hab⟩
      · exact absurd this (by simp [hab, hba])
  have hperm := inOrder_perm notes
  refine hsorted.imp_of_mem fun ha _ hab => ?_
  exact (hprecede (htimed _ (hperm.mem_iff.mp ha))).mp hab

/-! ## §3 A writing as the text of its keys -/

/-- The keys of notes and the steps that they are put on, in the order in which they are written. -/
def placesOf (layout : Layout F) (g : Grid R) (notes : List (Note R)) : List (Int × Nat) :=
  ((inOrder notes).filter fun n => (layout.labelFor n.key).isSome).map fun n => (n.key, g.indexOf n)

section

variable {layout : Layout F} {g : Grid R} {notes : List (Note R)}

theorem allLabelled_placesOf : AllLabelled layout (placesOf layout g notes) := by
  intro p hp
  obtain ⟨n, hn, rfl⟩ := List.mem_map.mp hp
  exact Option.isSome_iff_exists.mp (List.mem_filter.mp hn).2

theorem entry_eq_ok (hstart : g.StartsAtZero) {n : Note R} {e : Option (Int × Text)}
    (h : entry layout.addresses g n = .ok e) :
    (Layout.labelIn layout.addresses n.key).map ((g.indexOf n : Int), ·) = e ∧
      ((layout.labelFor n.key).isSome → ∃ i, g.stepIndex n.time = .ok i) := by
  rw [entry] at h
  rw [Layout.labelFor]
  cases hlabel : Layout.labelIn layout.addresses n.key with
  | none =>
    rw [hlabel] at h
    exact ⟨Except.ok.inj h, fun hsome => by cases hsome⟩
  | some s =>
    rw [hlabel] at h
    obtain ⟨i, hi, h⟩ := Except.bind_eq_ok.mp h
    rw [Option.map_some, Grid.indexOf_eq hstart hi]
    exact ⟨Except.ok.inj h, fun _ => ⟨i, hi⟩⟩

theorem exists_entry {n : Note R}
    (h : (layout.labelFor n.key).isSome → ∃ i, g.stepIndex n.time = .ok i) :
    ∃ e, entry layout.addresses g n = .ok e := by
  rw [entry]
  rw [Layout.labelFor] at h
  cases hlabel : Layout.labelIn layout.addresses n.key with
  | none => exact ⟨none, rfl⟩
  | some s =>
    obtain ⟨i, hi⟩ := h (by rw [hlabel]; rfl)
    exact ⟨some (i, s), by rw [hi]; rfl⟩

/-- The labels of notes are those of their keys. -/
theorem labelsOf_placesOf : labelsOf layout (placesOf layout g notes) =
    (inOrder notes).filterMap fun n =>
      (Layout.labelIn layout.addresses n.key).map ((g.indexOf n : Int), ·) := by
  rw [labelsOf, placesOf, List.filterMap_map, List.filterMap_filter]
  congr 1
  funext n
  rw [Layout.labelFor]
  cases hlabel : Layout.labelIn layout.addresses n.key <;> simp [hlabel]

/-- A writing is the text of the keys of its notes, and each note with a label was put on a step. -/
theorem text_of_write (hstart : g.StartsAtZero) {w : Writing} (h : write layout g notes = .ok w) :
    w.text = placesText layout g.metre.numerator.toNat (placesOf layout g notes) ∧
      ∀ n ∈ notes, (layout.labelFor n.key).isSome → ∃ i, g.stepIndex n.time = .ok i := by
  obtain ⟨entries, hentries, h⟩ := Except.bind_eq_ok.mp h
  have hentry := Except.mapM_eq_ok.mp hentries
  have hmap : (inOrder notes).map (fun n =>
      (Layout.labelIn layout.addresses n.key).map ((g.indexOf n : Int), ·)) = entries := by
    rw [← List.forall₂_eq_eq_eq, List.forall₂_map_left_iff]
    exact hentry.imp fun n e hn => (entry_eq_ok hstart hn).1
  obtain rfl := Except.ok.inj h
  constructor
  · rw [placesText, labelsOf_placesOf, ← hmap, List.filterMap_map]
    rfl
  · intro n hn
    have hperm := inOrder_perm notes
    obtain ⟨e, -, he⟩ := hentry.exists_right (hperm.mem_iff.mpr hn)
    exact (entry_eq_ok hstart he).2

/-- Notes are written if each of them with a label can be put on a step. -/
theorem exists_write
    (h : ∀ n ∈ notes, (layout.labelFor n.key).isSome → ∃ i, g.stepIndex n.time = .ok i) :
    ∃ w, write layout g notes = .ok w := by
  have hperm := inOrder_perm notes
  obtain ⟨entries, hentries⟩ := Except.exists_mapM fun n hn =>
    exists_entry (h n (hperm.mem_iff.mp hn))
  exact ⟨_, Except.bind_eq_ok.mpr ⟨entries, hentries, rfl⟩⟩

end

/-! ## §4 Notes that were struck -/

section

variable {layout : Layout F} {g : Grid R} {count : Nat} {row : List (Int × Nat)}
  {struck : List (Note R)}

theorem of_mem_struck (hstart : g.StartsAtZero) (htells : g.TellsApart count)
    (hrow : ∀ p ∈ row, p.2 < count) (hstruck : row.mapM g.strike = .ok struck) {n : Note R}
    (hn : n ∈ struck) : (n.key, g.indexOf n) ∈ row ∧ n.time = g.stepTime (g.indexOf n) ∧
      n.time ≤ n.time ∧ g.stepIndex n.time = .ok (g.indexOf n : Int) := by
  obtain ⟨p, hp, hstrike⟩ := (Except.mapM_eq_ok.mp hstruck).exists_left hn
  have hlt := hrow p hp
  obtain ⟨hkey, htime⟩ := Grid.of_strike hstrike
  obtain ⟨hback, hindex⟩ := htells.indexOf_strike hstart hlt hstrike
  rw [hkey, hindex, htime]
  exact ⟨hp, rfl, htells.time_le_self _ hlt, htime ▸ hback⟩

/-- The keys of notes that were struck are those on which they were, and the steps are the same. -/
theorem map_struck (hstart : g.StartsAtZero) (htells : g.TellsApart count)
    (hrow : ∀ p ∈ row, p.2 < count) (hstruck : row.mapM g.strike = .ok struck) :
    struck.map (fun n => (n.key, g.indexOf n)) = row := by
  obtain ⟨hlength, hzip⟩ := List.forall₂_iff_zip.mp (Except.mapM_eq_ok.mp hstruck)
  rw [← List.forall₂_eq_eq_eq, List.forall₂_map_left_iff]
  refine List.Forall₂.flip (List.forall₂_iff_zip.mpr ⟨hlength, fun {p n} hmem => ?_⟩)
  obtain ⟨-, hindex⟩ :=
    htells.indexOf_strike hstart (hrow p (List.of_mem_zip hmem).1) (hzip hmem)
  exact Prod.ext (Grid.of_strike (hzip hmem)).1 hindex

/-- What was struck is written on the same keys and steps. -/
theorem placesOf_struck_perm (hstart : g.StartsAtZero) (htells : g.TellsApart count)
    (hrow : ∀ p ∈ row, p.2 < count) (hstruck : row.mapM g.strike = .ok struck)
    (hlabels : AllLabelled layout row) : (placesOf layout g struck).Perm row := by
  have hall : (struck.filter fun n => (layout.labelFor n.key).isSome) = struck := by
    refine List.filter_eq_self.mpr fun n hn => ?_
    have hmem := (of_mem_struck hstart htells hrow hstruck hn).1
    exact Option.isSome_iff_exists.mpr (hlabels _ hmem)
  have hperm := inOrder_perm struck
  have hplaces := (hperm.filter fun n => (layout.labelFor n.key).isSome).map
    fun n => (n.key, g.indexOf n)
  rwa [hall, map_struck hstart htells hrow hstruck] at hplaces

/-- Keys that were struck on one step are written in their order. -/
theorem placesOf_struck_pairwise [Scalar.Ranked R] (hstart : g.StartsAtZero)
    (htells : g.TellsApart count) (hrow : ∀ p ∈ row, p.2 < count)
    (hstruck : row.mapM g.strike = .ok struck) :
    (placesOf layout g struck).Pairwise fun p q => p.2 = q.2 → p.1 ≤ q.1 := by
  have hback {n : Note R} (hn : n ∈ struck) := of_mem_struck hstart htells hrow hstruck hn
  have hperm := inOrder_perm struck
  have hmem {n : Note R}
      (hn : n ∈ (inOrder struck).filter fun n => (layout.labelFor n.key).isSome) : n ∈ struck :=
    hperm.mem_iff.mp (List.mem_filter.mp hn).1
  have horder := (inOrder_pairwise fun n hn => (hback hn).2.2.1).filter
    fun n => (layout.labelFor n.key).isSome
  refine List.pairwise_map.mpr (horder.imp_of_mem fun {a b} ha hb hab hsame => hab.2 ?_)
  -- On one step they are at one time
  have hsame : g.indexOf a = g.indexOf b := hsame
  obtain ⟨-, htime, hle, -⟩ := hback (hmem ha)
  rw [(hback (hmem hb)).2.1, ← hsame, ← htime]
  exact hle

end

/-! ## §5 Writing what was read of a writing -/

section

variable {layout : Layout F} {g : Grid R} {notes : List (Note R)}

/-- **A writing that is read and written again** has the same keys on each step, in their order. -/
theorem write_read_write [Scalar.Ranked R] (hstart : g.StartsAtZero) {first : Writing}
    (hfirst : write layout g notes = .ok first)
    (htells : g.TellsApart (stepsIn layout (placesOf layout g notes))) :
    ∃ reading second, read layout g first.text = .ok reading ∧ reading.skipped = [] ∧
      write layout g reading.notes = .ok second ∧
      ∀ step, (keysOn (placesOf layout g reading.notes) step).Perm
          (keysOn (placesOf layout g notes) step) ∧
        (keysOn (placesOf layout g reading.notes) step).Pairwise (· ≤ ·) := by
  have hlabels : AllLabelled layout (placesOf layout g notes) := allLabelled_placesOf
  obtain ⟨hstrikes, hskips, hsteps⟩ := strikes_placesText g.metre.numerator.toNat hlabels
  have hrow : ∀ p ∈ stepwise layout (placesOf layout g notes), p ∈ placesOf layout g notes := by
    intro p hp
    rw [← mem_keysOn, ← keysOn_stepwise hlabels]
    exact mem_keysOn.mpr hp
  have hcount : ∀ p ∈ stepwise layout (placesOf layout g notes),
      p.2 < stepsIn layout (placesOf layout g notes) := fun p hp => lt_stepsIn hlabels (hrow p hp)
  -- Every key of the text is struck, and what was struck can be written
  obtain ⟨struck, hstruck⟩ := Except.exists_mapM fun p hp => htells.exists_strike (hcount p hp)
  have hwritable : ∀ n ∈ struck, (layout.labelFor n.key).isSome → ∃ i, g.stepIndex n.time = .ok i :=
    fun n hn _ => ⟨_, (of_mem_struck hstart htells hcount hstruck hn).2.2.2⟩
  obtain ⟨second, hsecond⟩ := exists_write hwritable
  refine ⟨⟨struck, [], stepsIn layout (placesOf layout g notes)⟩, second, ?_, rfl, hsecond,
    fun step => ⟨?_, ?_⟩⟩
  · rw [(text_of_write hstart hfirst).1, read_outline, hstrikes, hskips, hsteps, hstruck]
    rfl
  · rw [← keysOn_stepwise hlabels]
    exact (placesOf_struck_perm hstart htells hcount hstruck fun p hp =>
      hlabels p (hrow p hp)).filterMap _
  · exact pairwise_keysOn_iff.mpr (placesOf_struck_pairwise hstart htells hcount hstruck) step

/-- The notes of each step are written in the order of keys just if none of them is before another
one of a lower key. -/
theorem keysOn_placesOf_pairwise_iff [Scalar.Ranked R] (hstart : g.StartsAtZero)
    (htimed : ∀ n ∈ notes, n.time ≤ n.time)
    (hindex : ∀ n ∈ notes, (layout.labelFor n.key).isSome → ∃ i, g.stepIndex n.time = .ok i) :
    (∀ step, (keysOn (placesOf layout g notes) step).Pairwise (· ≤ ·)) ↔
      ∀ a ∈ notes, ∀ b ∈ notes, (layout.labelFor a.key).isSome → (layout.labelFor b.key).isSome →
        g.stepIndex a.time = g.stepIndex b.time → a.time < b.time → a.key ≤ b.key := by
  have hperm := inOrder_perm notes
  have hsame {a b : Note R} (ha : a ∈ notes) (hb : b ∈ notes) (hla : (layout.labelFor a.key).isSome)
      (hlb : (layout.labelFor b.key).isSome) :
      g.stepIndex a.time = g.stepIndex b.time ↔ g.indexOf a = g.indexOf b := by
    obtain ⟨i, hi⟩ := hindex a ha hla
    obtain ⟨j, hj⟩ := hindex b hb hlb
    have hai := Grid.indexOf_eq hstart hi
    have hbj := Grid.indexOf_eq hstart hj
    rw [hi, hj, Except.ok.injEq]
    omega
  rw [pairwise_keysOn_iff, placesOf, List.pairwise_map]
  -- The notes that are written, in the order in which they are
  set row := (inOrder notes).filter fun n => (layout.labelFor n.key).isSome
  have hmem {n : Note R} : n ∈ row ↔ n ∈ notes ∧ (layout.labelFor n.key).isSome := by
    rw [List.mem_filter, hperm.mem_iff]
  have horder : row.Pairwise fun a b => a.time ≤ b.time ∧ (b.time ≤ a.time → a.key ≤ b.key) :=
    (inOrder_pairwise htimed).filter _
  constructor
  · intro hkeys a ha b hb hla hlb hstep hlt
    obtain ⟨i, hi, rfl⟩ := List.getElem_of_mem (hmem.mpr ⟨ha, hla⟩)
    obtain ⟨j, hj, rfl⟩ := List.getElem_of_mem (hmem.mpr ⟨hb, hlb⟩)
    have hnot := (Scalar.Ranked.lt_iff_le_not_le.mp hlt).2
    -- The earlier note is written first
    rcases lt_trichotomy i j with hij | rfl | hji
    · exact List.pairwise_iff_getElem.mp hkeys i j hi hj hij ((hsame ha hb hla hlb).mp hstep)
    · exact absurd (htimed _ ha) hnot
    · exact absurd (List.pairwise_iff_getElem.mp horder j i hj hi hji).1 hnot
  · intro hkeys
    refine horder.imp_of_mem fun {a b} ha hb hab hstep => ?_
    obtain ⟨ha, hla⟩ := hmem.mp ha
    obtain ⟨hb, hlb⟩ := hmem.mp hb
    by_cases hba : b.time ≤ a.time
    · exact hab.2 hba
    · exact hkeys a ha b hb hla hlb ((hsame ha hb hla hlb).mpr hstep)
        (Scalar.Ranked.lt_iff_le_not_le.mpr ⟨hab.1, hba⟩)

/-- What becomes of the writing of notes when it is read and written again. -/
structure Settles (layout : Layout F) (g : Grid R) (notes : List (Note R)) (first : Writing)
    (reading : Reading R) (second : Writing) : Prop where
  write_first : write layout g notes = .ok first
  read_first : read layout g first.text = .ok reading
  nothing_skipped : reading.skipped = []
  write_second : write layout g reading.notes = .ok second
  text_first : first.text = placesText layout g.metre.numerator.toNat (placesOf layout g notes)
  text_second : second.text =
    placesText layout g.metre.numerator.toNat (placesOf layout g reading.notes)
  /-- Each step has the same keys, now in their order. -/
  keys_perm : ∀ step, (keysOn (placesOf layout g reading.notes) step).Perm
    (keysOn (placesOf layout g notes) step)
  keys_pairwise : ∀ step, (keysOn (placesOf layout g reading.notes) step).Pairwise (· ≤ ·)
  /-- The text stays the same just if the keys of each step were in order. -/
  text_iff : second.text = first.text ↔
    ∀ step, (keysOn (placesOf layout g notes) step).Pairwise (· ≤ ·)
  /-- Where times are numbers, this is so just if no note is before another one of a lower key that
  is put on the same step. -/
  text_iff_of_timed : (∀ n ∈ notes, n.time ≤ n.time) → (second.text = first.text ↔
    ∀ a ∈ notes, ∀ b ∈ notes, (layout.labelFor a.key).isSome → (layout.labelFor b.key).isSome →
      g.stepIndex a.time = g.stepIndex b.time → a.time < b.time → a.key ≤ b.key)
  /-- From then on it stays the same. -/
  settled : ∃ again third, read layout g second.text = .ok again ∧
    write layout g again.notes = .ok third ∧ third.text = second.text

/-- **A writing settles** when it is read and written again, on a grid that tells its steps
apart. -/
theorem exists_settles [Scalar.Ranked R] (hstart : g.StartsAtZero) {first : Writing}
    (hfirst : write layout g notes = .ok first) (htells : g.TellsApart (stepsOf first.text)) :
    ∃ reading second, Settles layout g notes first reading second := by
  obtain ⟨htext, hindex⟩ := text_of_write hstart hfirst
  have hlabels : AllLabelled layout (placesOf layout g notes) := allLabelled_placesOf
  rw [htext, (strikes_placesText _ hlabels).2.2] at htells
  obtain ⟨reading, second, hread, hskipped, hsecond, hkeys⟩ :=
    write_read_write hstart hfirst htells
  obtain ⟨htext', -⟩ := text_of_write hstart hsecond
  -- The second text takes as many steps, so it comes back in the same way
  have hsteps : stepsIn layout (placesOf layout g reading.notes) =
      stepsIn layout (placesOf layout g notes) := stepsIn_eq hlabels fun step => (hkeys step).1
  obtain ⟨again, third, hread', -, hthird, hkeys'⟩ :=
    write_read_write hstart hsecond (hsteps ▸ htells)
  obtain ⟨htext'', -⟩ := text_of_write hstart hthird
  -- Of the same keys there is one row in order
  have hsorted {ks ls : List Int} (hperm : ks.Perm ls) (hks : ks.Pairwise (· ≤ ·))
      (hls : ls.Pairwise (· ≤ ·)) : ks = ls :=
    hperm.eq_of_pairwise (fun a b _ _ => Int.le_antisymm) hks hls
  have hiff : second.text = first.text ↔
      ∀ step, (keysOn (placesOf layout g notes) step).Pairwise (· ≤ ·) := by
    rw [htext, htext', placesText_eq_iff _ hlabels allLabelled_placesOf]
    refine forall_congr' fun step => ⟨fun hsame => ?_, fun hpairwise => ?_⟩
    · rw [← hsame]
      exact (hkeys step).2
    · exact hsorted (hkeys step).1 (hkeys step).2 hpairwise
  refine ⟨reading, second, hfirst, hread, hskipped, hsecond, htext, htext',
    fun step => (hkeys step).1, fun step => (hkeys step).2, hiff, fun htimed => ?_, again, third,
    hread', hthird, ?_⟩
  · rw [hiff, keysOn_placesOf_pairwise_iff hstart htimed hindex]
  · rw [htext', htext'', placesText_eq_iff _ allLabelled_placesOf allLabelled_placesOf]
    exact fun step => hsorted (hkeys' step).1 (hkeys' step).2 (hkeys step).2

end

/-! ## §6 Exact numbers and machine numbers -/

/-- **What is written, read and written again stays as it is from then on**, and it is the first
text just if no note was before another one of a lower key that is put on the same step. In exact
arithmetic this holds of all notes. In machine arithmetic it holds if every step of the text begins
at a finite time, and there are not more of them than can be told apart. -/
theorem writing_settles (layout : Layout F) :
    (∀ (g : Grid Rat) (notes : List (Note Rat)),
      ∃ first reading second, Settles layout g notes first reading second) ∧
    ∀ (g : Grid Float) (notes : List (Note Float)) (first : Writing),
      write layout g notes = .ok first → stepsOf first.text ≤ 2 ^ 50 →
      (∀ i : Nat, i < stepsOf first.text → ∃ q, Scalar.reading (g.stepTime i) = .finite q) →
      ∃ reading second, Settles layout g notes first reading second := by
  constructor
  · intro g notes
    exact ⟨_, exists_settles g.startsAtZero_rat (write_rat layout g notes) (g.tellsApart_rat _)⟩
  · intro g notes first hfirst hcount hfinite
    have hstart := g.startsAtZero_float
    refine exists_settles hstart hfirst (g.tellsApart_float hcount (fun hpos => ?_) hfinite)
    obtain ⟨htext, hindex⟩ := text_of_write hstart hfirst
    have hlabels : AllLabelled layout (placesOf layout g notes) := allLabelled_placesOf
    rw [htext, (strikes_placesText _ hlabels).2.2] at hpos
    -- A step that was written is the step of a note, so steps last
    have hne : placesOf layout g notes ≠ [] := by
      intro hnone
      rw [hnone] at hpos
      exact Nat.lt_irrefl 0 hpos
    obtain ⟨p, hp⟩ := List.exists_mem_of_ne_nil _ hne
    obtain ⟨n, hn, -⟩ := List.mem_map.mp hp
    obtain ⟨hn, hlabel⟩ := List.mem_filter.mp hn
    obtain ⟨i, hi⟩ := hindex n ((Order.sortBy_perm mayPrecede notes).mem_iff.mp hn) hlabel
    exact (Grid.stepIndex_eq_ok.mp hi).1

/-- Machine notes beside the times of steps are written, two of them on one step with the higher key
first. What is written second is another text, and from then on it stays. -/
theorem writing_settles_of_machine_chord : ∃ (g : Grid Float) (high low later : Note Float),
    g.stepTime 0 < high.time ∧ high.time < low.time ∧ low.time < later.time ∧
    later.time < g.stepTime 1 ∧ low.key < high.key ∧
    g.stepIndex high.time = .ok 0 ∧ g.stepIndex low.time = .ok 0 ∧
    g.stepIndex later.time = .ok 1 ∧
    ∃ first reading second,
      Settles Octaves.layout g [high, low, later] first reading second ∧
      second.text ≠ first.text := by
  let g : Grid Float := ⟨60.0, .common, 1, by decide +kernel, by decide⟩
  let high : Note Float := ⟨2, 0.0625, 1.0, .null, false, by decide +kernel, by decide +kernel⟩
  let low : Note Float := ⟨0, 0.125, 1.0, .null, false, by decide +kernel, by decide +kernel⟩
  let later : Note Float := ⟨1, 0.75, 1.0, .null, false, by decide +kernel, by decide +kernel⟩
  have hlasts : Scalar.isZero g.step = false := by decide +kernel
  have hhigh : g.stepIndex high.time = .ok 0 :=
    Grid.stepIndex_eq_ok.mpr ⟨hlasts, 1 / 16, by decide +kernel, by decide +kernel⟩
  have hlow : g.stepIndex low.time = .ok 0 :=
    Grid.stepIndex_eq_ok.mpr ⟨hlasts, 1 / 8, by decide +kernel, by decide +kernel⟩
  have hlater : g.stepIndex later.time = .ok 1 :=
    Grid.stepIndex_eq_ok.mpr ⟨hlasts, 3 / 4, by decide +kernel, by decide +kernel⟩
  -- Each note is put on one of the first two steps
  have hindex : ∀ n ∈ [high, low, later], ∃ i : Int, g.stepIndex n.time = .ok i ∧ i < 2 := by
    simp only [List.forall_mem_cons, List.not_mem_nil, false_implies, implies_true, and_true]
    exact ⟨⟨0, hhigh, by decide⟩, ⟨0, hlow, by decide⟩, ⟨1, hlater, by decide⟩⟩
  have hwritable : ∀ n ∈ [high, low, later], (Octaves.layout.labelFor n.key).isSome →
      ∃ i, g.stepIndex n.time = .ok i := fun n hn _ => (hindex n hn).imp fun _ h => h.1
  obtain ⟨first, hfirst⟩ := exists_write hwritable
  have hcount : stepsOf first.text ≤ 2 := by
    rw [(text_of_write g.startsAtZero_float hfirst).1,
      (strikes_placesText _ allLabelled_placesOf).2.2]
    refine stepsIn_le fun p hp => ?_
    obtain ⟨n, hn, rfl⟩ := List.mem_map.mp hp
    obtain ⟨i, hi, hlt⟩ := hindex n ((inOrder_perm _).mem_iff.mp (List.mem_filter.mp hn).1)
    have := Grid.indexOf_eq g.startsAtZero_float hi
    dsimp only
    omega
  have hfinite : ∀ i : Nat, i < stepsOf first.text →
      ∃ q, Scalar.reading (g.stepTime i) = .finite q := by
    intro i hi
    obtain rfl | rfl : i = 0 ∨ i = 1 := by omega
    · exact ⟨0, by decide +kernel⟩
    · exact ⟨1, by decide +kernel⟩
  obtain ⟨reading, second, hsettles⟩ :=
    (writing_settles Octaves.layout).2 g _ first hfirst (by omega) hfinite
  have htimed : ∀ n ∈ [high, low, later], n.time ≤ n.time := by
    simp only [List.forall_mem_cons, List.not_mem_nil, false_implies, implies_true, and_true]
    exact ⟨by decide +kernel, by decide +kernel, by decide +kernel⟩
  have hearlier : high.time < low.time := by decide +kernel
  refine ⟨g, high, low, later, by decide +kernel, hearlier, by decide +kernel, by decide +kernel,
    by decide, hhigh, hlow, hlater, first, reading, second, hsettles, fun hsame => ?_⟩
  have hkeys := (hsettles.text_iff_of_timed htimed).mp hsame high (by simp) low (by simp)
    (by decide) (by decide) (by rw [hhigh, hlow]) hearlier
  exact absurd hkeys (by decide)

/-- Of two notes on one step the one of the higher key, which comes first, does not stay first: what
is written is not always what comes of reading and writing it. -/
theorem lower_key_moves_forward : ¬ ∀ (layout : Layout Rat) (g : Grid Rat) (notes : List (Note Rat))
    (first second : Writing) (reading : Reading Rat), write layout g notes = .ok first →
      read layout g first.text = .ok reading → write layout g reading.notes = .ok second →
      second.text = first.text := by
  intro h
  let g : Grid Rat := ⟨60, .common, 1, by decide +kernel, by decide⟩
  let early : Note Rat := ⟨2, 0, 1, .null, false, by decide +kernel, by decide +kernel⟩
  let late : Note Rat := ⟨0, 1 / 10, 1, .null, false, by decide +kernel, by decide +kernel⟩
  obtain ⟨reading, second, hsettles⟩ := exists_settles g.startsAtZero_rat
    (write_rat Octaves.layout g [early, late]) (g.tellsApart_rat _)
  have hsame := h _ g _ _ second reading hsettles.write_first hsettles.read_first
    hsettles.write_second
  have hstep : g.stepIndex early.time = g.stepIndex late.time := by
    rw [Grid.stepIndex_rat, Grid.stepIndex_rat]
    exact congrArg Except.ok (by decide +kernel)
  have hkeys := (hsettles.text_iff_of_timed fun _ _ => le_rfl).mp hsame early (by simp) late
    (by simp) (by decide) (by decide) hstep (by decide +kernel)
  exact absurd hkeys (by decide)

end Tab

end Lamella
