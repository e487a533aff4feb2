import Lamella.Proofs.Song.Clashes
import Lamella.Proofs.Song.Lasting
import Lamella.Proofs.Song.Making

/-!
# What a song takes in

A song is made of notes in any order, of which some have no id and some share one. It puts them in
the order of their times, where notes of one time stay as they stood, and goes through them once: a
note whose id was not met before keeps it, and each other note gets one that is drawn for it. Only
ids that were given and met again are warned of, all in one warning that tells how many they are.

How the ids go round is a derivation with one rule for each of the three things that can happen to a
note. Everything that is said here of the ids of a song is said by induction on it.

## Main definitions

- `Song.PutInTime`: a row of notes in the order of their times.
- `Song.Adopts`: how notes get their ids, one after another.
- `Song.Takes`: what a song makes of a row of notes.

## Main statements

- `Song.inTime_putInTime`: a song puts its notes in the order of their times.
- `Song.Adopts.kept_iff`: of the notes that share an id the first keeps it, and no other.
- `Song.exists_make_of_textual`: what a song is that is made of notes with texts for ids, or none.
-/

namespace Lamella

open Work

namespace Song

variable {R : Type}

/-- An id that is a text, or none. -/
def IsTextual (id : Value R) : Prop := id = .null ∨ ∃ t, id = .str t

theorem IsTextual.isIdentifying {id : Value R} (h : IsTextual id) : isIdentifying id = true := by
  rcases h with rfl | ⟨t, rfl⟩ <;> rfl

variable [Scalar R]

/-! ## §1 Notes in the order of their times -/

/-- A row of notes put in the order of their times: notes of one time stay as they stood. -/
structure PutInTime (notes sorted : List (Note R)) : Prop where
  perm : sorted.Perm notes
  order : sorted.Pairwise fun a b => a.time ≤ b.time
  stable : ∀ time : R,
    (sorted.filter fun n => Scalar.same time n.time) = notes.filter fun n => Scalar.same time n.time

/-- **A song puts its notes in the order of their times**, if these are numbers. -/
theorem inTime_putInTime [Scalar.Comparable R] {notes : List (Note R)}
    (htimed : ∀ n ∈ notes, n.time ≤ n.time) : PutInTime notes (inTime notes) := by
  let le : Note R → Note R → Bool := fun a b => decide (a.time ≤ b.time)
  have hrefl : ∀ n ∈ notes, le n n = true := fun n hn => decide_eq_true (htimed n hn)
  have htrans : ∀ a b c, le a b = true → le b c = true → le a c = true := by
    simpa [le] using fun a b c => Scalar.Orderly.le_trans
  have htotal : ∀ a b, le a a = true → le b b = true → le a b = true ∨ le b a = true := by
    simpa [le] using fun a b => Scalar.Comparable.le_total
  refine ⟨inTime_perm notes, ?_, fun time => ?_⟩
  · exact (Order.sortBy_pairwise hrefl htrans htotal).imp of_decide_eq_true
  · -- The notes of one time are in order as they stand, so sorting does not part them
    let front := notes.filter fun n => Scalar.same time n.time
    have hfront : front.Pairwise fun a b => Order.totalized le a b = true := by
      refine List.pairwise_of_forall_mem_list fun a ha b hb => ?_
      obtain ⟨ha, hatime⟩ := List.mem_filter.mp ha
      obtain ⟨hb, hbtime⟩ := List.mem_filter.mp hb
      simp only [Scalar.same, Bool.and_eq_true, decide_eq_true_eq] at hatime hbtime
      have hab : le a b = true := decide_eq_true (Scalar.Orderly.le_trans hatime.2 hbtime.1)
      simp [Order.totalized, hrefl a ha, hab]
    have hkept : front.Sublist (inTime notes) := by
      rw [inTime, Order.sortBy_eq_totalized hrefl]
      exact List.sublist_mergeSort (Order.totalized_trans htrans) (Order.totalized_total htotal)
        hfront List.filter_sublist
    have hagain := hkept.filter fun n => Scalar.same time n.time
    simp only [front, List.filter_filter, Bool.and_self] at hagain
    refine (hagain.eq_of_length ?_).symm
    exact ((inTime_perm notes).filter _).length_eq.symm

/-! ## §2 How ids go round -/

/-- The id that is drawn next. -/
def nextId (drawn : Nat) : Value R := .str (Journal.idText (drawn + 1))

/-- How notes get their ids, one after another: the ids met before and how many were drawn, the notes
without and with their new ids, the ids that were met again, and how many were drawn then. -/
inductive Adopts : List (Value R) → Nat → List (Note R) → List (Note R) → List (Value R) → Nat → Prop
  | nil {before : List (Value R)} {drawn : Nat} : Adopts before drawn [] [] [] drawn
  | keep {before repeated : List (Value R)} {drawn drawn' : Nat} {n : Note R}
      {rest owned : List (Note R)} (hgiven : n.id.isNull = false) (hnew : n.id ∉ before)
      (hrest : Adopts (n.id :: before) drawn rest owned repeated drawn') :
      Adopts before drawn (n :: rest) (n :: owned) repeated drawn'
  | draw {before repeated : List (Value R)} {drawn drawn' : Nat} {n : Note R}
      {rest owned : List (Note R)} (hneeds : n.id.isNull = true ∨ n.id ∈ before)
      (hrest : Adopts (nextId drawn :: before) (drawn + 1) rest owned repeated drawn') :
      Adopts before drawn (n :: rest) ({ n with id := nextId drawn } :: owned)
        (if n.id.isNull then repeated else n.id :: repeated) drawn'

/-- No id of some notes is among those that will be drawn. -/
def Undrawn (drawn : Nat) (notes : List (Note R)) : Prop :=
  ∀ n ∈ notes, ∀ m, drawn < m → n.id ≠ .str (Journal.idText m)

/-- What is drawn is at least as long as its least width. -/
theorem le_length_idText (n : Nat) : 12 ≤ (Journal.idText n).length := by
  simp only [Journal.idText, Text.ofChars, Text.hex, List.length_map, List.length_append,
    List.length_replicate]
  omega

theorem undrawn_of_short {drawn : Nat} {notes : List (Note R)}
    (h : ∀ n ∈ notes, ∀ t, n.id = .str t → t.length < 12) : Undrawn drawn notes := by
  intro n hn m _ hid
  exact absurd (h n hn _ hid) (not_lt.mpr (le_length_idText m))

theorem Undrawn.mono {drawn k : Nat} {notes : List (Note R)} (h : Undrawn drawn notes)
    (hle : drawn ≤ k) : Undrawn k notes :=
  fun n hn m hm => h n hn m (hle.trans_lt hm)

theorem Undrawn.tail {drawn : Nat} {n : Note R} {rest : List (Note R)}
    (h : Undrawn drawn (n :: rest)) : Undrawn drawn rest :=
  fun m hm => h m (List.mem_cons_of_mem n hm)

theorem Undrawn.ne_nextId {drawn : Nat} {notes : List (Note R)} (h : Undrawn drawn notes)
    {n : Note R} (hn : n ∈ notes) : n.id ≠ nextId drawn :=
  h n hn (drawn + 1) (Nat.lt_succ_self _)

/-- How many notes of a row got another id in place of their own. -/
def reissued (notes owned : List (Note R)) : Nat :=
  (notes.zip owned).countP fun p => !p.1.id.isNull && !sameId p.1.id p.2.id

theorem reissued_cons (n m : Note R) (notes owned : List (Note R)) :
    reissued (n :: notes) (m :: owned) =
      reissued notes owned + if !n.id.isNull && !sameId n.id m.id then 1 else 0 := by
  rw [reissued, List.zip_cons_cons, List.countP_cons]
  rfl

theorem sameId_iff_of_textual {a b : Value R} (ha : IsTextual a) (hb : IsTextual b) :
    sameId a b = true ↔ a = b := by
  rcases ha with rfl | ⟨s, rfl⟩ <;> rcases hb with rfl | ⟨t, rfl⟩ <;> simp [sameId, idNumber?]

/-- An id is found on the shelves just if it was met. -/
theorem any_iff_of_textual {seen : Shelves (Value R)} {before : List (Value R)} {id : Value R}
    (hseen : Holds seen before) (hbefore : ∀ b ∈ before, IsTextual b) (hid : IsTextual id) :
    seen.any (sameId id) (idCode id) = true ↔ id ∈ before := by
  rw [hseen, List.any_eq_true]
  constructor
  · rintro ⟨b, hb, hsame⟩
    rwa [(sameId_iff_of_textual hid (hbefore b hb)).mp hsame]
  · exact fun h => ⟨id, h, (sameId_iff_of_textual hid hid).mpr rfl⟩

/-- **Notes get their ids so**, and nothing is warned of while they do. -/
theorem adopts_of_adopt {seen : Shelves (Value R)} {before repeated : List (Value R)}
    {notes owned : List (Note R)} {j j' : Journal}
    (h : (adopt seen notes).Gives j (owned, repeated) j') (hseen : Holds seen before)
    (hbefore : ∀ b ∈ before, IsTextual b) (hnotes : ∀ n ∈ notes, IsTextual n.id) :
    Adopts before j.drawn notes owned repeated j'.drawn ∧ j'.given = j.given := by
  induction notes generalizing seen before owned repeated j with
  | nil =>
    obtain ⟨rfl, rfl, rfl⟩ := adopt_nil.mp h
    exact ⟨.nil, rfl⟩
  | cons n rest ih =>
    obtain ⟨hn, hrest⟩ := List.forall_mem_cons.mp hnotes
    obtain ⟨-, id, k, hid, owned, others, hadopt, rfl, rfl⟩ := adopt_cons.mp h
    have hmet := any_iff_of_textual hseen hbefore hn
    unfold NewId at hid
    split at hid
    · -- The note has no id, or one that was met
      rename_i hneeds
      obtain ⟨rfl, rfl⟩ := hid
      obtain ⟨hadopts, hgiven⟩ :=
        ih hadopt (hseen.put _) (List.forall_mem_cons.mpr ⟨.inr ⟨_, rfl⟩, hbefore⟩) hrest
      simp only [Bool.or_eq_true, Bool.and_eq_true, Bool.not_eq_true', hmet] at hneeds
      have hrepeated : (if !n.id.isNull && seen.any (sameId n.id) (idCode n.id) then n.id :: others
          else others) = if n.id.isNull then others else n.id :: others := by
        rcases hneeds with hnull | ⟨hnull, hfound⟩
        · simp [hnull]
        · simp [hnull, hmet.mpr hfound]
      rw [hrepeated]
      exact ⟨Adopts.draw (hneeds.imp_right And.right) hadopts, hgiven⟩
    · rename_i hown
      obtain ⟨rfl, rfl⟩ := hid
      obtain ⟨hadopts, hgiven⟩ :=
        ih hadopt (hseen.put _) (List.forall_mem_cons.mpr ⟨hn, hbefore⟩) hrest
      simp only [Bool.or_eq_true, Bool.and_eq_true, Bool.not_eq_true', not_or, not_and] at hown
      have hnull : n.id.isNull = false := Bool.eq_false_iff.mpr hown.1
      have hnew : n.id ∉ before := fun h => hown.2 hnull (hmet.mpr h)
      refine ⟨?_, hgiven⟩
      rw [Bool.eq_false_iff.mpr (hown.2 hnull), Bool.and_false]
      exact Adopts.keep hnull hnew hadopts

namespace Adopts

variable {before repeated : List (Value R)} {drawn drawn' : Nat} {notes owned : List (Note R)}

/-- Notes get ids, and nothing else of them is changed. -/
theorem signature_eq (h : Adopts before drawn notes owned repeated drawn') :
    owned.map Note.signature = notes.map Note.signature := by
  induction h with
  | nil => rfl
  | keep _ _ _ ih => rw [List.map_cons, List.map_cons, ih]
  | draw _ _ ih => exact congrArg (List.cons _) ih

theorem drawn_le (h : Adopts before drawn notes owned repeated drawn') : drawn ≤ drawn' := by
  induction h with
  | nil => exact le_rfl
  | keep _ _ _ ih => exact ih
  | draw _ _ ih => exact (Nat.le_succ _).trans ih

/-- Each note has a text for its id then. -/
theorem exists_text (h : Adopts before drawn notes owned repeated drawn')
    (hnotes : ∀ n ∈ notes, IsTextual n.id) : ∀ n ∈ owned, ∃ t, n.id = .str t := by
  induction h with
  | nil => exact nofun
  | keep hgiven _ _ ih =>
    obtain ⟨hn, hrest⟩ := List.forall_mem_cons.mp hnotes
    refine List.forall_mem_cons.mpr ⟨hn.resolve_left fun hnull => ?_, ih hrest⟩
    rw [hnull] at hgiven
    cases hgiven
  | draw _ _ ih =>
    exact List.forall_mem_cons.mpr ⟨⟨_, rfl⟩, ih (List.forall_mem_cons.mp hnotes).2⟩

/-- **Of the notes that share an id the first keeps it, and no other**: a note keeps its id just if it
has one, and none that came before had it. -/
theorem kept_iff (h : Adopts before drawn notes owned repeated drawn')
    (hundrawn : Undrawn drawn notes) {i : Nat} {n m : Note R} (hn : notes[i]? = some n)
    (hm : owned[i]? = some m) :
    m.id = n.id ↔ n.id.isNull = false ∧ n.id ∉ before ∧ ∀ a ∈ notes.take i, a.id ≠ n.id := by
  induction h generalizing i with
  | nil => cases hn
  | @keep before repeated drawn drawn' first rest owned hgiven hnew hrest ih =>
    cases i with
    | zero =>
      cases hn
      cases hm
      simp [hgiven, hnew]
    | succ i =>
      rw [ih hundrawn.tail hn hm]
      simp only [List.mem_cons, List.take_succ_cons, forall_eq_or_imp, not_or]
      tauto
  | @draw before repeated drawn drawn' first rest owned hneeds hrest ih =>
    cases i with
    | zero =>
      cases hn
      cases hm
      refine iff_of_false (hundrawn.ne_nextId List.mem_cons_self).symm fun ⟨hgiven, hnew, _⟩ => ?_
      rcases hneeds with hnull | hmet
      · cases hnull.symm.trans hgiven
      · exact hnew hmet
    | succ i =>
      have hne : n.id ≠ nextId drawn := hundrawn.tail.ne_nextId (List.mem_of_getElem? hn)
      -- What is like the first has no id either, or was met as early as that of the first
      have hother : n.id.isNull = false → n.id ∉ before → first.id ≠ n.id := by
        rintro hgiven hnew hsame
        rw [hsame] at hneeds
        rcases hneeds with hnull | hmet
        · cases hnull.symm.trans hgiven
        · exact hnew hmet
      rw [ih (hundrawn.tail.mono (Nat.le_succ drawn)) hn hm]
      simp only [List.mem_cons, List.take_succ_cons, forall_eq_or_imp, not_or]
      tauto

/-- A note that does not keep its id gets one that is drawn for it. -/
theorem drawn_of_not_kept (h : Adopts before drawn notes owned repeated drawn') {i : Nat}
    {n m : Note R} (hn : notes[i]? = some n) (hm : owned[i]? = some m) (hne : m.id ≠ n.id) :
    ∃ k, drawn < k ∧ k ≤ drawn' ∧ m.id = .str (Journal.idText k) := by
  induction h generalizing i with
  | nil => cases hn
  | keep _ _ _ ih =>
    cases i with
    | zero =>
      cases hn
      cases hm
      exact absurd rfl hne
    | succ i => exact ih hn hm
  | @draw before repeated drawn drawn' first rest owned hneeds hrest ih =>
    cases i with
    | zero =>
      cases hm
      exact ⟨drawn + 1, Nat.lt_succ_self _, hrest.drawn_le, rfl⟩
    | succ i =>
      obtain ⟨k, hk, hk', hid⟩ := ih hn hm
      exact ⟨k, (Nat.lt_succ_self _).trans hk, hk', hid⟩

/-- The ids that are met again are those of the notes that are given others. -/
theorem length_repeated (h : Adopts before drawn notes owned repeated drawn')
    (hnotes : ∀ n ∈ notes, IsTextual n.id) (hundrawn : Undrawn drawn notes) :
    repeated.length = reissued notes owned := by
  induction h with
  | nil => rfl
  | @keep before repeated drawn drawn' first rest owned hgiven hnew hrest ih =>
    obtain ⟨hn, hothers⟩ := List.forall_mem_cons.mp hnotes
    have hsame : sameId first.id first.id = true := (sameId_iff_of_textual hn hn).mpr rfl
    rw [ih hothers hundrawn.tail, reissued_cons]
    simp [hsame]
  | @draw before repeated drawn drawn' first rest owned hneeds hrest ih =>
    obtain ⟨hn, hothers⟩ := List.forall_mem_cons.mp hnotes
    have hother : sameId first.id (nextId drawn) = false :=
      Bool.eq_false_iff.mpr fun h => hundrawn.ne_nextId List.mem_cons_self
        ((sameId_iff_of_textual hn (.inr ⟨_, rfl⟩)).mp h)
    have hlength := ih hothers (hundrawn.tail.mono (Nat.le_succ drawn))
    rw [reissued_cons, ← hlength]
    cases hnull : first.id.isNull with
    | true => simp
    | false => simp [hother]

end Adopts

/-! ## §3 What is warned of -/

/-- Whether some note has an id that another one has too. -/
def HasRepeated (notes : List (Note R)) : Prop :=
  ∃ n ∈ notes, n.id.isNull = false ∧ IsShared (notes.map Note.id) n.id

theorem HasRepeated.of_perm {notes sorted : List (Note R)} (h : HasRepeated notes)
    (hperm : notes.Perm sorted) : HasRepeated sorted := by
  obtain ⟨n, hn, hgiven, hshared⟩ := h
  refine ⟨n, hperm.mem_iff.mp hn, hgiven, ?_⟩
  rwa [IsShared, ← (hperm.map Note.id).countP_eq]

theorem Undrawn.not_isDrawn {notes : List (Note R)} {j : Journal} (h : Undrawn j.drawn notes)
    {n : Note R} (hn : n ∈ notes) (htext : IsTextual n.id) : ¬ IsDrawn j n.id := by
  rintro ⟨m, hm, hsame⟩
  exact h n hn m hm ((sameId_iff_of_textual htext (.inr ⟨_, rfl⟩)).mp hsame)

/-- Some id is met again just if two notes share one. -/
theorem repeated_iff {notes owned : List (Note R)} {repeated : List (Value R)} {j j' : Journal}
    (h : (adopt .bare notes).Gives j (owned, repeated) j') (hnotes : ∀ n ∈ notes, IsTextual n.id)
    (hundrawn : Undrawn j.drawn notes) : repeated ≠ [] ↔ HasRepeated notes := by
  constructor
  · intro hne
    obtain ⟨r, hr⟩ := List.exists_mem_of_ne_nil repeated hne
    obtain ⟨hmem, hgiven, -, horigin⟩ := origin_of_repeated h holds_bare hr
    obtain ⟨n, hn, rfl⟩ := List.mem_map.mp hmem
    refine ⟨n, hn, hgiven, ?_⟩
    rcases horigin with ⟨b, hb, -⟩ | hdrawn | hshared
    · cases hb
    · exact absurd hdrawn (hundrawn.not_isDrawn hn (hnotes n hn))
    · exact hshared
  · rintro ⟨n, -, hgiven, hshared⟩ rfl
    obtain ⟨r, hr, -⟩ := repeated_of_shared h holds_bare hgiven hshared
    cases hr

/-! ## §4 What a song takes in -/

/-- What a song makes of notes: it holds them in the order of their times, each with a text for its id
that no other has. A note keeps its own id just if none before it in time has it, and else gets one
that is drawn; those that lose theirs are counted in a warning, and there is no other. -/
structure Takes (j j' : Journal) (notes sorted owned : List (Note R)) : Prop where
  inTime : PutInTime notes sorted
  same : owned.map Note.signature = sorted.map Note.signature
  present : ∀ n ∈ owned, ∃ t, n.id = .str t
  distinct : (owned.map Note.id).Nodup
  kept {i : Nat} {n m : Note R} : sorted[i]? = some n → owned[i]? = some m →
    (m.id = n.id ↔ n.id.isNull = false ∧ ∀ a ∈ sorted.take i, a.id ≠ n.id)
  drawn {i : Nat} {n m : Note R} : sorted[i]? = some n → owned[i]? = some m → m.id ≠ n.id →
    ∃ k, j.drawn < k ∧ k ≤ j'.drawn ∧ m.id = .str (Journal.idText k)
  warned : HasRepeated notes →
    ∃ names, j'.given = .reissued (reissued sorted owned) names :: j.given
  silent : ¬ HasRepeated notes → j'.given = j.given

/-- It can be told from an earlier journal too, from which only ids were drawn since. -/
theorem Takes.of_drawn_le {j k j' : Journal} {notes sorted owned : List (Note R)}
    (h : Takes k j' notes sorted owned) (hdrawn : j.drawn ≤ k.drawn) (hgiven : k.given = j.given) :
    Takes j j' notes sorted owned where
  inTime := h.inTime
  same := h.same
  present := h.present
  distinct := h.distinct
  kept := h.kept
  drawn hn hm hne := by
    obtain ⟨i, hi, hi', hid⟩ := h.drawn hn hm hne
    exact ⟨i, hdrawn.trans_lt hi, hi', hid⟩
  warned := hgiven ▸ h.warned
  silent := hgiven ▸ h.silent

/-- A song warns of the ids that were met again while its notes got theirs, and of nothing else. -/
theorem warned_of_own {notes owned : List (Note R)} {j j' : Journal}
    (h : (own notes).Gives j owned j') :
    ∃ repeated k, (adopt .bare (Song.inTime notes)).Gives j (owned, repeated) k ∧
      k.drawn = j'.drawn ∧ (repeated = [] → j'.given = k.given) ∧
      (repeated ≠ [] → ∃ names, j'.given = .reissued repeated.length names :: k.given) := by
  unfold own at h
  obtain ⟨⟨owned', repeated⟩, k, hadopt, h⟩ := gives_bind.mp h
  dsimp only at h
  cases repeated with
  | nil =>
    obtain ⟨rfl, rfl⟩ := gives_pure.mp h
    exact ⟨[], k, hadopt, rfl, fun _ => rfl, fun hne => absurd rfl hne⟩
  | cons r rest =>
    rw [if_pos (by rfl)] at h
    split at h
    · simp [not_gives_throw] at h
    · simp only [gives_bind, gives_warn, gives_pure] at h
      obtain ⟨-, -, rfl, rfl, rfl⟩ := h
      refine ⟨r :: rest, k, hadopt, rfl, fun hnil => ?_, fun _ => ⟨_, rfl⟩⟩
      exact absurd hnil (List.cons_ne_nil r rest)

/-- **What a song takes in**, from the journal in which it does so. -/
theorem takes_of_own [Scalar.Comparable R] {notes owned : List (Note R)} {j j' : Journal}
    (h : (own notes).Gives j owned j') (htimed : ∀ n ∈ notes, n.time ≤ n.time)
    (hnotes : ∀ n ∈ notes, IsTextual n.id) (hundrawn : Undrawn j.drawn notes) :
    Takes j j' notes (Song.inTime notes) owned := by
  have hperm := inTime_perm notes
  have htexts : ∀ n ∈ Song.inTime notes, IsTextual n.id := fun n hn => hnotes n (hperm.mem_iff.mp hn)
  have hnone : Undrawn j.drawn (Song.inTime notes) := fun n hn => hundrawn n (hperm.mem_iff.mp hn)
  obtain ⟨repeated, k, hadopt, hk, hsilent, hwarned⟩ := warned_of_own h
  obtain ⟨hadopts, hgiven⟩ := adopts_of_adopt hadopt holds_bare nofun htexts
  have hrepeated : repeated ≠ [] ↔ HasRepeated notes :=
    (repeated_iff hadopt htexts hnone).trans
      ⟨fun h => h.of_perm hperm, fun h => h.of_perm hperm.symm⟩
  have hfresh : Fresh ((Song.inTime notes).map Note.id) j k := by
    intro id hid m hm _
    obtain ⟨n, hn, rfl⟩ := List.mem_map.mp hid
    exact Bool.eq_false_iff.mpr fun hsame => hnone.not_isDrawn hn (htexts n hn) ⟨m, hm, hsame⟩
  have hapart := (apart_of_adopt hadopt holds_bare nofun (fun n hn => List.mem_map_of_mem hn) hfresh).1
  exact {
    inTime := inTime_putInTime htimed
    same := hadopts.signature_eq
    present := hadopts.exists_text htexts
    distinct := nodup_of_distinct hapart.distinct fun id hid => (hapart.usable id hid).2
    kept := fun hn hm => by simpa using hadopts.kept_iff hnone hn hm
    drawn := fun hn hm hne => hk ▸ hadopts.drawn_of_not_kept hn hm hne
    warned := fun h => by
      rw [← hadopts.length_repeated htexts hnone, ← hgiven]
      exact hwarned (hrepeated.mpr h)
    silent := fun h => (hsilent (not_not.mp fun hne => h (hrepeated.mp hne))).trans hgiven }

/-- Notes with texts for ids, or none, can always be taken in. -/
theorem exists_own_of_textual {notes : List (Note R)} {j : Journal}
    (hnotes : ∀ n ∈ notes, IsTextual n.id) (hundrawn : Undrawn j.drawn notes) :
    ∃ owned j', (own notes).Gives j owned j' := by
  refine (gives_or_fails (own notes) j).resolve_right ?_
  rintro ⟨fault, j', hfails⟩
  obtain ⟨-, ⟨n, hn, hid⟩ | ⟨⟨id, hid, hnumeric, -⟩, -⟩ | ⟨n, hn, hdrawn⟩⟩ := fault_of_own hfails
  · rw [(hnotes n hn).isIdentifying] at hid
    cases hid
  · obtain ⟨n, hn, rfl⟩ := List.mem_map.mp hid
    rcases hnotes n hn with hnull | ⟨t, htext⟩
    · rw [hnull] at hnumeric
      cases hnumeric
    · rw [htext] at hnumeric
      cases hnumeric
  · exact hundrawn.not_isDrawn hn (hnotes n hn) hdrawn

/-- **A song of notes with texts for ids, or none.** Whatever such notes a draft has, in any order and
with any ids that are missing or repeated, it becomes a song if its tempo, metre and level are sound.
The song takes in all its notes, as copies of them in the order of their times, and a duration that
is computed is how long the notes of the draft last. Their times and ends are to be numbers, and none
of their ids one that will be drawn. -/
theorem exists_make_of_textual [Scalar.Ranked R] {d : Draft R} {metre : Metre}
    {difficulty : Difficulty} {j : Journal} (hnotes : ∀ n ∈ d.notes, IsTextual n.id)
    (htimed : ∀ n ∈ d.notes, n.time ≤ n.time ∧ n.finish ≤ n.finish)
    (htempo : ¬ d.tempo.scalar ≤ Scalar.ofInt 0) (hmetre : d.metre.resolve = .ok metre)
    (hdifficulty : Difficulty.ofValue d.difficulty = .ok difficulty)
    (hundrawn : Undrawn j.drawn d.notes) :
    ∃ song j' sorted, (make d).Gives j song j' ∧ Takes j j' d.notes sorted song.notes ∧
      if d.duration.isNull then
        ∃ duration, song.duration = .num duration ∧ Last d.notes duration
      else song.duration = d.duration := by
  obtain ⟨k, hdrawn, hgiven, hmake⟩ := exists_make_of_own htempo hmetre hdifficulty j
  obtain ⟨owned, j', hown⟩ := exists_own_of_textual hnotes (hundrawn.mono hdrawn)
  obtain ⟨song, hgives, rfl, -, -, -, hduration⟩ := hmake hown
  have htakes := takes_of_own hown (fun n hn => (htimed n hn).1) hnotes (hundrawn.mono hdrawn)
  have hends : (song.notes.map Note.finish).Perm (d.notes.map Note.finish) := by
    rw [map_finish_of_signature htakes.same]
    exact htakes.inTime.perm.map Note.finish
  refine ⟨song, j', Song.inTime d.notes, hgives, htakes.of_drawn_le hdrawn hgiven, ?_⟩
  split
  · rename_i hnull
    rw [if_pos hnull] at hduration
    have hfinish : ∀ n ∈ song.notes, n.finish ≤ n.finish := by
      intro n hn
      obtain ⟨m, hm, hsame⟩ := List.mem_map.mp (hends.mem_iff.mp (List.mem_map_of_mem hn))
      rw [← hsame]
      exact (htimed m hm).2
    exact ⟨_, hduration, (last_durationOf hfinish).of_perm hends⟩
  · rename_i hgiven
    rwa [if_neg hgiven] at hduration

/-- Four notes out of order, of which one has no id and two share one. -/
theorem exists_make_of_shared_id :
    let note (key : Int) (time : Rat) (id : Value Rat) (h : ¬ time < Scalar.ofInt 0) : Note Rat :=
      { key, time, duration := 1, id, time_not_neg := h, duration_pos := by decide }
    let d : Draft Rat := {
      title := "Song"
      notes := [note 8 2 (.str "a") (by decide), note 9 1 (.str "a") (by decide),
        note 10 1 .null (by decide), note 8 0 (.str "b") (by decide)] }
    HasRepeated d.notes ∧ ∃ song j' sorted, (make d).Gives {} song j' ∧
      Takes {} j' d.notes sorted song.notes ∧
      if d.duration.isNull then
        ∃ duration, song.duration = .num duration ∧ Last d.notes duration
      else song.duration = d.duration := by
  intro note d
  have hnotes : ∀ n ∈ d.notes, IsTextual n.id := by
    simp [d, note, IsTextual]
  have hshort : ∀ n ∈ d.notes, ∀ t, n.id = .str t → t.length < 12 := by
    simp [d, note]
    decide
  have hshared : IsShared (d.notes.map Note.id) (.str "a") := by
    show 2 ≤ _
    decide
  refine ⟨⟨note 8 2 (.str "a") (by decide), List.mem_cons_self, rfl, hshared⟩, ?_⟩
  exact exists_make_of_textual hnotes (fun _ _ => ⟨le_refl _, le_refl _⟩) (by decide +kernel) rfl
    (Difficulty.ofValue_text .medium) (undrawn_of_short hshort)

end Song

end Lamella
