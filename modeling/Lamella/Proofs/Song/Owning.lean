import Lamella.Proofs.Order.Sorted
import Lamella.Proofs.Scalar.Orderly
import Lamella.Proofs.Score.Keeping
import Lamella.Proofs.Text.Integers
import Lamella.Song.Basic

/-!
# The notes that a song owns

A song puts its notes in the order of their times and sees to it that each has an id of its own.
Notes that are so already are left alone: they stay in their order, keep their ids, and nothing is
drawn and nothing warned of.

The ids that were met stand on shelves, of which only one is looked at for each id. What is found
there is what would be found among all of them, so the proofs speak of the row of ids met so far.

## Main definitions

- `Work.Gives`: work that goes well, with what it returns and the journal it leaves.
- `Song.Owned`: notes as a song holds them.

## Main statements

- `Song.owned_of_own`: the notes that a song takes in become such notes.
- `Song.own_of_owned`: such notes are left alone.
-/

namespace Lamella

/-! ## §1 Work that goes well -/

namespace Work

variable {α β : Type} {w : Work α} {a : α} {b : β} {j j' : Journal}

/-- Work that goes well: from one journal it returns a result and leaves another journal. -/
def Gives (w : Work α) (j : Journal) (a : α) (j' : Journal) : Prop := w.run.run j = (.ok a, j')

@[simp] theorem gives_pure {a' : α} : (pure a : Work α).Gives j a' j' ↔ a = a' ∧ j = j' := by
  constructor
  · intro h
    cases h
    exact ⟨rfl, rfl⟩
  · rintro ⟨rfl, rfl⟩
    rfl

/-- One piece of work after another goes well just if both do. -/
theorem gives_bind {f : α → Work β} :
    (w >>= f).Gives j b j' ↔ ∃ a k, w.Gives j a k ∧ (f a).Gives k b j' := by
  unfold Gives
  rw [ExceptT.run_bind, StateT.run_bind]
  constructor
  · intro h
    rcases hw : w.run.run j with ⟨fault | a, k⟩
    · rw [hw] at h
      cases h
    · rw [hw] at h
      exact ⟨a, k, rfl, h⟩
  · rintro ⟨a, k, hw, hf⟩
    rw [hw]
    exact hf

/-- What comes of work after work that goes well. -/
theorem Gives.run_bind (h : w.Gives j a j') (f : α → Work β) :
    (w >>= f).run.run j = (f a).run.run j' := by
  unfold Gives at h
  rw [ExceptT.run_bind, StateT.run_bind, h]
  rfl

theorem gives_map {g : α → β} :
    (g <$> w).Gives j b j' ↔ ∃ a, w.Gives j a j' ∧ g a = b := by
  rw [← bind_pure_comp, gives_bind]
  simp

theorem not_gives_throw {fault : Fault} : ¬ (throw fault : Work α).Gives j a j' := by
  intro h
  cases h

@[simp] theorem gives_of {result : Except Fault α} :
    (Work.of result).Gives j a j' ↔ result = .ok a ∧ j = j' := by
  constructor
  · intro h
    cases result with
    | error fault => cases h
    | ok x =>
      cases h
      exact ⟨rfl, rfl⟩
  · rintro ⟨rfl, rfl⟩
    rfl

@[simp] theorem gives_now {now : Int} : Work.now.Gives j now j' ↔ j.now = now ∧ j = j' := by
  constructor
  · intro h
    cases h
    exact ⟨rfl, rfl⟩
  · rintro ⟨rfl, rfl⟩
    rfl

@[simp] theorem gives_freshId {id : Text} : freshId.Gives j id j' ↔
    Journal.idText (j.drawn + 1) = id ∧ { j with drawn := j.drawn + 1 } = j' := by
  constructor
  · intro h
    cases h
    exact ⟨rfl, rfl⟩
  · rintro ⟨rfl, rfl⟩
    rfl

@[simp] theorem gives_warn {warning : Warning} {u : Unit} :
    (warn warning).Gives j u j' ↔ { j with given := warning :: j.given } = j' := by
  constructor
  · intro h
    cases h
    rfl
  · rintro rfl
    rfl

end Work

namespace Song

open Work

variable {R : Type} [Scalar R]

/-! ## §2 Ids on shelves -/

/-- The shelves hold these ids. -/
def Holds (seen : Shelves (Value R)) (ids : List (Value R)) : Prop :=
  ∀ id, seen.any (sameId id) (idCode id) = ids.any (sameId id)

theorem holds_bare : Holds (.bare : Shelves (Value R)) [] := fun _ => Shelves.any_bare _ _

/-- An id that is put on its shelf is found from then on. -/
theorem Holds.put {seen : Shelves (Value R)} {ids : List (Value R)} (h : Holds seen ids)
    (id : Value R) : Holds (seen.put (idCode id) id) (id :: ids) := by
  intro other
  rw [List.any_cons, ← h other]
  cases hsame : sameId other id with
  | true => rw [idCode_eq_of_sameId hsame, Shelves.any_put_self, hsame]
  | false => rw [Shelves.any_put_of_not _ _ hsame, Bool.false_or]

/-! ## §3 Giving ids -/

/-- The id that a note gets, and the journal after it: a fresh id if the note has none or if its own
was met before, and else its own. -/
def NewId (seen : Shelves (Value R)) (n : Note R) (j : Journal) (id : Value R) (k : Journal) :
    Prop :=
  if n.id.isNull || (!n.id.isNull && seen.any (sameId n.id) (idCode n.id)) then
    id = .str (Journal.idText (j.drawn + 1)) ∧ k = { j with drawn := j.drawn + 1 }
  else id = n.id ∧ k = j

/-- A note gets its id, and then those after it get theirs. -/
theorem adopt_cons {seen : Shelves (Value R)} {n : Note R} {rest owned : List (Note R)}
    {repeated : List (Value R)} {j j' : Journal} :
    (adopt seen (n :: rest)).Gives j (owned, repeated) j' ↔
      isIdentifying n.id = true ∧ ∃ id k, NewId seen n j id k ∧ ∃ notes others,
        (adopt (seen.put (idCode id) id) rest).Gives k (notes, others) j' ∧
        { n with id } :: notes = owned ∧
        (if !n.id.isNull && seen.any (sameId n.id) (idCode n.id) then n.id :: others else others) =
          repeated := by
  rw [adopt]
  cases hid : isIdentifying n.id with
  | false => simp [not_gives_throw]
  | true =>
    cases hnew : n.id.isNull || (!n.id.isNull && seen.any (sameId n.id) (idCode n.id)) with
    | true => simp [NewId, gives_bind, gives_map, hnew]
    | false => simp [NewId, gives_map, hnew]

theorem adopt_nil {seen : Shelves (Value R)} {owned : List (Note R)} {repeated : List (Value R)}
    {j j' : Journal} :
    (adopt seen []).Gives j (owned, repeated) j' ↔ [] = owned ∧ [] = repeated ∧ j = j' := by
  rw [adopt]
  simp [and_assoc]

theorem NewId.drawn_le {seen : Shelves (Value R)} {n : Note R} {j k : Journal} {id : Value R}
    (h : NewId seen n j id k) : j.drawn ≤ k.drawn := by
  unfold NewId at h
  split at h
  · rw [h.2]
    exact Nat.le_succ _
  · rw [h.2]

theorem drawn_le_of_adopt {seen : Shelves (Value R)} {notes owned : List (Note R)}
    {repeated : List (Value R)} {j j' : Journal} (h : (adopt seen notes).Gives j (owned, repeated) j') :
    j.drawn ≤ j'.drawn := by
  induction notes generalizing seen owned repeated j with
  | nil =>
    obtain ⟨-, -, rfl⟩ := adopt_nil.mp h
    exact Nat.le_refl _
  | cons n rest ih =>
    obtain ⟨-, id, k, hid, notes, others, hrest, -, -⟩ := adopt_cons.mp h
    exact hid.drawn_le.trans (ih hrest)

/-! ## §4 Owned notes -/

/-- Ids by which notes can be told apart: each is given and can be looked up, and no two are one. -/
structure Apart (ids : List (Value R)) : Prop where
  usable : ∀ id ∈ ids, id.isNull = false ∧ isIdentifying id = true
  distinct : ids.Pairwise fun a b => sameId a b = false

/-- Notes as a song holds them: in the order of their times, each with an id of its own. -/
structure Owned (notes : List (Note R)) : Prop where
  timed : ∀ n ∈ notes, n.time ≤ n.time
  order : notes.Pairwise fun a b => a.time ≤ b.time
  apart : Apart (notes.map Note.id)

/-- What is drawn between two journals is none of some ids. -/
def Fresh (ids : List (Value R)) (j j' : Journal) : Prop :=
  ∀ id ∈ ids, ∀ m, j.drawn < m → m ≤ j'.drawn → sameId id (.str (Journal.idText m)) = false

theorem Fresh.mono {ids : List (Value R)} {j k k' j' : Journal} (h : Fresh ids j j')
    (hfrom : j.drawn ≤ k.drawn) (hto : k'.drawn ≤ j'.drawn) : Fresh ids k k' := by
  intro id hid m hm hm'
  exact h id hid m (by omega) (by omega)

/-- Ids that were met by the time of a journal: each was given, or drawn before. -/
def Met (given before : List (Value R)) (j : Journal) : Prop :=
  ∀ id ∈ before, id ∈ given ∨ ∃ m ≤ j.drawn, id = .str (Journal.idText m)

theorem sameId_idText {m n : Nat} (hne : m ≠ n) :
    sameId (.str (Journal.idText m) : Value R) (.str (Journal.idText n)) = false := by
  have htext : Journal.idText m ≠ Journal.idText n := fun h => hne (Journal.idText_injective h)
  simpa [sameId] using htext

/-- A new id is none of those met before it, and it has then been met itself. -/
theorem NewId.spec {seen : Shelves (Value R)} {before given : List (Value R)} {n : Note R}
    {j k : Journal} {id : Value R} (h : NewId seen n j id k) (hseen : Holds seen before)
    (hmet : Met given before j) (hgiven : n.id ∈ given) (hidentifying : isIdentifying n.id = true)
    (hfresh : Fresh given j k) :
    (id.isNull = false ∧ isIdentifying id = true) ∧ (∀ other ∈ before, sameId other id = false) ∧
      Met given (id :: before) k := by
  unfold NewId at h
  split at h
  · -- A fresh id: those met before were given, or drawn under a smaller number
    obtain ⟨rfl, rfl⟩ := h
    refine ⟨⟨rfl, rfl⟩, ?_, ?_⟩
    · intro other hother
      rcases hmet other hother with hold | ⟨m, hm, rfl⟩
      · exact hfresh other hold _ (Nat.lt_succ_self _) (Nat.le_refl _)
      · exact sameId_idText (by omega)
    · intro other hother
      rcases List.mem_cons.mp hother with rfl | hother
      · exact .inr ⟨j.drawn + 1, Nat.le_refl _, rfl⟩
      · rcases hmet other hother with hold | ⟨m, hm, rfl⟩
        · exact .inl hold
        · exact .inr ⟨m, Nat.le_succ_of_le hm, rfl⟩
  · -- The note keeps its id, as its shelf holds none that is the same
    rename_i hown
    obtain ⟨rfl, rfl⟩ := h
    simp only [Bool.or_eq_true, Bool.and_eq_true, Bool.not_eq_true', not_or, not_and] at hown
    have hnotnull : n.id.isNull = false := Bool.eq_false_iff.mpr hown.1
    refine ⟨⟨hnotnull, hidentifying⟩, ?_, ?_⟩
    · intro other hother
      have hnone : before.any (sameId n.id) = false := by
        rw [← hseen]
        exact Bool.eq_false_iff.mpr (hown.2 hnotnull)
      rw [sameId_comm]
      exact Bool.eq_false_iff.mpr (List.any_eq_false.mp hnone other hother)
    · intro other hother
      rcases List.mem_cons.mp hother with rfl | hother
      · exact .inl hgiven
      · exact hmet other hother

/-- Notes get ids by which they are told apart from each other and from those before. -/
theorem apart_of_adopt {seen : Shelves (Value R)} {before given : List (Value R)}
    {notes owned : List (Note R)} {repeated : List (Value R)} {j j' : Journal}
    (h : (adopt seen notes).Gives j (owned, repeated) j') (hseen : Holds seen before)
    (hmet : Met given before j) (hgiven : ∀ n ∈ notes, n.id ∈ given) (hfresh : Fresh given j j') :
    Apart (owned.map Note.id) ∧ ∀ other ∈ before, ∀ n ∈ owned, sameId other n.id = false := by
  -- The ids met before grow by each one that is given, so they carry the induction
  induction notes generalizing seen before owned repeated j with
  | nil =>
    obtain ⟨rfl, -, -⟩ := adopt_nil.mp h
    exact ⟨⟨by simp, .nil⟩, by simp⟩
  | cons n rest ih =>
    obtain ⟨hidentifying, id, k, hid, owned', others, hrest, rfl, -⟩ := adopt_cons.mp h
    obtain ⟨husable, hnew, hmet'⟩ := hid.spec hseen hmet (hgiven n List.mem_cons_self) hidentifying
      (hfresh.mono (Nat.le_refl _) (drawn_le_of_adopt hrest))
    obtain ⟨hapart, hothers⟩ := ih hrest (hseen.put id) hmet'
      (fun m hm => hgiven m (List.mem_cons_of_mem n hm)) (hfresh.mono hid.drawn_le (Nat.le_refl _))
    have hfirst : ∀ m ∈ owned', sameId id m.id = false := hothers id List.mem_cons_self
    -- For the notes after it, the id of the first is one of those met before
    refine ⟨⟨?_, ?_⟩, ?_⟩
    · simp only [List.map_cons, List.forall_mem_cons]
      exact ⟨husable, hapart.usable⟩
    · simp only [List.map_cons, List.pairwise_cons, List.forall_mem_map]
      exact ⟨hfirst, hapart.distinct⟩
    · intro other hother
      simp only [List.forall_mem_cons]
      exact ⟨hnew other hother, hothers other (List.mem_cons_of_mem id hother)⟩

/-- Notes that are told apart from each other and from those before keep their ids. -/
theorem adopt_of_apart {seen : Shelves (Value R)} {before : List (Value R)} {notes : List (Note R)}
    (j : Journal) (hseen : Holds seen before) (hapart : Apart (notes.map Note.id))
    (hothers : ∀ n ∈ notes, ∀ other ∈ before, sameId other n.id = false) :
    (adopt seen notes).Gives j (notes, []) j := by
  induction notes generalizing seen before with
  | nil => exact adopt_nil.mpr ⟨rfl, rfl, rfl⟩
  | cons n rest ih =>
    obtain ⟨husable, hdistinct⟩ := hapart
    simp only [List.map_cons, List.forall_mem_cons, List.pairwise_cons, List.forall_mem_map]
      at husable hdistinct
    obtain ⟨⟨hnotnull, hidentifying⟩, husable⟩ := husable
    obtain ⟨hfirst, hdistinct⟩ := hdistinct
    have hunmet : seen.any (sameId n.id) (idCode n.id) = false := by
      rw [hseen, List.any_eq_false]
      intro other hother
      rw [sameId_comm, hothers n List.mem_cons_self other hother]
      exact Bool.false_ne_true
    refine adopt_cons.mpr ⟨hidentifying, n.id, j, ?_, rest, [], ?_, rfl, ?_⟩
    · simp [NewId, hnotnull, hunmet]
    · refine ih (hseen.put n.id) ⟨by simpa using husable, hdistinct⟩ ?_
      intro m hm other hother
      rcases List.mem_cons.mp hother with rfl | hother
      · exact hfirst m hm
      · exact hothers m (List.mem_cons_of_mem n hm) other hother
    · simp [hunmet]

/-- Giving ids leaves the times as they are. -/
theorem times_of_adopt {seen : Shelves (Value R)} {notes owned : List (Note R)}
    {repeated : List (Value R)} {j j' : Journal} (h : (adopt seen notes).Gives j (owned, repeated) j') :
    owned.map Note.time = notes.map Note.time := by
  induction notes generalizing seen owned repeated j with
  | nil =>
    obtain ⟨rfl, -, -⟩ := adopt_nil.mp h
    rfl
  | cons n rest ih =>
    obtain ⟨-, id, k, -, owned', others, hrest, rfl, -⟩ := adopt_cons.mp h
    rw [List.map_cons, List.map_cons, ih hrest]

/-- What a song takes in was put in order first, and then got its ids. -/
theorem adopt_of_own {notes owned : List (Note R)} {j j' : Journal}
    (h : (own notes).Gives j owned j') :
    ∃ repeated k, k.drawn = j'.drawn ∧
      (adopt .bare (Order.sortBy (fun a b => decide (a.time ≤ b.time)) notes)).Gives j
        (owned, repeated) k := by
  unfold own at h
  obtain ⟨⟨owned', repeated⟩, k, hadopt, h⟩ := gives_bind.mp h
  dsimp only at h
  split at h
  · -- Ids that were met again are warned of, which draws nothing
    split at h
    · simp [not_gives_throw] at h
    · simp only [gives_bind, gives_warn, gives_pure] at h
      obtain ⟨-, -, rfl, rfl, rfl⟩ := h
      exact ⟨repeated, k, rfl, hadopt⟩
  · obtain ⟨rfl, rfl⟩ := gives_pure.mp h
    exact ⟨repeated, k, rfl, hadopt⟩

/-- A song takes in all notes. -/
theorem length_of_own {notes owned : List (Note R)} {j j' : Journal}
    (h : (own notes).Gives j owned j') : owned.length = notes.length := by
  obtain ⟨repeated, k, -, hadopt⟩ := adopt_of_own h
  have htimes := congrArg List.length (times_of_adopt hadopt)
  rw [List.length_map, List.length_map] at htimes
  rw [htimes, (Order.sortBy_perm _ notes).length_eq]

/-- The notes that a song takes in come in the order of their times, whatever their ids are. -/
theorem order_of_own [Scalar.Comparable R] {notes owned : List (Note R)} {j j' : Journal}
    (h : (own notes).Gives j owned j') (htimed : ∀ n ∈ notes, n.time ≤ n.time) :
    owned.Pairwise fun a b => a.time ≤ b.time := by
  obtain ⟨repeated, k, hk, hadopt⟩ := adopt_of_own h
  let le : Note R → Note R → Bool := fun a b => decide (a.time ≤ b.time)
  have hrefl : ∀ n ∈ notes, le n n = true := fun n hn => decide_eq_true (htimed n hn)
  have hsorted := Order.sortBy_pairwise hrefl
    (by simpa [le] using fun a b c => Scalar.Orderly.le_trans)
    (by simpa [le] using fun a b => Scalar.Comparable.le_total)
  -- Giving ids leaves the times as sorting has put them
  have htimes : owned.map Note.time = (Order.sortBy le notes).map Note.time := times_of_adopt hadopt
  have horder : ((Order.sortBy le notes).map Note.time).Pairwise fun x y => x ≤ y :=
    List.pairwise_map.mpr (hsorted.imp of_decide_eq_true)
  rw [← htimes] at horder
  exact List.pairwise_map.mp horder

/-- **The notes that a song takes in become owned.** -/
theorem owned_of_own [Scalar.Comparable R] {notes owned : List (Note R)} {j j' : Journal}
    (h : (own notes).Gives j owned j') (htimed : ∀ n ∈ notes, n.time ≤ n.time)
    (hfresh : Fresh (notes.map Note.id) j j') : Owned owned := by
  obtain ⟨repeated, k, hk, hadopt⟩ := adopt_of_own h
  let le : Note R → Note R → Bool := fun a b => decide (a.time ≤ b.time)
  have hperm := Order.sortBy_perm le notes
  have htimes : owned.map Note.time = (Order.sortBy le notes).map Note.time := times_of_adopt hadopt
  have hids : ∀ n ∈ Order.sortBy le notes, n.id ∈ notes.map Note.id :=
    fun n hn => List.mem_map_of_mem (hperm.mem_iff.mp hn)
  refine ⟨?_, order_of_own h htimed, ?_⟩
  · intro n hn
    have htime : n.time ∈ (Order.sortBy le notes).map Note.time := by
      rw [← htimes]
      exact List.mem_map_of_mem hn
    obtain ⟨m, hm, hsame⟩ := List.mem_map.mp htime
    rw [← hsame]
    exact htimed m (hperm.mem_iff.mp hm)
  · exact (apart_of_adopt hadopt holds_bare (fun _ h => nomatch h) hids
      (hfresh.mono (Nat.le_refl _) (Nat.le_of_eq hk))).1

/-- **Owned notes are left alone.** -/
theorem own_of_owned {notes : List (Note R)} (h : Owned notes) (j : Journal) :
    (own notes).Gives j notes j := by
  have hsorted : Order.sortBy (fun a b : Note R => decide (a.time ≤ b.time)) notes = notes := by
    apply Order.sortBy_of_pairwise
    · exact fun n hn => decide_eq_true (h.timed n hn)
    · exact h.order.imp decide_eq_true
  have hadopt := adopt_of_apart j holds_bare h.apart (by simp)
  unfold own
  rw [hsorted]
  exact gives_bind.mpr ⟨_, j, hadopt, by simp⟩

end Song

end Lamella
