import Lamella.Proofs.Order.Permuted
import Lamella.Proofs.Song.Owning

/-!
# Ids that clash

A song gives each of its notes an id of its own. That fails where an id cannot be looked up, and
where the ids that were met again cannot be put in order for the warning that names them. Which ids
are met again can be told from the notes alone: those that two notes share, and those that will be
drawn for another note.

## Main definitions

- `Work.Fails`: work that fails.
- `Song.IsShared`, `Song.IsDrawn`: ids that two notes have, and ids that will be drawn.
- `Song.Clash`: ids that are shared and cannot be compared.

## Main statements

- `Song.fault_of_adopt`: giving ids fails only at an id that cannot be looked up.
- `Song.origin_of_repeated`, `Song.repeated_of_shared`: the ids that are met again.
- `Song.clash_of_adopt`, `Song.not_comparable_of_clash`: when these cannot be put in order.
- `Song.fault_of_own`, `Song.not_gives_own`: making notes a song's own fails only there, and always.
-/

namespace Lamella

/-! ## §1 Work that fails -/

namespace Work

variable {α β : Type} {w : Work α} {fault : Fault} {j j' : Journal}

/-- Work that fails: from one journal it leaves another with a fault. -/
def Fails (w : Work α) (j : Journal) (fault : Fault) (j' : Journal) : Prop :=
  w.run.run j = (.error fault, j')

/-- Work goes well or fails. -/
theorem gives_or_fails (w : Work α) (j : Journal) :
    (∃ a j', w.Gives j a j') ∨ ∃ fault j', w.Fails j fault j' := by
  rcases hw : w.run.run j with ⟨fault | a, j'⟩
  · exact .inr ⟨fault, j', hw⟩
  · exact .inl ⟨a, j', hw⟩

/-- One piece of work after another fails just if the first does, or the second after it. -/
theorem fails_bind {f : α → Work β} :
    (w >>= f).Fails j fault j' ↔
      w.Fails j fault j' ∨ ∃ a k, w.Gives j a k ∧ (f a).Fails k fault j' := by
  unfold Fails Gives
  rw [ExceptT.run_bind, StateT.run_bind]
  rcases hw : w.run.run j with ⟨first | a, k⟩
  · constructor
    · intro h
      cases h
      exact .inl rfl
    · rintro (h | ⟨a, k, h, -⟩)
      · cases h
        rfl
      · cases h
  · constructor
    · intro h
      exact .inr ⟨a, k, rfl, h⟩
    · rintro (h | ⟨a', k', h, hf⟩)
      · cases h
      · cases h
        exact hf

@[simp] theorem not_fails_pure {a : α} : ¬ (pure a : Work α).Fails j fault j' := nofun

@[simp] theorem fails_throw {fault' : Fault} :
    (throw fault' : Work α).Fails j fault j' ↔ fault' = fault ∧ j = j' := by
  constructor
  · intro h
    cases h
    exact ⟨rfl, rfl⟩
  · rintro ⟨rfl, rfl⟩
    rfl

@[simp] theorem fails_of {result : Except Fault α} :
    (Work.of result).Fails j fault j' ↔ result = .error fault ∧ j = j' := by
  constructor
  · intro h
    cases result with
    | error first =>
      cases h
      exact ⟨rfl, rfl⟩
    | ok a => cases h
  · rintro ⟨rfl, rfl⟩
    rfl

@[simp] theorem not_fails_freshId : ¬ freshId.Fails j fault j' := nofun

@[simp] theorem not_fails_now : ¬ now.Fails j fault j' := nofun

@[simp] theorem not_fails_warn {warning : Warning} : ¬ (warn warning).Fails j fault j' := nofun

theorem fails_map {g : α → β} : (g <$> w).Fails j fault j' ↔ w.Fails j fault j' := by
  rw [← bind_pure_comp, fails_bind]
  simp

end Work

namespace Song

open Work

variable {R : Type} [Scalar R]

/-! ## §2 Ids -/

/-- Whether an id is a number. -/
def isNumeric (id : Value R) : Bool := (idNumber? id).isSome

/-- An id that at least two of some ids are. -/
def IsShared (ids : List (Value R)) (id : Value R) : Prop := 2 ≤ ids.countP (sameId id)

/-- An id that will be drawn after a journal. -/
def IsDrawn (j : Journal) (id : Value R) : Prop :=
  ∃ m, j.drawn < m ∧ sameId id (.str (Journal.idText m)) = true

theorem isNumeric_of_sameId {a b : Value R} (h : sameId a b = true) :
    isNumeric a = isNumeric b := by
  cases a <;> cases b <;> simp_all [sameId, isNumeric, idNumber?]

theorem isNull_of_sameId {a b : Value R} (h : sameId a b = true) : a.isNull = b.isNull := by
  cases a <;> cases b <;> simp_all [sameId, Value.isNull, idNumber?]

theorem IsShared.cons {ids : List (Value R)} {id : Value R} (h : IsShared ids id) (a : Value R) :
    IsShared (a :: ids) id :=
  h.trans ((List.sublist_cons_self a ids).countP_le)

theorem isShared_cons {ids : List (Value R)} {a id : Value R} (hsame : sameId id a = true)
    (hmem : id ∈ ids) (hself : sameId id id = true) : IsShared (a :: ids) id := by
  have hpos : 0 < ids.countP (sameId id) := List.countP_pos_iff.mpr ⟨id, hmem, hself⟩
  rw [IsShared, List.countP_cons_of_pos hsame]
  omega

/-- Giving ids fails only at an id that cannot be looked up. -/
theorem fault_of_adopt {seen : Shelves (Value R)} {notes : List (Note R)} {fault : Fault}
    {j j' : Journal} (h : (adopt seen notes).Fails j fault j') :
    fault = .wrongShape ∧ ∃ n ∈ notes, isIdentifying n.id = false := by
  induction notes generalizing seen j with
  | nil => exact absurd h not_fails_pure
  | cons n rest ih =>
    rw [adopt] at h
    cases hid : isIdentifying n.id with
    | false =>
      rw [hid] at h
      rcases fails_bind.mp h with hthrow | ⟨u, k, hgives, -⟩
      · obtain ⟨rfl, -⟩ := fails_throw.mp hthrow
        exact ⟨rfl, n, List.mem_cons_self, hid⟩
      · exact absurd hgives not_gives_throw
    | true =>
      -- Neither keeping nor drawing an id fails, so it is a later note
      have hrest : ∃ seen k, (adopt seen rest).Fails k fault j' := by
        cases hnew : n.id.isNull || (!n.id.isNull && seen.any (sameId n.id) (idCode n.id)) with
        | true =>
          simp [hid, hnew, fails_bind, fails_map] at h
          exact ⟨_, _, h⟩
        | false =>
          simp [hid, hnew, fails_map] at h
          exact ⟨_, _, h⟩
      obtain ⟨seen', k, hrest⟩ := hrest
      obtain ⟨hfault, m, hm, hmid⟩ := ih hrest
      exact ⟨hfault, m, List.mem_cons_of_mem n hm, hmid⟩

/-- Notes that were given ids have ids that can be looked up. -/
theorem identifying_of_adopt {seen : Shelves (Value R)} {notes owned : List (Note R)}
    {repeated : List (Value R)} {j j' : Journal}
    (h : (adopt seen notes).Gives j (owned, repeated) j') :
    ∀ n ∈ notes, isIdentifying n.id = true := by
  induction notes generalizing seen owned repeated j with
  | nil => exact fun n hn => by cases hn
  | cons n rest ih =>
    obtain ⟨hidentifying, id, k, -, notes, others, hrest, -, -⟩ := adopt_cons.mp h
    exact List.forall_mem_cons.mpr ⟨hidentifying, ih hrest⟩

/-- An id that is met again was met before, is one that was drawn, or is shared by two notes. -/
theorem origin_of_repeated {seen : Shelves (Value R)} {before : List (Value R)}
    {notes owned : List (Note R)} {repeated : List (Value R)} {j j' : Journal}
    (h : (adopt seen notes).Gives j (owned, repeated) j') (hseen : Holds seen before) {r : Value R}
    (hr : r ∈ repeated) :
    r ∈ notes.map Note.id ∧ r.isNull = false ∧ isIdentifying r = true ∧
      ((∃ b ∈ before, sameId r b = true) ∨ IsDrawn j r ∨ IsShared (notes.map Note.id) r) := by
  induction notes generalizing seen before owned repeated j with
  | nil =>
    obtain ⟨-, rfl, -⟩ := adopt_nil.mp h
    cases hr
  | cons n rest ih =>
    obtain ⟨hidentifying, id, k, hid, notes, others, hrest, -, rfl⟩ := adopt_cons.mp h
    -- The notes after the first know its id too
    have hlater : r ∈ others → r ∈ (n :: rest).map Note.id ∧ r.isNull = false ∧
        isIdentifying r = true ∧ ((∃ b ∈ before, sameId r b = true) ∨ IsDrawn j r ∨
          IsShared ((n :: rest).map Note.id) r) := by
      intro hr
      obtain ⟨hmem, hnull, hself, horigin⟩ := ih hrest (hseen.put id) hr
      refine ⟨List.mem_cons_of_mem _ hmem, hnull, hself, ?_⟩
      rcases horigin with ⟨b, hb, hsame⟩ | ⟨m, hm, hsame⟩ | hshared
      · rcases List.mem_cons.mp hb with rfl | hb
        · unfold NewId at hid
          split at hid
          · obtain ⟨rfl, rfl⟩ := hid
            exact .inr (.inl ⟨j.drawn + 1, Nat.lt_succ_self _, hsame⟩)
          · obtain ⟨rfl, rfl⟩ := hid
            exact .inr (.inr (isShared_cons hsame hmem (by rw [sameId_self, hself])))
        · exact .inl ⟨b, hb, hsame⟩
      · exact .inr (.inl ⟨m, hid.drawn_le.trans_lt hm, hsame⟩)
      · exact .inr (.inr (hshared.cons n.id))
    split at hr
    · rename_i hagain
      rcases List.mem_cons.mp hr with rfl | hr
      · obtain ⟨hnull, hmet⟩ := Bool.and_eq_true_iff.mp hagain
        rw [hseen] at hmet
        exact ⟨List.mem_cons_self, by simpa using hnull, hidentifying,
          .inl (List.any_eq_true.mp hmet)⟩
      · exact hlater hr
    · exact hlater hr

/-- An id that was met before is met again at a note that has it. -/
theorem repeated_of_met {seen : Shelves (Value R)} {before : List (Value R)}
    {notes owned : List (Note R)} {repeated : List (Value R)} {j j' : Journal}
    (h : (adopt seen notes).Gives j (owned, repeated) j') (hseen : Holds seen before)
    {r b : Value R} (hr : r.isNull = false) (hb : b ∈ before) (hrb : sameId r b = true) {n : Note R}
    (hn : n ∈ notes) (hrn : sameId r n.id = true) : ∃ r' ∈ repeated, sameId r r' = true := by
  induction notes generalizing seen before owned repeated j with
  | nil => cases hn
  | cons m rest ih =>
    obtain ⟨-, id, k, -, notes, others, hrest, -, rfl⟩ := adopt_cons.mp h
    rcases List.mem_cons.mp hn with rfl | hn
    · have hnull : n.id.isNull = false := isNull_of_sameId hrn ▸ hr
      have hmet : seen.any (sameId n.id) (idCode n.id) = true := by
        rw [hseen, List.any_eq_true]
        exact ⟨b, hb, by rw [← sameId_congr hrn, hrb]⟩
      refine ⟨n.id, ?_, hrn⟩
      simp [hnull, hmet]
    · obtain ⟨r', hr', hsame⟩ := ih hrest (hseen.put id) (List.mem_cons_of_mem id hb) hn
      refine ⟨r', ?_, hsame⟩
      split
      · exact List.mem_cons_of_mem _ hr'
      · exact hr'

/-- An id that two notes share is met again. -/
theorem repeated_of_shared {seen : Shelves (Value R)} {before : List (Value R)}
    {notes owned : List (Note R)} {repeated : List (Value R)} {j j' : Journal}
    (h : (adopt seen notes).Gives j (owned, repeated) j') (hseen : Holds seen before) {r : Value R}
    (hr : r.isNull = false) (hshared : IsShared (notes.map Note.id) r) :
    ∃ r' ∈ repeated, sameId r r' = true := by
  induction notes generalizing seen before owned repeated j with
  | nil => exact absurd hshared (by simp [IsShared])
  | cons n rest ih =>
    obtain ⟨-, id, k, hid, notes, others, hrest, -, rfl⟩ := adopt_cons.mp h
    cases hsame : sameId r n.id with
    | false =>
      -- The first note has another id, so both are among the rest
      have hrestShared : IsShared (rest.map Note.id) r := by
        rwa [IsShared, List.map_cons, List.countP_cons_of_neg (by simp [hsame])] at hshared
      obtain ⟨r', hr', hrr'⟩ := ih hrest (hseen.put id) hrestShared
      refine ⟨r', ?_, hrr'⟩
      split
      · exact List.mem_cons_of_mem _ hr'
      · exact hr'
    | true =>
      split
      · exact ⟨n.id, List.mem_cons_self, hsame⟩
      · -- The first note keeps its id, and the other one meets it
        rename_i hfirst
        have hnull : n.id.isNull = false := isNull_of_sameId hsame ▸ hr
        have hkept : id = n.id := by
          have hown : ¬ (n.id.isNull ||
              (!n.id.isNull && seen.any (sameId n.id) (idCode n.id))) = true := by
            simpa [hnull] using hfirst
          rw [NewId, if_neg hown] at hid
          exact hid.1
        have hcount : 0 < (rest.map Note.id).countP (sameId r) := by
          rw [IsShared, List.map_cons, List.countP_cons_of_pos hsame] at hshared
          omega
        obtain ⟨i, hi, hri⟩ := List.countP_pos_iff.mp hcount
        obtain ⟨m, hm, rfl⟩ := List.mem_map.mp hi
        exact repeated_of_met hrest (hseen.put id) hr List.mem_cons_self (hkept ▸ hsame) hm hri

/-- Keeps an id unless it is one of those that were kept before. -/
def keep (kept : List (Value R)) (a : Value R) : List (Value R) :=
  if kept.any (sameId a) then kept else a :: kept

/-- What keeping an id does: it keeps only given ids, and the id itself or one that is the same. -/
theorem mem_keep (kept : List (Value R)) (a : Value R) :
    (∀ id ∈ keep kept a, id = a ∨ id ∈ kept) ∧ (∀ id ∈ kept, id ∈ keep kept a) ∧
      ∃ b ∈ keep kept a, a = b ∨ sameId a b = true := by
  unfold keep
  cases hany : kept.any (sameId a) with
  | true =>
    obtain ⟨b, hb, hsame⟩ := List.any_eq_true.mp hany
    exact ⟨fun id h => .inr h, fun id h => h, b, hb, .inr hsame⟩
  | false =>
    refine ⟨fun id h => ?_, fun id h => List.mem_cons_of_mem a h, a, List.mem_cons_self, .inl rfl⟩
    exact List.mem_cons.mp h

/-- Keeping ids one by one keeps only given ids, and of each id one that is the same. -/
theorem mem_foldl_keep (kept ids : List (Value R)) :
    (∀ id ∈ ids.foldl keep kept, id ∈ kept ∨ id ∈ ids) ∧ (∀ id ∈ kept, id ∈ ids.foldl keep kept) ∧
      ∀ id ∈ ids, ∃ a ∈ ids.foldl keep kept, id = a ∨ sameId id a = true := by
  induction ids generalizing kept with
  | nil => exact ⟨fun id h => .inl h, fun id h => h, fun id h => by cases h⟩
  | cons a rest ih =>
    obtain ⟨hgiven, hstays, hfound⟩ := ih (keep kept a)
    obtain ⟨hnew, hold, b, hb, hsame⟩ := mem_keep kept a
    rw [List.foldl_cons]
    refine ⟨fun id h => ?_, fun id h => hstays id (hold id h), ?_⟩
    · rcases hgiven id h with h | h
      · rcases hnew id h with rfl | h
        · exact .inr List.mem_cons_self
        · exact .inl h
      · exact .inr (List.mem_cons_of_mem a h)
    · exact List.forall_mem_cons.mpr ⟨⟨b, hstays b hb, hsame⟩, hfound⟩

/-- Sorting out equal ids keeps only given ids, and of each id one that is the same. -/
theorem mem_dedup (ids : List (Value R)) :
    (∀ id ∈ Order.dedup sameId ids, id ∈ ids) ∧
      ∀ id ∈ ids, ∃ a ∈ Order.dedup sameId ids, id = a ∨ sameId id a = true := by
  obtain ⟨hgiven, -, hfound⟩ := mem_foldl_keep [] ids
  have hdedup : Order.dedup sameId ids = (ids.foldl keep []).reverse := rfl
  simp only [hdedup, List.mem_reverse]
  exact ⟨fun id h => (hgiven id h).resolve_left List.not_mem_nil, hfound⟩

/-- Ids cannot be put in order just if there is a number among them and one that is none. -/
theorem areComparable_eq_false {ids : List (Value R)} :
    areComparable ids = false ↔
      (∃ a ∈ ids, isNumeric a = true) ∧ ∃ b ∈ ids, isNumeric b = false := by
  rw [areComparable, Bool.or_eq_false_iff, List.all_eq_false, List.all_eq_false, and_comm]
  simp [isNumeric, Option.isSome_iff_ne_none]

/-- Ids that clash: two notes share a number, and two share an id that is none. -/
def Clash (ids : List (Value R)) : Prop :=
  (∃ a ∈ ids, isNumeric a = true ∧ IsShared ids a) ∧
    ∃ b ∈ ids, b.isNull = false ∧ isNumeric b = false ∧ IsShared ids b

/-- Whether ids clash does not depend on their order. -/
theorem Clash.of_perm {ids ids' : List (Value R)} (h : Clash ids) (hperm : ids.Perm ids') :
    Clash ids' := by
  have hshared : ∀ id, IsShared ids id → IsShared ids' id := by
    intro id hid
    rwa [IsShared, ← hperm.countP_eq]
  obtain ⟨⟨a, ha, hnumeric, hashared⟩, b, hb, hnull, hnone, hbshared⟩ := h
  exact ⟨⟨a, hperm.mem_iff.mp ha, hnumeric, hshared a hashared⟩, b, hperm.mem_iff.mp hb, hnull,
    hnone, hshared b hbshared⟩

/-- The ids that are met again are ids of notes, drawn or shared. -/
theorem origin_of_dedup {notes owned : List (Note R)} {repeated : List (Value R)} {j j' : Journal}
    (h : (adopt .bare notes).Gives j (owned, repeated) j') {r : Value R}
    (hr : r ∈ Order.dedup sameId repeated) :
    r ∈ notes.map Note.id ∧ r.isNull = false ∧ (IsDrawn j r ∨ IsShared (notes.map Note.id) r) := by
  obtain ⟨hmem, hnull, -, hbefore | horigin⟩ :=
    origin_of_repeated h holds_bare ((mem_dedup repeated).1 r hr)
  · obtain ⟨b, hb, -⟩ := hbefore
    cases hb
  · exact ⟨hmem, hnull, horigin⟩

/-- A shared id is met again, by itself or by one that is the same. -/
theorem mem_dedup_of_shared {notes owned : List (Note R)} {repeated : List (Value R)}
    {j j' : Journal} (h : (adopt .bare notes).Gives j (owned, repeated) j') {r : Value R}
    (hnull : r.isNull = false) (hshared : IsShared (notes.map Note.id) r) :
    ∃ r' ∈ Order.dedup sameId repeated, sameId r r' = true := by
  obtain ⟨r', hr', hsame⟩ := repeated_of_shared h holds_bare hnull hshared
  obtain ⟨q, hq, rfl | hsame'⟩ := (mem_dedup repeated).2 r' hr'
  · exact ⟨r', hq, hsame⟩
  · exact ⟨q, hq, by rw [sameId_congr hsame, hsame']⟩

/-- If the ids that are met again cannot be put in order, two clash or one was drawn. -/
theorem clash_of_adopt {notes owned : List (Note R)} {repeated : List (Value R)} {j j' : Journal}
    (h : (adopt .bare notes).Gives j (owned, repeated) j')
    (hcomparable : areComparable (Order.dedup sameId repeated) = false) :
    Clash (notes.map Note.id) ∨ ∃ n ∈ notes, IsDrawn j n.id := by
  obtain ⟨⟨a, ha, hnumeric⟩, b, hb, hnone⟩ := areComparable_eq_false.mp hcomparable
  obtain ⟨hamem, -, hdrawn | hashared⟩ := origin_of_dedup h ha
  · obtain ⟨n, hn, rfl⟩ := List.mem_map.mp hamem
    exact .inr ⟨n, hn, hdrawn⟩
  · obtain ⟨hbmem, hbnull, hdrawn | hbshared⟩ := origin_of_dedup h hb
    · obtain ⟨n, hn, rfl⟩ := List.mem_map.mp hbmem
      exact .inr ⟨n, hn, hdrawn⟩
    · exact .inl ⟨⟨a, hamem, hnumeric, hashared⟩, b, hbmem, hbnull, hnone, hbshared⟩

/-- If two ids clash, the ids that are met again cannot be put in order. -/
theorem not_comparable_of_clash {notes owned : List (Note R)} {repeated : List (Value R)}
    {j j' : Journal} (h : (adopt .bare notes).Gives j (owned, repeated) j')
    (hclash : Clash (notes.map Note.id)) :
    areComparable (Order.dedup sameId repeated) = false := by
  obtain ⟨⟨a, -, hnumeric, ha⟩, b, -, hbnull, hnone, hb⟩ := hclash
  have hanull : a.isNull = false := by
    cases a <;> simp_all [isNumeric, idNumber?, Value.isNull]
  obtain ⟨a', ha', haa'⟩ := mem_dedup_of_shared h hanull ha
  obtain ⟨b', hb', hbb'⟩ := mem_dedup_of_shared h hbnull hb
  refine areComparable_eq_false.mpr ⟨⟨a', ha', ?_⟩, b', hb', ?_⟩
  · rw [← isNumeric_of_sameId haa', hnumeric]
  · rw [← isNumeric_of_sameId hbb', hnone]

/-- Making notes a song's own fails only at ids that cannot be looked up, that clash, or that will
be drawn. -/
theorem fault_of_own {notes : List (Note R)} {fault : Fault} {j j' : Journal}
    (h : (own notes).Fails j fault j') :
    fault = .wrongShape ∧ ((∃ n ∈ notes, isIdentifying n.id = false) ∨
      Clash (notes.map Note.id) ∨ ∃ n ∈ notes, IsDrawn j n.id) := by
  have hperm := Order.sortBy_perm (fun a b : Note R => decide (a.time ≤ b.time)) notes
  unfold own at h
  rcases fails_bind.mp h with hadopt | ⟨⟨owned, repeated⟩, k, hadopt, h⟩
  · obtain ⟨hfault, n, hn, hid⟩ := fault_of_adopt hadopt
    exact ⟨hfault, .inl ⟨n, hperm.mem_iff.mp hn, hid⟩⟩
  · dsimp only at h
    split at h
    · split at h
      · -- The ids met again are named in a warning, for which they have to be in order
        rename_i hcomparable
        rcases fails_bind.mp h with hthrow | ⟨u, k', hgives, -⟩
        · obtain ⟨rfl, -⟩ := fails_throw.mp hthrow
          rcases clash_of_adopt hadopt (by simpa using hcomparable) with hclash | ⟨n, hn, hdrawn⟩
          · exact ⟨rfl, .inr (.inl (hclash.of_perm (hperm.map Note.id)))⟩
          · exact ⟨rfl, .inr (.inr ⟨n, hperm.mem_iff.mp hn, hdrawn⟩)⟩
        · exact absurd hgives not_gives_throw
      · simp [fails_map] at h
    · exact absurd h not_fails_pure

/-- Notes become a song's own only if all their ids can be looked up and do not clash. -/
theorem not_gives_own {notes owned : List (Note R)} {j j' : Journal}
    (hbad : (∃ n ∈ notes, isIdentifying n.id = false) ∨ Clash (notes.map Note.id)) :
    ¬ (own notes).Gives j owned j' := by
  have hperm := Order.sortBy_perm (fun a b : Note R => decide (a.time ≤ b.time)) notes
  intro h
  unfold own at h
  obtain ⟨⟨owned', repeated⟩, k, hadopt, h⟩ := gives_bind.mp h
  rcases hbad with ⟨n, hn, hid⟩ | hclash
  · have hid' := identifying_of_adopt hadopt n (hperm.mem_iff.mpr hn)
    exact absurd (hid.symm.trans hid') Bool.false_ne_true
  · have hcomparable := not_comparable_of_clash hadopt (hclash.of_perm (hperm.map Note.id).symm)
    have hsome : repeated.isEmpty = false := by
      cases repeated with
      | nil => cases hcomparable
      | cons r rest => rfl
    simp [hsome, hcomparable, not_gives_throw] at h

end Song

end Lamella
