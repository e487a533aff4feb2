import Lamella.Proofs.Tab.Outline

/-!
# Accounts of a reading

Nothing of a tablature is lost without a word: every label of a token and every member of a chord
becomes a note or is skipped, and so does a token that is nothing known. The steps that tokens take
come one after another, so the notes of one token are over before those of the next one begin, and
they come in the order of time.

## Main definitions

- `Tab.groupsFrom`: the keys that tokens strike, those of each token together.
- `Tab.Sounds`: what the notes of one token are like.

## Main statements

- `Tab.length_keysAt_schedule`: each label of a token strikes a key or is skipped.
- `Tab.groupsFrom_pairwise`: tokens follow one another without overlap.
- `Tab.reading_accounts`: the accounts of a reading.
-/

namespace Lamella.Tab

variable {F : Type} {table : List Layout.Address}

/-! ## §1 One token -/

/-- The keys that a token strikes if it begins at a step. -/
def Token.keys (table : List Layout.Address) (step : Nat) (t : Token) : List (Int × Nat) :=
  keysAt table (t.schedule.map fun (label, later) => (label, step + later))

theorem Token.map_fst_schedule (t : Token) : t.schedule.map Prod.fst = t.labels := by
  cases hshape : t.shape <;> simp [Token.schedule, Token.labels, hshape, Function.comp_def]

/-- The labels of a token fall on the steps that it takes. -/
theorem Token.lt_width {t : Token} {entry : Text × Nat} (hentry : entry ∈ t.schedule) :
    entry.2 < t.width := by
  cases hshape : t.shape with
  | run labels =>
    simp only [Token.schedule, hshape] at hentry
    simpa [Token.width, hshape] using (List.mem_zipIdx hentry).2.1
  | rest => simp [Token.schedule, Token.labels, hshape] at hentry
  | unknown => simp [Token.schedule, Token.labels, hshape] at hentry
  | note label =>
    simp only [Token.schedule, hshape] at hentry
    obtain ⟨label, -, rfl⟩ := List.mem_map.mp hentry
    simp [Token.width, hshape]
  | chord labels invalid =>
    simp only [Token.schedule, hshape] at hentry
    obtain ⟨label, -, rfl⟩ := List.mem_map.mp hentry
    simp [Token.width, hshape]

theorem Token.mem_keys {t : Token} {step : Nat} {place : Int × Nat}
    (hplace : place ∈ t.keys table step) : step ≤ place.2 ∧ place.2 < step + t.width := by
  obtain ⟨entry, hentry, hkey⟩ := List.mem_filterMap.mp hplace
  obtain ⟨⟨label, later⟩, hlater, rfl⟩ := List.mem_map.mp hentry
  obtain ⟨key, -, rfl⟩ := Option.map_eq_some_iff.mp hkey
  have hless := t.lt_width hlater
  simp only at hless ⊢
  omega

/-- The keys of a token are those of its labels, in their order. -/
theorem Token.map_fst_keys (t : Token) (step : Nat) :
    (t.keys table step).map Prod.fst = t.labels.filterMap (Layout.resolveIn table) := by
  rw [← t.map_fst_schedule, Token.keys, keysAt, List.filterMap_map, List.map_filterMap,
    List.filterMap_map]
  congr 1
  funext entry
  simp [Function.comp_def]

/-- The labels of a run fall on steps one after another. -/
theorem Token.keys_pairwise {t : Token} {labels : List Text} (ht : t.shape = .run labels)
    (step : Nat) : (t.keys table step).Pairwise fun a b => a.2 < b.2 := by
  have hschedule : t.schedule.Pairwise fun a b => a.2 < b.2 := by
    have hindices : (labels.zipIdx.map Prod.snd).Pairwise (· < ·) := by
      rw [List.zipIdx_map_snd, ← List.range_eq_range']
      exact List.pairwise_lt_range
    rw [Token.schedule, ht]
    exact List.pairwise_map.mp hindices
  rw [Token.keys, keysAt, List.pairwise_filterMap, List.pairwise_map]
  refine hschedule.imp fun {a b} hless c hc d hd => ?_
  obtain ⟨-, -, rfl⟩ := Option.map_eq_some_iff.mp hc
  obtain ⟨-, -, rfl⟩ := Option.map_eq_some_iff.mp hd
  exact Nat.add_lt_add_left hless step

/-- The labels of all other tokens fall on their only step. -/
theorem Token.keys_together {t : Token} (ht : ∀ labels, t.shape ≠ .run labels) {step : Nat}
    {place : Int × Nat} (hplace : place ∈ t.keys table step) : place.2 = step := by
  have hwidth : t.width ≤ 1 := by
    cases hshape : t.shape with
    | run labels => exact absurd hshape (ht labels)
    | _ => simp [Token.width, hshape]
  have := Token.mem_keys hplace
  omega

/-- Each label of a token strikes a key or is skipped. -/
theorem length_keysAt_schedule (t : Token) (step : Nat) :
    (t.keys table step).length + (t.lost table).length = t.labels.length := by
  rw [← t.map_fst_schedule, List.length_map, Token.keys, keysAt, List.filterMap_map, Token.lost,
    List.length_filterMap_eq_countP, List.length_filterMap_eq_countP,
    List.length_eq_countP_add_countP fun entry => (Layout.resolveIn table entry.1).isSome]
  congr 1
  · refine List.countP_congr fun entry _ => ?_
    simp
  · refine List.countP_congr fun entry _ => ?_
    cases hkey : Layout.resolveIn table entry.1 <;> simp [hkey]

/-- What a token has beside its labels is skipped: members of a chord that are no notes, and the
token itself if it is nothing known. -/
theorem length_refused (t : Token) :
    t.refused.length = t.invalid.length + if t.shape = .unknown then 1 else 0 := by
  cases hshape : t.shape <;> simp [Token.refused, Token.invalid, hshape]

/-! ## §2 Tokens one after another -/

/-- The keys that tokens strike, the first of which begins at a step, those of each token
together. -/
def groupsFrom (table : List Layout.Address) (step : Nat) : List Token → List (List (Int × Nat))
  | [] => []
  | t :: rest => t.keys table step :: groupsFrom table (step + t.width) rest

theorem keysAt_placesFrom_cons (step : Nat) (t : Token) (ts : List Token) :
    keysAt table (placesFrom step (t :: ts)) =
      t.keys table step ++ keysAt table (placesFrom (step + t.width) ts) :=
  keysAt_append table _ _

theorem flatten_groupsFrom (step : Nat) (ts : List Token) :
    (groupsFrom table step ts).flatten = keysAt table (placesFrom step ts) := by
  induction ts generalizing step with
  | nil => rfl
  | cons t ts ih => rw [groupsFrom, List.flatten_cons, ih, keysAt_placesFrom_cons]

/-- Tokens fall on the steps that they take together. -/
theorem mem_keysAt_placesFrom {step : Nat} {ts : List Token} {place : Int × Nat}
    (hplace : place ∈ keysAt table (placesFrom step ts)) :
    step ≤ place.2 ∧ place.2 < step + widthOf ts := by
  induction ts generalizing step with
  | nil => cases hplace
  | cons t ts ih =>
    have hwidth : widthOf (t :: ts) = t.width + widthOf ts := by simp [widthOf]
    rw [keysAt_placesFrom_cons] at hplace
    rcases List.mem_append.mp hplace with hplace | hplace
    · have := Token.mem_keys hplace
      omega
    · have := ih hplace
      omega

/-- Tokens follow one another without overlap. -/
theorem groupsFrom_pairwise (step : Nat) (ts : List Token) :
    (groupsFrom table step ts).Pairwise fun early late => ∀ a ∈ early, ∀ b ∈ late, a.2 < b.2 := by
  induction ts generalizing step with
  | nil => exact .nil
  | cons t ts ih =>
    refine .cons (fun late hlate a ha b hb => ?_) (ih _)
    -- What comes after the token begins where its steps end
    have hb' : b ∈ keysAt table (placesFrom (step + t.width) ts) := by
      rw [← flatten_groupsFrom]
      exact List.mem_flatten_of_mem hlate hb
    exact (Token.mem_keys ha).2.trans_le (mem_keysAt_placesFrom hb').1

/-- The keys are struck in the order of their steps. -/
theorem keysAt_placesFrom_pairwise (step : Nat) (ts : List Token) :
    (keysAt table (placesFrom step ts)).Pairwise fun a b => a.2 ≤ b.2 := by
  -- Within a token the order is told by its shape, between two tokens by their steps
  rw [← flatten_groupsFrom, List.pairwise_flatten]
  refine ⟨fun keys hkeys => ?_, ?_⟩
  · induction ts generalizing step with
    | nil => cases hkeys
    | cons t ts ih =>
      rcases List.mem_cons.mp hkeys with rfl | hkeys
      · by_cases hrun : ∃ labels, t.shape = .run labels
        · obtain ⟨labels, ht⟩ := hrun
          exact (Token.keys_pairwise ht step).imp Nat.le_of_lt
        · have ht := not_exists.mp hrun
          refine List.pairwise_of_forall_mem_list fun a ha b hb => ?_
          rw [Token.keys_together ht ha, Token.keys_together ht hb]
      · exact ih _ hkeys
  · exact (groupsFrom_pairwise step ts).imp fun h a ha b hb => (h a ha b hb).le

/-! ## §3 The accounts of a reading -/

/-- What the notes of one token are like: a note for each label that leads to a key, in their order.
The notes of a run come one after another, those of any other token together. -/
structure Sounds (layout : Layout F) (t : Token) (notes : List (Note Rat)) : Prop where
  keys : notes.map Note.key = t.labels.filterMap layout.resolve
  run : ∀ labels, t.shape = .run labels → notes.Pairwise fun a b => a.time < b.time
  together : (∀ labels, t.shape ≠ .run labels) → ∀ a ∈ notes, ∀ b ∈ notes, a.time = b.time

variable (layout : Layout F) (g : Grid Rat)

/-- The note of a key on a step. -/
def noteAt (g : Grid Rat) (place : Int × Nat) : Note Rat := g.note place.1 place.2

theorem noteAt_lt {a b : Int × Nat} (h : a.2 < b.2) : (noteAt g a).time < (noteAt g b).time :=
  mul_lt_mul_of_pos_right (Int.cast_lt.mpr (Int.ofNat_lt.mpr h)) g.step_pos

theorem noteAt_le {a b : Int × Nat} (h : a.2 ≤ b.2) : (noteAt g a).time ≤ (noteAt g b).time :=
  mul_le_mul_of_nonneg_right (Int.cast_le.mpr (Int.ofNat_le.mpr h)) g.step_pos.le

theorem sounds_keys (step : Nat) (t : Token) :
    Sounds layout t ((t.keys layout.addresses step).map (noteAt g)) where
  keys := by
    rw [List.map_map]
    exact Token.map_fst_keys t step
  run labels ht := by
    rw [List.pairwise_map]
    exact (Token.keys_pairwise ht step).imp (noteAt_lt g)
  together ht := by
    refine List.forall_mem_map.mpr fun a ha => List.forall_mem_map.mpr fun b hb => ?_
    have hstep : a.2 = b.2 := (Token.keys_together ht ha).trans (Token.keys_together ht hb).symm
    exact le_antisymm (noteAt_le g hstep.le) (noteAt_le g hstep.ge)

theorem forall₂_sounds (step : Nat) (ts : List Token) :
    List.Forall₂ (Sounds layout) ts
      ((groupsFrom layout.addresses step ts).map (List.map (noteAt g))) := by
  induction ts generalizing step with
  | nil => exact .nil
  | cons t ts ih => exact .cons (sounds_keys layout g step t) (ih _)

/-- Labels strike keys or are skipped, and so is all that tokens have beside them. -/
theorem length_keysAt_placesFrom (step : Nat) (ts : List Token) :
    (keysAt table (placesFrom step ts)).length + (skippedIn table ts).length =
      (ts.map fun t => t.labels.length + t.invalid.length +
        if t.shape = .unknown then 1 else 0).sum := by
  induction ts generalizing step with
  | nil => rfl
  | cons t ts ih =>
    have hsplit : (skippedIn table (t :: ts)).length =
        (t.lost table).length + t.refused.length + (skippedIn table ts).length := by
      rw [skippedIn, List.flatMap_cons, List.length_append, List.length_append]
      rfl
    have hkeys : (t.keys table step).length + (t.lost table).length = t.labels.length :=
      length_keysAt_schedule t step
    have hrefused := length_refused t
    have hrest := ih (step + t.width)
    -- The balance of the first token is added to that of the others
    rw [keysAt_placesFrom_cons, List.length_append, hsplit, List.map_cons, List.sum_cons]
    omega

/-- **The accounts of a reading.** A text can always be read, and each label of its tokens, each
member of a chord that is no note and each token that is nothing known becomes one note or is
skipped once. The text takes the steps of its tokens: one for a rest, a note and a chord, one for
each label of a run, none for what is nothing known. Every note is one step long and begins with a
step of the text. The notes are those of one token after another: a chord sounds at one time, the
notes of a run one after another, and those of a token before those of the tokens after it; so they
come in the order of time. -/
theorem reading_accounts (text : Text) :
    ∃ (r : Reading Rat) (groups : List (List (Note Rat))), read layout g text = .ok r ∧
      r.notes.length + r.skipped.length = ((tokens text).map fun t =>
        t.labels.length + t.invalid.length + if t.shape = .unknown then 1 else 0).sum ∧
      r.steps = ((tokens text).map fun t =>
        match t.shape with
        | .rest | .note _ | .chord _ _ => 1
        | .run labels => labels.length
        | .unknown => 0).sum ∧
      (∀ n ∈ r.notes, n.duration = g.step ∧ ∃ i : Nat, i < r.steps ∧ n.time = i * g.step) ∧
      r.notes = groups.flatten ∧
      List.Forall₂ (Sounds layout) (tokens text) groups ∧
      groups.Pairwise (fun early late => ∀ a ∈ early, ∀ b ∈ late, a.time < b.time) ∧
      r.notes.Pairwise fun a b => a.time ≤ b.time := by
  have hread : read layout g text = .ok
      ⟨(strikes layout text).map (noteAt g), skips layout text, stepsOf text⟩ := by
    rw [read_outline, Except.mapM_eq_map fun place _ => g.strike_rat place]
    rfl
  refine ⟨_, (groupsFrom layout.addresses 0 (tokens text)).map (List.map (noteAt g)), hread, ?_, ?_,
    ?_, ?_, forall₂_sounds layout g 0 (tokens text), ?_, ?_⟩
  · rw [List.length_map]
    exact length_keysAt_placesFrom 0 (tokens text)
  · refine congrArg List.sum (List.map_congr_left fun t _ => ?_)
    cases hshape : t.shape <;> simp [Token.width, hshape]
  · intro n hn
    obtain ⟨place, hplace, rfl⟩ := List.mem_map.mp hn
    have hless := (mem_keysAt_placesFrom hplace).2
    rw [Nat.zero_add] at hless
    exact ⟨rfl, place.2, hless, rfl⟩
  · rw [← List.map_flatten, flatten_groupsFrom]
    rfl
  · rw [List.pairwise_map]
    refine (groupsFrom_pairwise 0 (tokens text)).imp fun h => ?_
    exact List.forall_mem_map.mpr fun a ha => List.forall_mem_map.mpr fun b hb =>
      noteAt_lt g (h a ha b hb)
  · rw [List.pairwise_map]
    exact (keysAt_placesFrom_pairwise 0 (tokens text)).imp (noteAt_le g)

end Lamella.Tab
