import Lamella.Proofs.Score.Halfway
import Lamella.Proofs.Session.Frames
import Lamella.Proofs.Song.Exported

/-!
# What sweeps reach

A sweep goes over the notes from the cursor on and stops at the first one that is still in the
window. So it reaches every note that has left the window only if the notes lie in the order of
their times, as making a song has put them, and if what the cursor has passed is judged. Both are
kept by every event, whether registrations go through or stop half-way: a note that is passed is
judged in either case.

## Main definitions

- `Song.Made`: a song that was made from some draft.
- `Session.Passes`: what passing some notes changes.
- `Session.Covered`: the notes before the cursor are judged.

## Main statements

- `Session.record_of_new`: how a judgment is recorded of a note that was not judged.
- `Session.sweepFrom_passes`: a sweep passes the notes that have left, unless it fails.
- `Session.covered_run`: every session that a run reaches is covered.
- `Session.Covered.tick_complete`: a tick that returns leaves no note unjudged that has left.
-/

namespace Lamella

/-! ## §1 Songs as they are made -/

/-- A song that was made from some draft. -/
def Song.Made {R : Type} [Scalar R] (song : Song R) : Prop :=
  ∃ (d : Song.Draft R) (j j' : Journal), (Song.make d).Gives j song j'

namespace Song.Made

theorem identifying {R : Type} [Scalar R] {song : Song R} (h : song.Made) :
    ∀ n ∈ song.notes, Song.isIdentifying n.id = true := by
  obtain ⟨d, j, j', hmake⟩ := h
  obtain ⟨-, -, -, -, -, k, k', -, -, hown⟩ := made_of_draft hmake
  obtain ⟨repeated, l, -, hadopt⟩ := adopt_of_own hown
  exact identifying_of_owned hadopt

/-- Exact times are in order, however the draft had them. -/
theorem inOrder {song : Song Rat} (h : song.Made) : song.InOrder := by
  obtain ⟨d, j, j', hmake⟩ := h
  obtain ⟨-, -, -, -, -, k, k', -, -, hown⟩ := made_of_draft hmake
  exact order_of_own hown fun n _ => le_refl n.time

/-- Owned notes are the notes of a song that is made. -/
theorem of_owned {R : Type} [Scalar R] {notes : List (Note R)} (h : Song.Owned notes)
    (htempo : ¬ (Scalar.ofInt 100 : R) ≤ Scalar.ofInt 0) :
    ∃ song : Song R, song.Made ∧ song.notes = notes := by
  let d : Song.Draft R := { title := "Song", notes := notes, tempo := .whole 100, id := some "song" }
  have hgives := Song.make_of_owned (d := d) {} rfl htempo rfl (Difficulty.ofValue_text .medium) h
  exact ⟨_, ⟨d, _, _, hgives⟩, rfl⟩

end Song.Made

namespace Session

/-! ## §2 Recording a judgment -/

section Recording

variable {F R : Type} [Scalar R] {s : Session F R}

theorem record_keeper (hit : Hit F R) (s : Session F R) :
    (s.record hit).2.keeper = (s.keeper.register hit.note hit.tier).2 := by
  unfold record
  split <;> rename_i heq <;> rw [heq]

/-- The judgment of a note that was not judged is kept, unless its registration fails. -/
theorem record_of_new (hopen : s.keeper.frozen = false) (hit : Hit F R)
    (hid : Song.isIdentifying hit.note = true) (hnew : s.keeper.isJudged hit.note = false) :
    let keeper := (s.keeper.register hit.note hit.tier).2
    (∃ fault, s.record hit = (.error fault, { s with keeper })) ∨
      s.record hit = (.ok (), { s with keeper, hits := s.hits ++ [hit] }) := by
  intro keeper
  rcases Keeper.register_stages hopen hid hnew hit.tier with
    ⟨fault, -, hregister⟩ | ⟨points, fault, -, -, hregister⟩ | ⟨points, percent, -, -, hregister⟩
  · refine .inl ⟨fault, ?_⟩
    simp only [record, keeper, hregister]
  · refine .inl ⟨fault, ?_⟩
    simp only [record, keeper, hregister]
  · right
    simp only [record, keeper, hregister]

end Recording

variable {F R : Type} [Analytic F] [Scalar R] {c : Setup F R} {s t u : Session F R}

/-- Judging forgets no judged note. -/
theorem isJudged_judge_of {x : Value R} (h : s.keeper.isJudged x = true) (c : Setup F R)
    (pitch : HeardPitch F) : (s.judge c pitch).2.keeper.isJudged x = true := by
  unfold judge
  split
  · exact h
  · split
    · exact h
    · exact h
    · rename_i hit _
      have hrecorded : (s.record hit).2.keeper.isJudged x = true := by
        rw [record_keeper]
        exact Keeper.isJudged_register_of h hit.note hit.tier
      split <;> rename_i heq <;> rw [heq] at hrecorded <;> exact hrecorded

theorem isJudged_readSlot_of {x : Value R} (h : s.keeper.isJudged x = true) (c : Setup F R) :
    (s.readSlot c).2.keeper.isJudged x = true := by
  unfold readSlot
  split
  · exact h
  · dsimp only
    split
    · exact h
    · exact isJudged_judge_of (s := { s with seen := s.slot.version }) h c _

/-! ## §3 Passing notes -/

/-- One session comes from another by passing some notes at a song time: the cursor has moved over
them, they are judged besides those before, and the hits that were added are misses of them. -/
structure Passes (now : R) (passed : List (Note R)) (s t : Session F R) : Prop where
  missIndex : t.missIndex = s.missIndex + passed.length
  judged : ∀ x, t.keeper.isJudged x =
    (s.keeper.isJudged x || passed.any fun n => Song.sameId x n.id)
  hits : ∃ marked : List (Note R), marked.Sublist passed ∧ t.hits = s.hits ++ marked.map (missed now)

namespace Passes

variable {now : R} {xs ys : List (Note R)}

theorem refl (now : R) (s : Session F R) : Passes now [] s s :=
  ⟨rfl, fun x => by simp, [], List.Sublist.refl _, by simp⟩

theorem trans (hst : Passes now xs s t) (htu : Passes now ys t u) :
    Passes now (xs ++ ys) s u where
  missIndex := by
    rw [htu.missIndex, hst.missIndex, List.length_append]
    omega
  judged x := by
    rw [htu.judged, hst.judged, List.any_append, Bool.or_assoc]
  hits := by
    obtain ⟨xs', hxs, hhits⟩ := hst.hits
    obtain ⟨ys', hys, hhits'⟩ := htu.hits
    refine ⟨xs' ++ ys', hxs.append hys, ?_⟩
    rw [hhits', hhits, List.map_append, List.append_assoc]

/-- Whatever was judged stays judged. -/
theorem judged_of (h : Passes now xs s t) {x : Value R} (hx : s.keeper.isJudged x = true) :
    t.keeper.isJudged x = true := by rw [h.judged, hx, Bool.true_or]

/-- The notes that were passed are judged. -/
theorem judged_passed (h : Passes now xs s t) (hids : ∀ n ∈ xs, Song.isIdentifying n.id = true)
    {n : Note R} (hn : n ∈ xs) : t.keeper.isJudged n.id = true := by
  have hsame : (xs.any fun m => Song.sameId n.id m.id) = true :=
    List.any_eq_true.mpr ⟨n, hn, by rw [Song.sameId_self]; exact hids n hn⟩
  rw [h.judged, hsame, Bool.or_true]

/-- A note that was judged before is passed. -/
theorem of_judged {n : Note R} (hjudged : s.keeper.isJudged n.id = true) :
    Passes now [n] s s.passed where
  missIndex := rfl
  judged x := by
    show s.keeper.isJudged x = _
    cases hsame : Song.sameId x n.id with
    | true => simp [hsame, Keeper.isJudged_congr hsame, hjudged]
    | false => simp [hsame]
  hits := ⟨[], List.nil_sublist _, by simp [passed]⟩

/-- A note is passed by registering it as missed, even if that stops half-way. -/
theorem of_register {n : Note R} (hopen : s.keeper.frozen = false)
    (hid : Song.isIdentifying n.id = true) (hkeeper : t.keeper = (s.keeper.register n.id .miss).2)
    (hindex : t.missIndex = s.missIndex + 1)
    (hhits : t.hits = s.hits ∨ t.hits = s.hits ++ [missed now n]) : Passes now [n] s t where
  missIndex := hindex
  judged x := by
    rw [hkeeper, Keeper.isJudged_register hopen hid, List.any_cons, List.any_nil, Bool.or_false]
    exact Bool.or_comm ..
  hits := by
    rcases hhits with hhits | hhits
    · exact ⟨[], List.nil_sublist _, by simp [hhits]⟩
    · exact ⟨[n], List.Sublist.refl _, hhits⟩

end Passes

/-- **What a sweep passes**: the first of the notes ahead, as far as they have left the window. It
passes all of these, and returns the hits that it added, unless it fails. -/
theorem sweepFrom_passes (c : Setup F R) (now : R) {rest : List (Note R)}
    (hopen : s.keeper.frozen = false) (hids : ∀ n ∈ rest, Song.isIdentifying n.id = true) :
    ∃ passed, passed <+: leaving c now rest ∧ Passes now passed s (sweepFrom c now rest s).2 ∧
      ∀ hits, (sweepFrom c now rest s).1 = .ok hits →
        passed = leaving c now rest ∧ (sweepFrom c now rest s).2.hits = s.hits ++ hits := by
  -- The induction is on the notes ahead, for every session that they may be swept in
  induction rest generalizing s with
  | nil =>
    refine ⟨[], List.nil_prefix, .refl now s, fun hits hhits => ⟨rfl, ?_⟩⟩
    cases hhits
    exact (List.append_nil _).symm
  | cons n rest ih =>
    have hids' : ∀ m ∈ rest, Song.isIdentifying m.id = true :=
      fun m hm => hids m (List.mem_cons_of_mem n hm)
    cases hleft : hasLeft c now n with
    | false =>
      rw [sweepFrom_of_staying rest hleft]
      refine ⟨[], List.nil_prefix, .refl now s, fun hits hhits => ⟨?_, ?_⟩⟩
      · simp [leaving, hleft]
      · cases hhits
        exact (List.append_nil _).symm
    | true =>
      have hmore : leaving c now (n :: rest) = n :: leaving c now rest := by simp [leaving, hleft]
      rw [hmore]
      cases hjudged : s.keeper.isJudged n.id with
      | true =>
        -- A judged note is passed without a registration
        obtain ⟨passed, hreach, hpasses, hreturns⟩ := ih (s := s.passed) hopen hids'
        rw [sweepFrom_of_judged rest hleft hjudged]
        refine ⟨n :: passed, List.cons_prefix_cons.mpr ⟨rfl, hreach⟩,
          (Passes.of_judged hjudged).trans hpasses, fun hits hhits => ?_⟩
        obtain ⟨rfl, hadded⟩ := hreturns hits hhits
        exact ⟨rfl, hadded⟩
      | false =>
        have hid := hids n List.mem_cons_self
        rcases record_of_new (s := s.passed) hopen (missed now n) hid hjudged with
          ⟨fault, hrecord⟩ | hrecord
        · -- The sweep ends here, and has passed the note on its way
          rw [sweepFrom_of_refused rest hleft hjudged hrecord]
          refine ⟨[n], List.cons_prefix_cons.mpr ⟨rfl, List.nil_prefix⟩,
            .of_register hopen hid rfl rfl (.inl rfl), fun hits hhits => ?_⟩
          cases hhits
        · rw [sweepFrom_of_recorded rest hleft hjudged hrecord]
          generalize ht : ({ s.passed with
            keeper := (s.passed.keeper.register (missed now n : Hit F R).note
              (missed now n : Hit F R).tier).2
            hits := s.passed.hits ++ [missed now n] } : Session F R) = t
          have hfirst : Passes now [n] s t := by
            subst ht
            exact .of_register hopen hid rfl rfl (.inr rfl)
          have hopen' : t.keeper.frozen = false := by
            subst ht
            exact (Keeper.register_frame ..).2.trans hopen
          have hhits' : t.hits = s.hits ++ [missed now n] := by
            subst ht
            rfl
          obtain ⟨passed, hreach, hpasses, hreturns⟩ := ih hopen' hids'
          refine ⟨n :: passed, List.cons_prefix_cons.mpr ⟨rfl, hreach⟩, hfirst.trans hpasses,
            fun hits hhits => ?_⟩
          cases hresult : (sweepFrom c now rest t).1 with
          | error fault =>
            rw [hresult] at hhits
            cases hhits
          | ok later =>
            rw [hresult] at hhits
            cases hhits
            obtain ⟨rfl, hadded⟩ := hreturns later hresult
            refine ⟨rfl, ?_⟩
            rw [hadded, hhits', List.append_assoc]
            rfl

/-- What a sweep returns are misses of notes that have left the window, also where the score is
frozen and none of them is judged. -/
theorem sweepFrom_returns {now : R} {rest : List (Note R)} {hits : List (Hit F R)}
    (hreturns : (sweepFrom c now rest s).1 = .ok hits) :
    ∃ marked : List (Note R), marked.Sublist (leaving c now rest) ∧ hits = marked.map (missed now) := by
  induction rest generalizing s hits with
  | nil =>
    cases hreturns
    exact ⟨[], List.nil_sublist _, rfl⟩
  | cons n rest ih =>
    cases hleft : hasLeft c now n with
    | false =>
      rw [sweepFrom_of_staying rest hleft] at hreturns
      cases hreturns
      exact ⟨[], List.nil_sublist _, rfl⟩
    | true =>
      have hmore : leaving c now (n :: rest) = n :: leaving c now rest := by simp [leaving, hleft]
      rw [hmore]
      cases hjudged : s.keeper.isJudged n.id with
      | true =>
        rw [sweepFrom_of_judged rest hleft hjudged] at hreturns
        obtain ⟨marked, hsublist, hhits⟩ := ih hreturns
        exact ⟨marked, hsublist.cons n, hhits⟩
      | false =>
        rcases hrecord : s.passed.record (missed now n) with ⟨fault | done, t⟩
        · rw [sweepFrom_of_refused rest hleft hjudged hrecord] at hreturns
          cases hreturns
        · rw [sweepFrom_of_recorded rest hleft hjudged hrecord] at hreturns
          cases hresult : (sweepFrom c now rest t).1 with
          | error fault =>
            rw [hresult] at hreturns
            cases hreturns
          | ok later =>
            rw [hresult] at hreturns
            cases hreturns
            obtain ⟨marked, hsublist, rfl⟩ := ih hresult
            exact ⟨n :: marked, hsublist.cons_cons n, rfl⟩

/-! ## §4 Covered sessions -/

/-- A session whose notes have usable ids, and in which the notes before the cursor are judged as
long as the score changes. -/
structure Covered (s : Session F R) : Prop where
  identifying : ∀ n ∈ s.notes, Song.isIdentifying n.id = true
  swept : s.keeper.frozen = false → ∀ n ∈ s.notes.take s.missIndex, s.keeper.isJudged n.id = true

namespace Covered

theorem fresh (c : Setup F R) : (Session.fresh c).Covered where
  identifying n hn := by cases hn
  swept _ n hn := by cases hn

omit [Analytic F] in
/-- What leaves the course and the cursor alone and forgets no judged note keeps a session covered.
-/
theorem of_sameCourse (hs : s.Covered) (h : s.SameCourse t) (hindex : t.missIndex = s.missIndex)
    (hjudged : ∀ x, s.keeper.isJudged x = true → t.keeper.isJudged x = true) : t.Covered where
  identifying := by
    rw [h.notes]
    exact hs.identifying
  swept hopen n hn := by
    rw [h.notes, hindex] at hn
    exact hjudged n.id (hs.swept (h.frozen.symm.trans hopen) n hn)

omit [Analytic F] in
theorem of_sameScore (hs : s.Covered) (h : s.SameScore t) : t.Covered where
  identifying := by
    rw [h.notes]
    exact hs.identifying
  swept hopen n hn := by
    rw [h.notes, h.missIndex] at hn
    rw [h.isJudged]
    exact hs.swept (h.open_of hopen) n hn

theorem judge (hs : s.Covered) (c : Setup F R) (pitch : HeardPitch F) :
    (s.judge c pitch).2.Covered :=
  hs.of_sameCourse (judge_sameCourse c pitch s) (judge_missIndex c pitch s)
    fun _ hx => isJudged_judge_of hx c pitch

theorem readSlot (hs : s.Covered) (c : Setup F R) : (s.readSlot c).2.Covered :=
  hs.of_sameCourse (readSlot_sameCourse c s) (readSlot_missIndex c s)
    fun _ hx => isJudged_readSlot_of hx c

/-- What the sweep of a covered session passes. -/
theorem sweep_passes (hs : s.Covered) (hopen : s.keeper.frozen = false) (c : Setup F R) :
    ∃ passed, passed <+: leaving c (s.inputTime c) (s.notes.drop s.missIndex) ∧
      Passes (s.inputTime c) passed s (s.sweep c).2 ∧
      ∀ hits, (s.sweep c).1 = .ok hits →
        passed = leaving c (s.inputTime c) (s.notes.drop s.missIndex) ∧
          (s.sweep c).2.hits = s.hits ++ hits :=
  sweepFrom_passes c (s.inputTime c) hopen fun n hn => hs.identifying n (List.mem_of_mem_drop hn)

theorem sweep (hs : s.Covered) (c : Setup F R) : (s.sweep c).2.Covered := by
  have hcourse := sweep_sameCourse c s
  refine ⟨by rw [hcourse.notes]; exact hs.identifying, fun hopen n hn => ?_⟩
  obtain ⟨passed, hreach, hpasses, -⟩ := hs.sweep_passes (hcourse.frozen.symm.trans hopen) c
  have hahead : passed <+: s.notes.drop s.missIndex := hreach.trans (List.takeWhile_prefix _)
  -- The notes before the cursor are those that were before it, and those that were passed
  rw [hcourse.notes, hpasses.missIndex, List.take_add, ← List.prefix_iff_eq_take.mp hahead] at hn
  rcases List.mem_append.mp hn with hbefore | hpassed
  · exact hpasses.judged_of (hs.swept (hcourse.frozen.symm.trans hopen) n hbefore)
  · refine hpasses.judged_passed (fun m hm => hs.identifying m ?_) hpassed
    exact List.mem_of_mem_drop (hahead.subset hm)

theorem tick (hs : s.Covered) (c : Setup F R) (now : R) : (s.tick c now).2.Covered := by
  rcases s.active_or_idle with ⟨song, hactive, hsong⟩ | hidle
  · have hheard := (hs.of_sameScore (moved_sameScore c now s)).readSlot c
    have hswept := hheard.sweep c
    rcases tick_cases (c := c) now hactive hsong with
      ⟨_, -, htick⟩ | ⟨_, _, -, -, htick⟩ | ⟨_, _, _, -, -, -, htick⟩ | ⟨_, _, -, -, -, htick⟩ |
        ⟨_, _, -, -, -, htick⟩ <;> rw [htick]
    · exact hheard
    · exact hswept
    · exact hswept
    · exact hswept
    · exact hswept.of_sameScore (finish_sameScore _)
  · rw [tick_of_idle now hidle]
    exact hs

/-- Every event keeps a session covered, if the ids of the songs that it starts are usable. -/
theorem after (hs : s.Covered) {e : R × Event F R}
    (hstart : ∀ song, e.2 = .start song → ∀ n ∈ song.notes, Song.isIdentifying n.id = true) :
    (s.after c e).Covered := by
  obtain ⟨now, e⟩ := e
  cases e with
  | start song => exact ⟨hstart song rfl, fun _ n hn => by cases hn⟩
  | tick => exact hs.tick c now
  | pause => exact hs.of_sameScore (pause_sameScore now s)
  | resume => exact hs.of_sameScore (resume_sameScore now s)
  | finish => exact hs.of_sameScore (finish_sameScore s)
  | reset => exact ⟨fun n hn => (by cases hn), fun _ n hn => by cases hn⟩
  | judge pitch => exact hs.judge c pitch
  | sweep => exact hs.sweep c
  | hear pitch => exact hs.of_sameScore (hear_sameScore pitch s)

end Covered

/-- **Every session that a run reaches is covered**, if the ids of its songs are usable. -/
theorem covered_run {events : List (R × Event F R)}
    (hids : ∀ now song, (now, Event.start song) ∈ events →
      ∀ n ∈ song.notes, Song.isIdentifying n.id = true) :
    ((fresh c).run c events).Covered := by
  -- The induction is on the events, for every covered session that a run may begin with
  have hrun : ∀ s : Session F R, s.Covered → (s.run c events).Covered := by
    induction events with
    | nil => exact fun s hs => hs
    | cons e rest ih =>
      intro s hs
      refine ih (fun now song hmem => hids now song (List.mem_cons_of_mem _ hmem)) _ ?_
      refine hs.after fun song he => hids e.1 song ?_
      rw [← he]
      exact List.mem_cons_self
  exact hrun _ (.fresh c)

/-! ## §5 Ticks that return -/

/-- A tick that returns has read the slot and swept, and the sweep leaves the score that the tick
does. -/
theorem tick_of_returns {song : Song R} {now : R} {hits : List (Hit F R)}
    (hactive : s.phase.isActive = true) (hsong : s.song = some song)
    (hreturns : (s.tick c now).1 = .ok hits) :
    let u := ((s.moved c now).readSlot c).2
    ∃ hit misses, ((s.moved c now).readSlot c).1 = .ok hit ∧ (u.sweep c).1 = .ok misses ∧
      hits = hit.toList ++ misses ∧ (u.sweep c).2.SameScore (s.tick c now).2 := by
  intro u
  rcases tick_cases (c := c) now hactive hsong with
    ⟨_, -, htick⟩ | ⟨_, _, -, -, htick⟩ | ⟨_, _, _, -, -, -, htick⟩ |
      ⟨hit, misses, hhit, hmisses, -, htick⟩ | ⟨hit, misses, hhit, hmisses, -, htick⟩
  iterate 3
    · rw [htick] at hreturns
      cases hreturns
  · rw [htick] at hreturns ⊢
    exact ⟨hit, misses, hhit, hmisses, (Except.ok.inj hreturns).symm, rfl, rfl, rfl, rfl, id⟩
  · rw [htick] at hreturns ⊢
    exact ⟨hit, misses, hhit, hmisses, (Except.ok.inj hreturns).symm, finish_sameScore _⟩

/-- The session that a tick sweeps is on the course of the moved one. -/
theorem inputTime_of_read (c : Setup F R) (now : R) (s : Session F R) :
    ((s.moved c now).readSlot c).2.inputTime c = s.heardAt c now := by
  rw [inputTime, (readSlot_sameCourse c (s.moved c now)).progress]
  rfl

theorem inputTime_tick {song : Song R} (now : R) (hactive : s.phase.isActive = true)
    (hsong : s.song = some song) : (s.tick c now).2.inputTime c = s.heardAt c now := by
  rw [inputTime, (tick_advanced (c := c) now hactive hsong).progress, heardAt]

/-- **A tick that returns leaves nothing behind**: afterwards every note that has left the window is
judged, and so is every note before the cursor. -/
theorem Covered.tick_complete [Scalar.Orderly R] (hs : s.Covered) (hsteady : s.Steady)
    (horder : s.notes.Pairwise fun m n => m.time ≤ n.time) (hactive : s.phase.isActive = true)
    {now : R} {hits : List (Hit F R)} (hreturns : (s.tick c now).1 = .ok hits) :
    let t := (s.tick c now).2
    (∀ n ∈ t.notes, hasLeft c (t.inputTime c) n = true → t.keeper.isJudged n.id = true) ∧
      ∀ n ∈ t.notes.take t.missIndex, t.keeper.isJudged n.id = true := by
  intro t
  obtain ⟨hsome, hopen⟩ := hsteady.of_active hactive
  obtain ⟨song, hsong⟩ := Option.ne_none_iff_exists'.mp hsome
  obtain ⟨hit, misses, -, hmisses, -, hscore⟩ := tick_of_returns hactive hsong hreturns
  have hcourse := readSlot_sameCourse c (s.moved c now)
  have htime := inputTime_of_read c now s
  have hu := (hs.of_sameScore (moved_sameScore c now s)).readSlot c
  have hnotes : ((s.moved c now).readSlot c).2.notes = s.notes := hcourse.notes
  have huopen : ((s.moved c now).readSlot c).2.keeper.frozen = false := hcourse.frozen.trans hopen
  -- From here on only the session that is swept matters
  generalize ((s.moved c now).readSlot c).2 = u at *
  have hswept := sweep_sameCourse c u
  obtain ⟨passed, -, hpasses, hall⟩ := hu.sweep_passes huopen c
  obtain ⟨rfl, -⟩ := hall misses hmisses
  have hnotes' : t.notes = u.notes := hscore.notes.trans hswept.notes
  have hinput : t.inputTime c = u.inputTime c := (inputTime_tick now hactive hsong).trans htime.symm
  rw [hnotes', hinput, hscore.missIndex]
  simp only [t, hscore.isJudged]
  refine ⟨fun n hn hleft => ?_, fun n hn => ?_⟩
  · rw [← List.take_append_drop u.missIndex u.notes] at hn
    rcases List.mem_append.mp hn with hbefore | hbehind
    · exact hpasses.judged_of (hu.swept huopen n hbefore)
    · -- Behind the cursor the sweep has passed all that have left, since they come first
      have horder' := (hnotes ▸ horder).sublist (List.drop_sublist u.missIndex u.notes)
      refine hpasses.judged_passed (fun m hm => hu.identifying m ?_) ?_
      · exact List.mem_of_mem_drop ((List.takeWhile_sublist _).subset hm)
      · rw [leaving, Order.takeWhile_eq_filter (hasLeft_front horder')]
        exact List.mem_filter.mpr ⟨hbehind, hleft⟩
  · refine (hu.sweep c).swept (hswept.frozen.trans huopen) n ?_
    rw [hswept.notes]
    exact hn

end Session

end Lamella
