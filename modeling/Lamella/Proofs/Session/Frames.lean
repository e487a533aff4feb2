import Lamella.Proofs.Session.Lapsing

/-!
# Frames

Ticks may come at any rate. Whether more of them change what is scored is asked here of two runs:
the second has the events of the first and more ticks between them.

A tick between the events can only sweep, since every estimate is read by a tick of both runs. What
it sweeps the first run sweeps later, at its next tick, so that the second run is ahead of the first
by some notes that have lapsed. These notes have left the hit window for good, so that no estimate
hits them in the meantime. But an estimate that hits another note in the meantime is written before
their misses in the first run and after them in the second.

## Main definitions

- `Session.Inserted`: one run has the events of another and more ticks.
- `Session.Along`: something holds along a run.

## Main statements

- `Session.Ahead.run`: the run with more ticks stays ahead of the other.
- `Session.frames_agree`: both runs end with the same judgments, up to their order.
-/

namespace Lamella.Session

variable {F R : Type} [Analytic F] [Scalar R] {c : Setup F R} {s t : Session F R}

/-! ## §1 More ticks -/

namespace Event

/-- Whether more ticks may come right before and after an event. -/
def standsAlone : Event F R → Bool
  | .start _ | .pause | .resume | .reset | .sweep => true
  | _ => false

/-- Whether an event looks at the song time of the last tick: it judges an estimate then, or keeps
the score from changing any more. -/
def closesFrame : Event F R → Bool
  | .finish | .judge _ => true
  | _ => false

end Event

/-- The second of two runs has the events of the first, and more ticks between them. An estimate is
followed at once by a tick of both, and events that close a frame follow a tick of both at once;
the flag tells whether such a tick, and no other event since, comes right before the two runs. -/
inductive Inserted : Bool → List (R × Event F R) → List (R × Event F R) → Prop where
  | nil (ticked : Bool) : Inserted ticked [] []
  | extra {ticked : Bool} {xs ys : List (R × Event F R)} (now : R) :
      Inserted false xs ys → Inserted ticked xs ((now, .tick) :: ys)
  | tick {ticked : Bool} {xs ys : List (R × Event F R)} (now : R) :
      Inserted true xs ys → Inserted ticked ((now, .tick) :: xs) ((now, .tick) :: ys)
  | heard {ticked : Bool} {xs ys : List (R × Event F R)} (written now : R)
      (pitch : Option (HeardPitch F)) : Inserted true xs ys →
      Inserted ticked ((written, .hear pitch) :: (now, .tick) :: xs)
        ((written, .hear pitch) :: (now, .tick) :: ys)
  | alone {ticked : Bool} {xs ys : List (R × Event F R)} {e : R × Event F R} :
      e.2.standsAlone = true → Inserted false xs ys → Inserted ticked (e :: xs) (e :: ys)
  | close {xs ys : List (R × Event F R)} {e : R × Event F R} :
      e.2.closesFrame = true → Inserted true xs ys → Inserted true (e :: xs) (e :: ys)

/-! ## §2 Along a run -/

/-- Something holds of each event of a run and of the session that it meets. -/
def Along (c : Setup F R) (P : Session F R → R × Event F R → Prop) :
    Session F R → List (R × Event F R) → Prop
  | _, [] => True
  | s, e :: rest => P s e ∧ Along c P (s.after c e) rest

theorem along_append {P : Session F R → R × Event F R → Prop} (front back : List (R × Event F R)) :
    Along c P s (front ++ back) ↔ Along c P s front ∧ Along c P (s.run c front) back := by
  induction front generalizing s with
  | nil => simp [Along]
  | cons e rest ih => simp [Along, ih, and_assoc]

/-- An event that closes a frame meets a session that is caught up. -/
def Closes (c : Setup F R) (s : Session F R) (e : R × Event F R) : Prop :=
  e.2.closesFrame = true → CaughtUp c s

/-! ## §3 Runs -/

variable [Scalar.Orderly R]

namespace Ahead

variable {unmixed : Prop} {past now : R} {lapsed : List (Note R)}

/-- An event that stands alone, in both. -/
theorem alone (h : Ahead c unmixed past lapsed s t) (hgains : c.scoring.Gains)
    {e : R × Event F R} (halone : e.2.standsAlone = true) (hpast : past ≤ e.1)
    (hstarted : ∀ song, e.2 = .start song → c.Plays song ∧ song.InOrder ∧ song.Outlasts c)
    (hfirm : Firm c s e) : ∃ lapsed', Ahead c unmixed e.1 lapsed' (s.after c e) (t.after c e) := by
  obtain ⟨now, e⟩ := e
  cases e with
  | start song =>
    obtain ⟨hplays, hfits⟩ := hstarted song rfl
    exact ⟨[], h.start hgains hplays hfits hfirm⟩
  | pause => exact ⟨lapsed, h.pause hpast⟩
  | resume => exact ⟨lapsed, h.resume hpast hfirm⟩
  | reset => exact ⟨[], h.reset hgains⟩
  | sweep => exact (h.later hpast).sweep hgains
  | tick | finish | judge | hear => cases halone

/-- An event that closes a frame right after a tick of both. -/
theorem close (h : Ahead c unmixed past lapsed s t) (hgains : c.scoring.Gains)
    (hsynced : Synced c lapsed s t) {e : R × Event F R} (hcloses : e.2.closesFrame = true)
    (hcaught : CaughtUp c s) :
    Ahead c unmixed past [] (s.after c e) (t.after c e) ∧
      Synced c [] (s.after c e) (t.after c e) := by
  obtain rfl := h.nil_of_caughtUp hsynced hcaught
  obtain ⟨now, e⟩ := e
  cases e with
  | finish =>
    refine ⟨h.finish, fun hactive => ?_⟩
    -- What is finished or idle is not active
    have hafter : s.after c (now, .finish) = s.finish := rfl
    rw [hafter] at hactive
    by_cases hidle : s.phase = .idle
    · unfold Session.finish at hactive
      rw [if_pos hidle, hidle] at hactive
      cases hactive
    · rw [finish_phase hidle] at hactive
      cases hactive
  | judge pitch =>
    refine ⟨h.judge hgains hsynced pitch, fun hactive => ⟨nofun, fun hactive' => ?_⟩⟩
    have hs := judge_sameCourse c pitch s
    have ht := judge_sameCourse c pitch t
    have htime := (hsynced (hs.phase ▸ hactive)).2 (ht.phase ▸ hactive')
    show (t.judge c pitch).2.inputTime c = (s.judge c pitch).2.inputTime c
    unfold inputTime at htime ⊢
    rw [ht.progress, hs.progress, htime]
  | start | tick | pause | resume | reset | sweep | hear => cases hcloses

/-- **The run with more ticks stays ahead of the other.** -/
theorem run (hgains : c.scoring.Gains) {ticked : Bool} {xs ys : List (R × Event F R)}
    (hinserted : Inserted ticked xs ys) {last : R} (h : Ahead c unmixed past lapsed s t)
    (hread : HasRead t) (hsynced : ticked = true → Synced c lapsed s t)
    (hclock : (past :: (ys.map Prod.fst ++ [last])).Pairwise (· ≤ ·))
    (hstarted : ∀ now song, (now, Event.start song) ∈ xs →
      c.Plays song ∧ song.InOrder ∧ song.Outlasts c)
    (hfirm : Along c (Firm c) s xs) (hcloses : Along c (Closes c) s xs)
    (hunmixed : unmixed → Along c (Unmixed c) s xs) :
    ∃ now lapsed', now ≤ last ∧ Ahead c unmixed now lapsed' (s.run c xs) (t.run c ys) := by
  induction hinserted generalizing past lapsed s t with
  | nil ticked =>
    exact ⟨past, lapsed, (List.pairwise_cons.mp hclock).1 last (by simp), h⟩
  | @extra ticked xs ys now _ ih =>
    -- The first stays where it is, and the second gets further ahead
    obtain ⟨hpast, hclock'⟩ := List.pairwise_cons.mp hclock
    obtain ⟨lapsed', hahead⟩ := h.extra hgains (hpast now (by simp)) hread
    exact ih hahead (hasRead_tick h.sound'.steady c now) nofun hclock' hstarted hfirm hcloses
      hunmixed
  | @tick ticked xs ys now _ ih =>
    obtain ⟨hpast, hclock'⟩ := List.pairwise_cons.mp hclock
    obtain ⟨lapsed', hahead, hsynced'⟩ := h.tick hgains (hpast now (by simp)) hfirm.1
      fun hu => (hunmixed hu).1
    exact ih hahead (hasRead_tick h.sound'.steady c now) (fun _ => hsynced') hclock'
      (fun started song hmem => hstarted started song (List.mem_cons_of_mem _ hmem)) hfirm.2
      hcloses.2 fun hu => (hunmixed hu).2
  | @heard ticked xs ys written now pitch _ ih =>
    -- The estimate is read by the tick that follows it
    obtain ⟨hpast, hclock'⟩ := List.pairwise_cons.mp hclock
    have hheard := h.hear pitch
    obtain ⟨lapsed', hahead, hsynced'⟩ := hheard.tick hgains (hpast now (by simp)) hfirm.2.1
      fun hu => (hunmixed hu).2.1
    refine ih hahead (hasRead_tick hheard.sound'.steady c now) (fun _ => hsynced')
      (List.pairwise_cons.mp hclock').2 (fun started song hmem => ?_) hfirm.2.2 hcloses.2.2
      fun hu => (hunmixed hu).2.2
    exact hstarted started song (List.mem_cons_of_mem _ (List.mem_cons_of_mem _ hmem))
  | @alone ticked xs ys e halone _ ih =>
    obtain ⟨hpast, hclock'⟩ := List.pairwise_cons.mp hclock
    obtain ⟨lapsed', hahead⟩ := h.alone hgains halone (hpast e.1 (by simp))
      (fun song he => hstarted e.1 song (by rw [← he]; exact List.mem_cons_self)) hfirm.1
    refine ih hahead (hread.after h.sound'.steady fun pitch he => ?_) nofun hclock'
      (fun started song hmem => hstarted started song (List.mem_cons_of_mem _ hmem)) hfirm.2
      hcloses.2 fun hu => (hunmixed hu).2
    rw [he] at halone
    cases halone
  | @close xs ys e hclose _ ih =>
    -- The flag says that a tick came right before, which let the first catch up
    obtain ⟨hahead, hsynced'⟩ := h.close hgains (hsynced rfl) hclose (hcloses.1 hclose)
    refine ih hahead (hread.after h.sound'.steady fun pitch he => ?_) (fun _ => hsynced') ?_
      (fun started song hmem => hstarted started song (List.mem_cons_of_mem _ hmem)) hfirm.2
      hcloses.2 fun hu => (hunmixed hu).2
    · rw [he] at hclose
      cases hclose
    · exact hclock.sublist (List.cons_sublist_cons.mpr (List.sublist_cons_self ..))

end Ahead

/-- **More ticks leave the judgments as they are, up to their order.** Take a run that starts a song
and ends with a tick, and another with more ticks between its events, while the clock never goes
back. If the songs can be played and outlast their notes, rounding does no harm, and the first run
is caught up at its end and wherever an event closes a frame, then both runs have judged the same
notes to be of the same tiers. So their counters and their accuracies agree. Where no tick of the
first run judges both an estimate and a missed note, they have judged in the same order, and their
scores agree as a whole. -/
theorem frames_agree (c : Setup F R) (hgains : c.scoring.Gains) (began last : R) (song : Song R)
    {xs ys : List (R × Event F R)} (hinserted : Inserted false xs ys) :
    let first := (began, .start song) :: xs ++ [(last, .tick)]
    let second := (began, .start song) :: ys ++ [(last, .tick)]
    let s := (fresh c).run c first
    let t := (fresh c).run c second
    (second.map Prod.fst).Pairwise (· ≤ ·) →
    (∀ now song', (now, Event.start song') ∈ first →
      c.Plays song' ∧ song'.InOrder ∧ song'.Outlasts c) →
    Along c (Firm c) (fresh c) first → Along c (Closes c) (fresh c) first → CaughtUp c s →
    t.ledger.Perm s.ledger ∧
      (∀ tier, t.keeper.score.count tier = s.keeper.score.count tier) ∧
      t.keeper.score.accuracy = s.keeper.score.accuracy ∧
      (Along c (Unmixed c) (fresh c) first → t.keeper.score = s.keeper.score) := by
  intro first second s t hclock hstarted hfirm hcloses hcaught
  obtain ⟨hplays, hfits⟩ := hstarted began song List.mem_cons_self
  have hfirm' := (along_append _ _).mp hfirm.2
  have hcloses' := (along_append _ _).mp hcloses.2
  -- The run up to the last tick, from the start on
  have hbegins := (Ahead.fresh c (Along c (Unmixed c) (fresh c) first) began).start hgains hplays
    hfits hfirm.1
  have hclock' : (began :: (ys.map Prod.fst ++ [last])).Pairwise (· ≤ ·) := by
    simpa [second] using hclock
  obtain ⟨now, lapsed, hnow, hahead⟩ := hbegins.run hgains hinserted (fun _ => rfl) nofun hclock'
    (fun started song' hmem => hstarted started song'
      (List.mem_cons_of_mem _ (List.mem_append_left _ hmem)))
    hfirm'.1 hcloses'.1 fun hunmixed => ((along_append _ _).mp hunmixed.2).1
  -- The last tick finds both, and the first run is caught up after it
  obtain ⟨lapsed', hlast, hsynced⟩ := hahead.tick hgains hnow hfirm'.2.1
    fun hunmixed => ((along_append _ _).mp hunmixed.2).2.1
  have hs : s = ((((fresh c).start c began song).run c xs).tick c last).2 := run_append ..
  have ht : t = ((((fresh c).start c began song).run c ys).tick c last).2 := run_append ..
  rw [← hs, ← ht] at hlast hsynced
  obtain rfl := hlast.nil_of_caughtUp hsynced hcaught
  have hledger := hlast.ledger
  have hsame := hlast.same
  rw [lapse_nil, List.append_nil] at hledger hsame
  exact ⟨hledger, hlast.sound.inStep.count_of_perm hlast.sound'.inStep hledger,
    hlast.sound.accuracy_of_perm hlast.sound' hledger,
    fun hunmixed => hlast.sound.inStep.score_of_ledger hlast.sound'.inStep (hsame hunmixed)⟩

/-- In exact numbers rounding does no harm along any run. -/
theorem along_firm_of_exact {c : Setup F Rat} (s : Session F Rat)
    (events : List (Rat × Event F Rat)) : Along c (Firm c) s events := by
  induction events generalizing s with
  | nil => trivial
  | cons e rest ih => exact ⟨firm_of_exact s e, ih (s.after c e)⟩

/-- A note that is missed in a run with a pause, once at its last tick and once by a tick that comes
in between. -/
theorem frames_agree_of_sole_note :
    let c : Setup Float Rat :=
      soleSetup (usualSettings (by decide) usualWindows_rat.1) .usual usualWindows_rat.2
    let song : Song Rat := songOf
      [soleNote "a" 1 (by decide) (by decide)] (.num 3) (by decide)
    let xs : List (Rat × Event Float Rat) := [(1 / 2, .pause), (3 / 4, .resume)]
    let ys : List (Rat × Event Float Rat) :=
      [(1 / 4, .tick), (1 / 2, .pause), (3 / 4, .resume), (3 / 2, .tick)]
    let s := (fresh c).run c ((0, .start song) :: xs ++ [(2, .tick)])
    let t := (fresh c).run c ((0, .start song) :: ys ++ [(2, .tick)])
    Inserted false xs ys ∧ CaughtUp c s ∧ t.ledger.Perm s.ledger ∧
      t.keeper.score = s.keeper.score := by
  intro c song xs ys s t
  have hinserted : Inserted false xs ys :=
    .extra _ (.alone rfl (.alone rfl (.extra _ (.nil _))))
  have hplays : c.Plays song := by
    refine ⟨fun n hn => ?_, List.pairwise_singleton _ _, (Scoring.computes_rat _ _).reaches⟩
    obtain rfl := List.mem_singleton.mp hn
    rfl
  have houtlasts : song.Outlasts c := by
    refine Song.outlasts_of_lt (d := 3) rfl fun n hn => ?_
    obtain rfl := List.mem_singleton.mp hn
    decide +kernel
  have hstarted : ∀ now song',
      ((now, .start song') : Rat × Event Float Rat) ∈ (0, .start song) :: xs ++ [(2, .tick)] →
        c.Plays song' ∧ song'.InOrder ∧ song'.Outlasts c := by
    intro now song' hmem
    simp only [xs, List.cons_append, List.nil_append, List.mem_cons, Prod.mk.injEq,
      Event.start.injEq, reduceCtorEq, and_false, List.not_mem_nil, or_false] at hmem
    rw [hmem.2]
    exact ⟨hplays, List.pairwise_singleton _ _, houtlasts⟩
  have hcaught : CaughtUp c s := by
    have hnone : s.pending.length = 0 := by decide +kernel
    refine ⟨by decide +kernel, fun n hn => ?_⟩
    rw [List.length_eq_zero_iff.mp hnone] at hn
    cases hn
  obtain ⟨hledger, -, -, hscore⟩ := frames_agree c (Scoring.computes_rat c.scoring 0).gains
    0 2 song hinserted (by decide +kernel) hstarted
    (along_firm_of_exact _ _) ⟨nofun, nofun, nofun, nofun, trivial⟩ hcaught
  refine ⟨hinserted, hcaught, hledger, ?_⟩
  unfold t s
  -- Nothing was written into the slot
  exact hscore ⟨trivial, trivial, trivial, unmixed_of_read rfl 2, trivial⟩

/-- What one more tick changes, under a tolerance that is no number, which lets every estimate hit.
It misses the first of two notes before the second is hit, so that the combo goes on; it ends a
song whose given duration is over before its note has left; it misses a note before the score is
frozen, or before a pause in which the last tick does nothing; and it moves the song time on before
an estimate is judged directly. -/
theorem frames_disagree :
    let settings : Settings Float Float :=
      { (usualSettings (by decide) (by decide) : Settings Float Float) with
        tolerance := 0.0 / 0.0, tolerance_pos := by decide }
    let c := soleSetup settings .usual (by decide)
    let a := soleNote "a" 1 (by decide) (by decide)
    let b := soleNote "b" 1.3 (by decide) (by decide)
    let song (notes : List (Note Float)) (duration : Float) : Song Float :=
      songOf notes (.num duration) (by decide)
    let pitch : HeardPitch Float := ⟨261.6255653005986, 0.99, some 0.5, 0⟩
    let score (song : Song Float) (events : List (Float × Event Float Float)) : Score Float :=
      ((fresh c).run c ((0, .start song) :: events)).keeper.score
    ((score (song [a, b] 4) [(1.2, .hear (some pitch)), (1.2, .tick)]).combo = 0 ∧
      (score (song [a, b] 4)
        [(1.16, .tick), (1.2, .hear (some pitch)), (1.2, .tick)]).combo = 1) ∧
    ((score (song [a] 0.5) [(2, .tick)]).miss = 1 ∧
      (score (song [a] 0.5) [(0.6, .tick), (2, .tick)]).miss = 0) ∧
    ((score (song [a] 4) [(1.5, .finish), (2, .tick)]).miss = 0 ∧
      (score (song [a] 4) [(1.4, .tick), (1.5, .finish), (2, .tick)]).miss = 1) ∧
    ((score (song [a] 4) [(1.5, .pause), (2, .tick)]).miss = 0 ∧
      (score (song [a] 4) [(1.4, .tick), (1.5, .pause), (2, .tick)]).miss = 1) ∧
    ((score (song [a] 4) [(1, .judge pitch), (1, .tick)]).combo = 0 ∧
      (score (song [a] 4) [(1, .tick), (1, .judge pitch), (1, .tick)]).combo = 1) := by
  decide +kernel

end Lamella.Session
