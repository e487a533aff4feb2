import Lamella.Proofs.Session.Likeness

/-!
# Estimates are judged at most once

A producer writes estimates into the slot while a game loop starts, ticks and pauses. The slot is
accessed by one of them at a time, and each operation of the loop accesses it at most once. So
whatever the two do at the same time, the session goes as it does for some order of writes and
operations one after another. In each such order an estimate reaches judging at most once.

What the loop has read is known by the version of the slot at that time. Two invariants carry the
argument: versions only grow, by one with each write, and what was read never falls back. So a write
is still waiting just as long as neither another write nor a read has come.

## Main definitions

- `Session.Reads`, `Session.Event.Writes`: the events that access the slot.
- `Session.JudgedBy`: the estimate of a write is judged by a tick.
- `Session.pitchHits`: the hits that the ticks of a run record for estimates.

## Main statements

- `Session.tick_hear_before`, `Session.tick_hear_after`: a write in the midst of a tick could as
  well come before or after it.
- `Session.judgedBy_iff`: which tick judges a write.
- `Session.estimates_judged_once`: no write is judged twice, and no two hits come from one write.
-/

namespace Lamella.Session

/-! ## §1 Writes in the midst of a tick -/

section Midst

variable {F R : Type} [Analytic F] [Scalar R] {c : Setup F R} {s : Session F R} {song : Song R}

/-- A write that comes after a tick has read the clock and before it reads the slot could as well
come before the tick. -/
theorem tick_hear_before (hactive : s.phase.isActive = true) (hsong : s.song = some song) (now : R)
    (pitch : Option (HeardPitch F)) :
    (((s.moved c now).hear pitch).caught).settle c song ((s.moved c now).hear pitch).unread =
      (s.hear pitch).tick c now := by
  have htick := tick_eq_settle (c := c) (s := s.hear pitch) now hactive hsong
  rw [htick]
  rfl

/-- A write that comes after a tick has read the slot could as well come after the tick. -/
theorem tick_hear_after (hactive : s.phase.isActive = true) (hsong : s.song = some song) (now : R)
    (pitch : Option (HeardPitch F)) :
    ((s.moved c now).caught.hear pitch).settle c song s.unread =
      ((s.tick c now).1, (s.tick c now).2.hear pitch) := by
  have hhear : ∀ t : Session F R, t.hear pitch =
      t.withHidden { t.hidden with slot := t.slot.write pitch } := fun t => rfl
  -- Settling leaves the slot as it is, so that the same is written into it afterwards
  have hhidden := settle_hidden c (s.moved c now).caught song s.unread
  have hslot : ((s.moved c now).caught.settle c song s.unread).2.slot = s.slot :=
    congrArg Hidden.slot hhidden
  rw [tick_eq_settle now hactive hsong, hhear, settle_withHidden, hhear, hhidden, hslot]
  rfl

end Midst

/-! ## §2 What is written and what was read -/

section Access

variable {F R : Type} [Scalar R]

/-- The events that write into the slot. -/
def Event.Writes : Event F R → Prop
  | .hear _ => True
  | _ => False

/-- The events that read the slot: a start and the end of a pause, after which what was written
counts as read, and the tick of an active session. -/
def Reads (s : Session F R) : Event F R → Prop
  | .start _ => True
  | .resume => s.phase = .paused
  | .tick => s.phase.isActive = true
  | _ => False

variable [Analytic F] {c : Setup F R} {s : Session F R}

/-- Only writes change the slot. -/
theorem slot_after (c : Setup F R) (s : Session F R) {e : R × Event F R} (hwrites : ¬ e.2.Writes) :
    (s.after c e).slot = s.slot := by
  obtain ⟨now, e⟩ := e
  cases e with
  | hear pitch => exact absurd trivial hwrites
  | start song => rfl
  | reset => rfl
  | judge pitch => exact (judge_sameCourse c pitch s).slot
  | sweep => exact (sweep_sameCourse c s).slot
  | pause =>
    show (s.pause now).slot = s.slot
    unfold Session.pause
    split <;> rfl
  | resume =>
    show (s.resume now).slot = s.slot
    unfold Session.resume
    split <;> rfl
  | finish =>
    show s.finish.slot = s.slot
    unfold Session.finish
    split <;> rfl
  | tick =>
    show (s.tick c now).2.slot = s.slot
    rcases s.active_or_idle with ⟨song, hactive, hsong⟩ | hidle
    · rw [tick_eq_settle now hactive hsong]
      exact congrArg Hidden.slot (settle_hidden c (s.moved c now).caught song s.unread)
    · rw [tick_of_idle now hidle]

/-- What an event that reads the slot has read. -/
theorem seen_of_reads (hs : s.Steady) {e : R × Event F R} (hreads : s.Reads e.2) :
    (s.after c e).seen = s.slot.version := by
  obtain ⟨now, e⟩ := e
  cases e with
  | start song => rfl
  | resume =>
    have hpaused : s.phase = .paused := hreads
    show (s.resume now).seen = s.slot.version
    unfold Session.resume
    rw [if_pos hpaused]
  | tick =>
    obtain ⟨song, hsong⟩ := Option.ne_none_iff_exists'.mp (hs.of_active hreads).1
    show (s.tick c now).2.seen = s.slot.version
    rw [tick_eq_settle now hreads hsong]
    exact congrArg Hidden.seen (settle_hidden c (s.moved c now).caught song s.unread)
  | pause => cases hreads
  | finish => cases hreads
  | reset => cases hreads
  | judge pitch => cases hreads
  | sweep => cases hreads
  | hear pitch => cases hreads

/-- Nothing else changes what was read. -/
theorem seen_of_not_reads {e : R × Event F R} (hreads : ¬ s.Reads e.2) :
    (s.after c e).seen = s.seen := by
  obtain ⟨now, e⟩ := e
  cases e with
  | start song => exact absurd trivial hreads
  | hear pitch => rfl
  | reset => rfl
  | judge pitch => exact congrArg Hidden.seen (judge_hidden c s pitch)
  | sweep => exact congrArg Hidden.seen (sweep_hidden c s)
  | pause =>
    show (s.pause now).seen = s.seen
    unfold Session.pause
    split <;> rfl
  | resume =>
    have hgoing : ¬ s.phase = .paused := hreads
    show (s.resume now).seen = s.seen
    unfold Session.resume
    rw [if_neg hgoing]
  | finish =>
    show s.finish.seen = s.seen
    unfold Session.finish
    split <;> rfl
  | tick =>
    have hidle : s.phase.isActive = false := Bool.eq_false_iff.mpr hreads
    show (s.tick c now).2.seen = s.seen
    rw [tick_of_idle now (.inl hidle)]

theorem version_le_after (c : Setup F R) (s : Session F R) (e : R × Event F R) :
    s.slot.version ≤ (s.after c e).slot.version := by
  by_cases hwrites : e.2.Writes
  · obtain ⟨now, e⟩ := e
    cases e with
    | hear pitch => exact Nat.le_succ _
    | _ => cases hwrites
  · rw [slot_after c s hwrites]

theorem seen_le_after (hs : s.Steady) (hbehind : s.ReadsBehind) (e : R × Event F R) :
    s.seen ≤ (s.after c e).seen := by
  by_cases hreads : s.Reads e.2
  · rw [seen_of_reads hs hreads]
    exact hbehind
  · rw [seen_of_not_reads hreads]

end Access

/-! ## §3 The tick that judges a write -/

section Run

variable {F R : Type} [Analytic F] [Scalar R] {c : Setup F R} {events : List (R × Event F R)}
  {i j k : Nat} {e : R × Event F R}

/-- The session that the events of a run before a position have reached. -/
def reached (c : Setup F R) (events : List (R × Event F R)) (k : Nat) : Session F R :=
  (fresh c).run c (events.take k)

theorem reached_succ (he : events[k]? = some e) :
    reached c events (k + 1) = (reached c events k).after c e := by
  unfold reached
  rw [List.take_add_one, he, run_append]
  rfl

theorem reached_stays (he : events[k]? = none) : reached c events (k + 1) = reached c events k := by
  unfold reached
  rw [List.take_add_one, he, run_append]
  rfl

/-- Along a run versions only grow, and what was read never falls back. -/
theorem reached_mono (c : Setup F R) (events : List (R × Event F R)) (hij : i ≤ j) :
    (reached c events i).slot.version ≤ (reached c events j).slot.version ∧
      (reached c events i).seen ≤ (reached c events j).seen := by
  induction j, hij using Nat.le_induction with
  | base => exact ⟨Nat.le_refl _, Nat.le_refl _⟩
  | succ j _ ih =>
    cases he : events[j]? with
    | none =>
      rw [reached_stays he]
      exact ih
    | some e =>
      rw [reached_succ he]
      have hversion := version_le_after c (reached c events j) e
      have hseen := seen_le_after (c := c) (steady_run c _) (readsBehind_run c (events.take j)) e
      exact ⟨ih.1.trans hversion, ih.2.trans hseen⟩

/-- As long as the slot is not accessed, both stay as they are. -/
theorem reached_untouched (hij : i ≤ j)
    (huntouched : ∀ k e, i ≤ k → k < j → events[k]? = some e →
      ¬ e.2.Writes ∧ ¬ (reached c events k).Reads e.2) :
    (reached c events j).slot = (reached c events i).slot ∧
      (reached c events j).seen = (reached c events i).seen := by
  induction j, hij using Nat.le_induction with
  | base => exact ⟨rfl, rfl⟩
  | succ j hij ih =>
    have hbefore := ih fun k e hik hkj => huntouched k e hik (Nat.lt_succ_of_lt hkj)
    cases he : events[j]? with
    | none =>
      rw [reached_stays he]
      exact hbefore
    | some e =>
      obtain ⟨hwrites, hreads⟩ := huntouched j e hij (Nat.lt_succ_self j) he
      rw [reached_succ he, slot_after c _ hwrites, seen_of_not_reads hreads]
      exact hbefore

/-- The event at one position of a run writes an estimate that the tick at another position passes
on to judging: the session is active then, so that the tick judges the unread estimate of the slot
(`tick_eq_settle`), and that is the one of this write, as the version tells. -/
def JudgedBy (c : Setup F R) (events : List (R × Event F R)) (i j : Nat) : Prop :=
  ∃ (past now : R) (pitch : HeardPitch F),
    events[i]? = some (past, .hear (some pitch)) ∧ events[j]? = some (now, .tick) ∧
      (reached c events j).phase.isActive = true ∧
      (reached c events j).unread = some pitch ∧
      (reached c events j).slot.version = (reached c events (i + 1)).slot.version

/-- **A write is judged by the first tick of an active session after it**, unless another write, a
start or the end of a pause comes between the two. -/
theorem judgedBy_iff (c : Setup F R) (events : List (R × Event F R)) (i j : Nat) :
    JudgedBy c events i j ↔
      (∃ past pitch, events[i]? = some (past, .hear (some pitch))) ∧
      (∃ now, events[j]? = some (now, .tick)) ∧ (reached c events j).phase.isActive = true ∧
      i < j ∧ ∀ k e, i < k → k < j → events[k]? = some e →
        ¬ e.2.Writes ∧ ¬ (reached c events k).Reads e.2 := by
  constructor
  · rintro ⟨past, now, pitch, hwrite, htick, hactive, hunread, hversion⟩
    have hwritten : (reached c events (i + 1)).slot.version =
        (reached c events i).slot.version + 1 := by
      rw [reached_succ hwrite]
      rfl
    have hij : i < j := by
      by_contra hji
      have hmono := (reached_mono c events (Nat.le_of_not_lt hji)).1
      omega
    refine ⟨⟨past, pitch, hwrite⟩, ⟨now, htick⟩, hactive, hij, ?_⟩
    intro k e hik hkj he
    have hbefore := (reached_mono c events (Nat.succ_le_of_lt hik)).1
    have hafter := reached_mono c events (Nat.succ_le_of_lt hkj)
    rw [reached_succ he] at hafter
    constructor
    · -- A later write would have raised the version
      intro hwrites
      obtain ⟨r, e⟩ := e
      cases e with
      | hear later =>
        have hraised : (reached c events k).slot.version + 1 ≤ (reached c events j).slot.version :=
          hafter.1
        rw [Nat.succ_eq_add_one] at hbefore
        omega
      | _ => cases hwrites
    · -- What reads the slot leaves nothing to read
      intro hreads
      have hseen := hafter.2
      have hsteady : (reached c events k).Steady := steady_run c _
      rw [seen_of_reads hsteady hreads] at hseen
      have hbehind : (reached c events j).seen ≤ (reached c events j).slot.version :=
        readsBehind_run c (events.take j)
      rw [Nat.succ_eq_add_one] at hbefore
      have hnone : (reached c events j).unread = none := if_pos (by omega)
      rw [hnone] at hunread
      cases hunread
  · rintro ⟨⟨past, pitch, hwrite⟩, ⟨now, htick⟩, hactive, hij, huntouched⟩
    obtain ⟨hslot, hseen⟩ := reached_untouched (c := c) (Nat.succ_le_of_lt hij)
      fun k e hik hkj => huntouched k e hik hkj
    refine ⟨past, now, pitch, hwrite, htick, hactive, ?_, by rw [hslot]⟩
    -- The slot and what was read of it are as they were right after the write
    have hbehind : (reached c events i).ReadsBehind := readsBehind_run c (events.take i)
    have hwritten := unread_hear hbehind (some pitch)
    rw [← hwritten]
    have hheard : reached c events (i + 1) = (reached c events i).hear (some pitch) :=
      reached_succ hwrite
    simp only [unread, hslot, hseen, hheard]

/-- No two ticks judge the same write. -/
theorem judgedBy_unique (hi : JudgedBy c events i j) (hk : JudgedBy c events i k) : j = k := by
  have hnot : ∀ {j k : Nat}, JudgedBy c events i j → JudgedBy c events i k → ¬ j < k := by
    intro j k hj hk hjk
    obtain ⟨-, ⟨now, htick⟩, hactive, hij, -⟩ := (judgedBy_iff c events i j).mp hj
    obtain ⟨-, -, -, -, huntouched⟩ := (judgedBy_iff c events i k).mp hk
    -- The earlier of the two has read the slot
    exact (huntouched j _ hij hjk htick).2 hactive
  have hjk := hnot hi hk
  have hkj := hnot hk hi
  omega

/-- The slot of a run holds what was written last, if anything was. -/
theorem slot_reached (c : Setup F R) (events : List (R × Event F R)) (j : Nat) :
    (reached c events j).slot = {} ∨
      ∃ i past pitch, events[i]? = some (past, .hear pitch) ∧
        (reached c events j).slot = (reached c events (i + 1)).slot := by
  induction j with
  | zero => exact .inl rfl
  | succ j ih =>
    cases he : events[j]? with
    | none =>
      rw [reached_stays he]
      exact ih
    | some e =>
      by_cases hwrites : e.2.Writes
      · obtain ⟨past, e⟩ := e
        cases e with
        | hear pitch => exact .inr ⟨j, past, pitch, he, rfl⟩
        | _ => cases hwrites
      · rw [reached_succ he, slot_after c _ hwrites]
        exact ih

/-- Whatever a tick judges was written. -/
theorem judgedBy_of_unread {now : R} {pitch : HeardPitch F} (htick : events[j]? = some (now, .tick))
    (hactive : (reached c events j).phase.isActive = true)
    (hunread : (reached c events j).unread = some pitch) : ∃ i, JudgedBy c events i j := by
  have hpitch : (reached c events j).slot.pitch = some pitch := by
    unfold unread at hunread
    split at hunread
    · cases hunread
    · exact hunread
  rcases slot_reached c events j with hempty | ⟨i, past, written, hwrite, hslot⟩
  · rw [hempty] at hpitch
    cases hpitch
  · rw [hslot, reached_succ hwrite] at hpitch
    obtain rfl : written = some pitch := hpitch
    exact ⟨i, past, now, pitch, hwrite, htick, hactive, hunread, by rw [hslot]⟩

end Run

/-! ## §4 The hits of the ticks -/

section Hits

variable {F R : Type} [Analytic F] [Scalar R] {c : Setup F R} {s : Session F R}

/-- The hits that an event records for an estimate that it reads: a tick of an active session reads
the slot once it has moved the song time. -/
def pitchHit (c : Setup F R) (s : Session F R) (e : R × Event F R) : List (Hit F R) :=
  match e.2, s.phase.isActive with
  | .tick, true => ((s.moved c e.1).readSlot c).2.hits.drop s.hits.length
  | _, _ => []

/-- The hits that the ticks of a run record for estimates. -/
def pitchHits (c : Setup F R) : Session F R → List (R × Event F R) → List (Hit F R)
  | _, [] => []
  | s, e :: rest => s.pitchHit c e ++ (s.after c e).pitchHits c rest

/-- An estimate adds at most one hit. -/
theorem judge_hits (c : Setup F R) (pitch : HeardPitch F) (s : Session F R) :
    (s.judge c pitch).2.hits.length ≤ s.hits.length + 1 := by
  have hrecord : ∀ hit : Hit F R, (s.record hit).2.hits.length ≤ s.hits.length + 1 := by
    intro hit
    unfold record
    split
    · simp
    · exact Nat.le_succ _
    · exact Nat.le_succ _
  unfold judge
  split
  · exact Nat.le_succ _
  split
  · exact Nat.le_succ _
  · exact Nat.le_succ _
  · rename_i hit _
    have hhit := hrecord hit
    split <;> rename_i heq <;> rw [heq] at hhit <;> exact hhit

/-- The tick of an active session records at most one hit for an estimate. -/
theorem length_pitchHit (c : Setup F R) (s : Session F R) (e : R × Event F R) :
    (s.pitchHit c e).length ≤ 1 := by
  unfold pitchHit
  split
  · rw [List.length_drop, readSlot_eq]
    cases hunread : (s.moved c e.1).unread with
    | none => simp [judgeAny, caught, moved]
    | some pitch =>
      have hhits := judge_hits c pitch (s.moved c e.1).caught
      have hsame : (s.moved c e.1).caught.hits.length = s.hits.length := rfl
      simp only [judgeAny]
      omega
  · simp

/-- A session that has nothing to read records no hit for an estimate. -/
theorem pitchHit_of_read (hread : s.unread = none) (e : R × Event F R) : s.pitchHit c e = [] := by
  unfold pitchHit
  split
  · have hmoved : (s.moved c e.1).unread = none := hread
    rw [readSlot_eq, hmoved]
    simp [judgeAny, caught, moved]
  · rfl

theorem unread_of_reads (hs : s.Steady) {e : R × Event F R} (hreads : s.Reads e.2) :
    (s.after c e).unread = none := by
  have hwrites : ¬ e.2.Writes := by
    obtain ⟨now, e⟩ := e
    cases e with
    | hear pitch => cases hreads
    | _ => exact id
  exact if_pos (by rw [seen_of_reads hs hreads, slot_after c s hwrites])

theorem unread_of_not_reads {e : R × Event F R} (hwrites : ¬ e.2.Writes) (hreads : ¬ s.Reads e.2) :
    (s.after c e).unread = s.unread := by
  simp only [unread, slot_after c s hwrites, seen_of_not_reads hreads]

/-- What was read stays read, as long as nothing is written. -/
theorem pitchHits_of_read (hs : s.Steady) (hread : s.unread = none) {events : List (R × Event F R)}
    (hwrites : ∀ e ∈ events, ¬ e.2.Writes) : s.pitchHits c events = [] := by
  induction events generalizing s with
  | nil => rfl
  | cons e rest ih =>
    have hnext : (s.after c e).unread = none := by
      by_cases hreads : s.Reads e.2
      · exact unread_of_reads hs hreads
      · rw [unread_of_not_reads (hwrites e List.mem_cons_self) hreads]
        exact hread
    have hrest := ih (hs.after c e) hnext fun e' he' => hwrites e' (List.mem_cons_of_mem e he')
    rw [pitchHits, pitchHit_of_read hread e, hrest]
    rfl

/-- Between two writes the ticks record at most one hit for an estimate. -/
theorem length_pitchHits (hs : s.Steady) {events : List (R × Event F R)}
    (hwrites : ∀ e ∈ events, ¬ e.2.Writes) : (s.pitchHits c events).length ≤ 1 := by
  induction events generalizing s with
  | nil => exact Nat.zero_le 1
  | cons e rest ih =>
    have hlater : ∀ e' ∈ rest, ¬ e'.2.Writes := fun e' he' => hwrites e' (List.mem_cons_of_mem e he')
    rw [pitchHits]
    by_cases hreads : s.Reads e.2
    · -- The first read leaves nothing to read for the others
      rw [pitchHits_of_read (hs.after c e) (unread_of_reads hs hreads) hlater, List.append_nil]
      exact length_pitchHit c s e
    · have hnone : s.pitchHit c e = [] := by
        unfold pitchHit
        split
        · rename_i htick hactive
          rw [htick] at hreads
          exact absurd hactive hreads
        · rfl
      rw [hnone, List.nil_append]
      exact ih (hs.after c e) hlater

end Hits

/-! ## §5 Every order of writes and operations -/

/-- **Each estimate is judged at most once.** In every order of writes and operations, a write is
judged by a tick just if that tick is the first one after it that finds the session active, and
neither another write nor a start nor the end of a pause comes between. So no two ticks judge the
same write. Whatever a tick judges was written; and as long as nothing is written, all ticks
together record at most one hit for an estimate. -/
theorem estimates_judged_once {F R : Type} [Analytic F] [Scalar R] (c : Setup F R)
    (events : List (R × Event F R)) :
    (∀ i j, JudgedBy c events i j ↔
      (∃ past pitch, events[i]? = some (past, .hear (some pitch))) ∧
      (∃ now, events[j]? = some (now, .tick)) ∧ (reached c events j).phase.isActive = true ∧
      i < j ∧ ∀ k e, i < k → k < j → events[k]? = some e →
        ¬ e.2.Writes ∧ ¬ (reached c events k).Reads e.2) ∧
    (∀ i j k, JudgedBy c events i j → JudgedBy c events i k → j = k) ∧
    (∀ j now pitch, events[j]? = some (now, .tick) → (reached c events j).phase.isActive = true →
      (reached c events j).unread = some pitch → ∃ i, JudgedBy c events i j) ∧
    ∀ front middle : List (R × Event F R), (∀ e ∈ middle, ¬ e.2.Writes) →
      (((fresh c).run c front).pitchHits c middle).length ≤ 1 := by
  refine ⟨judgedBy_iff c events, fun i j k => judgedBy_unique, fun j now pitch => judgedBy_of_unread,
    ?_⟩
  intro front middle hwrites
  exact length_pitchHits (steady_run c front) hwrites

/-- Of two ticks that follow a write, the first one judges it. -/
theorem estimates_judged_once_of_two_ticks :
    let c : Setup Float Rat :=
      soleSetup (usualSettings (by decide) usualWindows_rat.1) .usual usualWindows_rat.2
    let song : Song Rat := songOf [soleNote "a" 1 (by decide) (by decide)] (.num 3) (by decide)
    let pitch : HeardPitch Float := ⟨261.6255653005986, 0.99, some 0.5, 0⟩
    let front : List (Rat × Event Float Rat) := [(0, .start song), (1, .hear (some pitch))]
    let middle : List (Rat × Event Float Rat) := [(1, .tick), (2, .tick)]
    JudgedBy c (front ++ middle) 1 2 ∧ ¬ JudgedBy c (front ++ middle) 1 3 ∧
      (((fresh c).run c front).pitchHits c middle).length ≤ 1 := by
  intro c song pitch front middle
  obtain ⟨hiff, hunique, -, hhits⟩ := estimates_judged_once c (front ++ middle)
  have hfirst : JudgedBy c (front ++ middle) 1 2 := by
    refine (hiff 1 2).mpr ⟨⟨1, pitch, rfl⟩, ⟨1, rfl⟩, rfl, by omega, ?_⟩
    intro k e hik hkj
    omega
  refine ⟨hfirst, ?_, ?_⟩
  · intro hsecond
    have hsame := hunique 1 2 3 hfirst hsecond
    omega
  · apply hhits front middle
    simp [middle, Event.Writes]

end Lamella.Session
