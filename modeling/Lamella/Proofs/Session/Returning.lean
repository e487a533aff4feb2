import Lamella.Proofs.Layout.Outside
import Lamella.Proofs.Session.Ledger
import Lamella.Proofs.Song.Clashes

/-!
# Ticks that return

A tick goes through three steps that can fail. Judging fails at a key too far below zero, or at one
without a pitch; a sweep at an id that cannot be looked up, or at points that no scalar holds; and
the look for the end of the song at a duration that is no number. So with rules that compute, and
songs whose ids and keys can be looked up, it depends on the duration alone whether ticks return.

## Main definitions

- `Setup.Finds`: songs whose keys can be looked up, under a layout whose keys have a pitch.

## Main statements

- `Value.atMost_returns_iff`: what can be compared with a scalar.
- `Session.tick_returns_iff`: a tick of a song returns just if its duration is a number.
- `Session.ticks_return_iff`: every tick of every session that plays a song does.
-/

namespace Lamella

/-! ## §1 What can be looked up -/

/-- A value compares with a scalar just if it is a number. -/
theorem Value.atMost_returns_iff {R : Type} [Scalar R] {v : Value R} {x : R} :
    (∃ ended, v.atMost x = .ok ended) ↔ Song.isNumeric v = true := by
  cases v with
  | bool b => exact ⟨fun _ => rfl, fun _ => ⟨_, rfl⟩⟩
  | int n => exact ⟨fun _ => rfl, fun _ => ⟨_, rfl⟩⟩
  | num y => exact ⟨fun _ => rfl, fun _ => ⟨_, rfl⟩⟩
  | null | str | list | object =>
    refine ⟨fun h => ?_, fun h => ?_⟩
    · obtain ⟨ended, h⟩ := h
      cases h
    · cases h

/-- What is not too far below zero can be looked up, unless it is beyond the end. -/
theorem Layout.exists_get {F : Type} {l : Layout F} {index : Int}
    (hbeyond : l.isBeyond index = false) (hfar : -(l.size : Int) ≤ index) :
    ∃ k ∈ l.keys, l.get index = .ok k := by
  have hend : ¬ (l.size : Int) ≤ index := of_decide_eq_false hbeyond
  have hsize : l.size = l.keys.length := rfl
  unfold get at?
  by_cases hnonneg : 0 ≤ index
  · have hlt : index.toNat < l.keys.length := by omega
    rw [if_pos hnonneg, List.getElem?_eq_getElem hlt]
    exact ⟨l.keys[index.toNat], List.getElem_mem hlt, rfl⟩
  · have hlt : (l.size + index).toNat < l.keys.length := by omega
    rw [if_neg hnonneg, if_pos hfar, List.getElem?_eq_getElem hlt]
    exact ⟨l.keys[(l.size + index).toNat], List.getElem_mem hlt, rfl⟩

variable {F R : Type} [Analytic F] [Scalar R]

/-- From a reference with a pitch every distance can be computed. -/
theorem Pitch.cents_of_pitched {reference : F} (h : Scalar.isZero reference = false) (f : F) :
    Pitch.cents f reference = .ok (1200.0 * Analytic.log2 (f / reference)) := by
  rw [cents, Value.quotient, Scalar.quotient?, if_neg (by simp [h])]
  rfl

/-- A song whose keys can be looked up or are left out, under a layout whose keys have a pitch. -/
structure Setup.Finds (c : Setup F R) (song : Song R) : Prop where
  keys : ∀ n ∈ song.notes, -(c.layout.size : Int) ≤ n.key
  pitched : ∀ k ∈ c.layout.keys, Scalar.isZero k.frequency = false

namespace Session

variable {c : Setup F R} {s : Session F R} {song : Song R}

/-! ## §2 Judging -/

theorem centsWithin_returns (hpitched : ∀ k ∈ c.layout.keys, Scalar.isZero k.frequency = false)
    {n : Note R} (hkey : -(c.layout.size : Int) ≤ n.key) (pitch : HeardPitch F) :
    ∃ found, centsWithin c pitch n = .ok found := by
  cases hbeyond : c.layout.isBeyond n.key with
  | true => exact ⟨none, centsWithin_of_beyond hbeyond⟩
  | false =>
    obtain ⟨k, hk, hget⟩ := Layout.exists_get hbeyond hkey
    rw [centsWithin_of_not hbeyond, hget]
    show ∃ found, (Pitch.cents pitch.frequency k.frequency >>= _) = .ok found
    rw [Pitch.cents_of_pitched (hpitched k hk)]
    exact ⟨_, rfl⟩

/-- Whether an estimate hits one of some notes is found out, if their keys can be looked up. -/
theorem firstHit_returns (hpitched : ∀ k ∈ c.layout.keys, Scalar.isZero k.frequency = false)
    {notes : List (Note R)} (hkeys : ∀ n ∈ notes, -(c.layout.size : Int) ≤ n.key) (now : R)
    (pitch : HeardPitch F) : ∃ found, firstHit c now pitch notes = .ok found := by
  induction notes with
  | nil => exact ⟨none, rfl⟩
  | cons n rest ih =>
    obtain ⟨cents, hcents⟩ := centsWithin_returns hpitched (hkeys n List.mem_cons_self) pitch
    obtain ⟨found, hfound⟩ := ih fun m hm => hkeys m (List.mem_cons_of_mem n hm)
    rw [firstHit, hcents]
    cases cents with
    | none => exact ⟨found, hfound⟩
    | some cents => exact ⟨_, rfl⟩

theorem heard_returns (hsong : s.song = some song) (hfinds : c.Finds song) :
    ∃ found, s.heard c = .ok found := by
  unfold heard
  split
  · exact ⟨none, rfl⟩
  · cases s.slot.pitch with
    | none => exact ⟨none, rfl⟩
    | some pitch =>
      rw [Option.elim_some, found]
      split
      · refine firstHit_returns hfinds.pitched (fun n hn => ?_) (s.inputTime c) pitch
        refine hfinds.keys n ?_
        rw [← notes_of_song hsong]
        exact (mem_hitZone hn).1
      · exact ⟨none, rfl⟩

/-! ## §3 Ticks -/

/-- **A tick returns just if the duration of its song is a number.** -/
theorem tick_returns_iff (hs : s.Sound c) (hgains : c.scoring.Gains)
    (hactive : s.phase.isActive = true) (hsong : s.song = some song) (hfinds : c.Finds song)
    (now : R) : (∃ hits, (s.tick c now).1 = .ok hits) ↔ Song.isNumeric song.duration = true := by
  have hopen := (hs.steady.of_active hactive).2
  have hmoved := hs.moved hactive now
  -- Neither judging nor sweeping fails, so it is the look for the end that decides
  obtain ⟨found, hfound⟩ := heard_returns (s := s.moved c now) (c := c) hsong hfinds
  have hread := (hmoved.readSlot_writes hgains (moved_isActive hactive now)).1.trans hfound
  have hcourse := readSlot_sameCourse c (s.moved c now)
  have hswept := (sweep_eq (hmoved.readSlot hgains hopen) hgains (hcourse.frozen.trans hopen)).2.1
  rcases tick_cases (c := c) now hactive hsong with
    ⟨fault, hfault, -⟩ | ⟨_, fault, -, hfault, -⟩ | ⟨_, _, fault, -, -, hover, htick⟩ |
      ⟨_, _, -, -, hover, htick⟩ | ⟨_, _, -, -, hover, htick⟩
  · exact absurd (hfault.symm.trans hread) nofun
  · exact absurd (hfault.symm.trans hswept) nofun
  · rw [htick]
    refine ⟨fun h => ?_, fun h => ?_⟩
    · obtain ⟨hits, h⟩ := h
      cases h
    · obtain ⟨ended, h⟩ := Value.atMost_returns_iff.mpr h
      exact absurd (hover.symm.trans h) nofun
  · rw [htick]
    exact ⟨fun _ => Value.atMost_returns_iff.mp ⟨_, hover⟩, fun _ => ⟨_, rfl⟩⟩
  · rw [htick]
    exact ⟨fun _ => Value.atMost_returns_iff.mp ⟨_, hover⟩, fun _ => ⟨_, rfl⟩⟩

/-- **All ticks return just if the duration of the song is a number**: every tick of every session
that a run reaches in which no other song is started. -/
theorem ticks_return_iff (hgains : c.scoring.Gains) (hplays : c.Plays song)
    (hfinds : c.Finds song) :
    (∀ events : List (R × Event F R), (∀ now other, (now, .start other) ∈ events → other = song) →
      ∀ now, ∃ hits, (((fresh c).run c events).tick c now).1 = .ok hits) ↔
    Song.isNumeric song.duration = true := by
  constructor
  · intro hreturns
    let s : Session F R := (fresh c).run c [(Scalar.ofInt 0, .start song)]
    have hs : s.Sound c := sound_run hgains fun now other hmem => by
      cases List.mem_singleton.mp hmem
      exact hplays
    refine (tick_returns_iff hs hgains rfl rfl hfinds (Scalar.ofInt 0)).mp (hreturns _ ?_ _)
    intro now other hmem
    cases List.mem_singleton.mp hmem
    rfl
  · intro hnumeric events honly now
    have hs : ((fresh c).run c events).Sound c := sound_run hgains fun now other hmem => by
      rw [honly now other hmem]
      exact hplays
    cases hactive : ((fresh c).run c events).phase.isActive with
    | false => exact ⟨[], by rw [tick_of_idle now (.inl hactive)]⟩
    | true =>
      cases hsong : ((fresh c).run c events).song with
      | none => exact ⟨[], by rw [tick_of_idle now (.inr hsong)]⟩
      | some other =>
        obtain ⟨began, hmem⟩ := song_of_run c events hsong
        obtain rfl := honly began other hmem
        exact (tick_returns_iff hs hgains hactive hsong hfinds now).mpr hnumeric

end Session

end Lamella
