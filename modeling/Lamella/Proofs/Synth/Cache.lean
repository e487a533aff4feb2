import Lamella.Proofs.Result
import Lamella.Proofs.Session.Run
import Lamella.Synth.Room

/-!
# Tones that are kept

An engine keeps the tones that it makes, by key and duration, and durations that agree to four places
count as one. So a tone that is taken from those made before is one that was made for a duration that
was asked for, but it need not be the one that was asked for now: the tone that is heard is that of
the first of all durations that agree.

Whatever an engine is asked for, it makes one tone after another, and each makes a difference to one
place only: where there was nothing it puts the tone that was made. What can be told of an engine
after any requests is told of one such step first. Where requests are refused for want of room, this
changes nothing of what is kept.

## Main definitions

- `Engine.afresh`, `Engine.answer`: the tone of a key, made afresh and as it is heard.
- `Engine.Agree`: durations that agree to four places.
- `Engine.Request`, `Engine.after`: what an engine is asked for, and the tones it keeps then.
- `Room.Confines`: what is made in room, and what is made without a thought of it.

## Main statements

- `Engine.size_afresh`: how long a tone is.
- `Engine.answer_of_key`: what making one tone changes.
- `Engine.origin_of_answer`: each tone that is heard was made for a duration that was asked for.
- `Engine.answer_eq_afresh`: it is the very tone that was asked for if all that agree are that tone.
- `Engine.answers_after_requests`: what is heard of keys and songs after any requests.
- `Engine.agreeing_durations_share_tone`: two durations that are heard as one.
- `Envelope.confines_renderInRoom`, `Engine.confines_keyInRoom`, `Engine.confines_chordInRoom`,
  `Engine.songInRoom_cases`: what is made in room is what is made, or it is refused.
- `Engine.fills_serveInRoom`: the tones that are kept of requests that are served in room.
-/

namespace Lamella.Engine

variable {R S : Type} [Analytic R] [Sample R S] {e : Engine R}

/-! ## §1 Tones that are made afresh -/

/-- The tone of a key, made afresh. -/
def afresh (e : Engine R) (key : Int) (duration : R) : Except Fault (Array S) := do
  e.tone (← e.layout.get key).frequency duration

/-- A tone depends on its duration only by how many samples it is held. -/
theorem afresh_congr {k : Int} {d d' : R}
    (h : Envelope.count d e.rate = Envelope.count d' e.rate) :
    (e.afresh k d : Except Fault (Array S)) = e.afresh k d' := by
  simp only [afresh, tone, Envelope.render, h]

theorem length_render {env : Envelope R} {d : R} {rate hold release : Int}
    (hhold : Envelope.count d rate = .ok hold)
    (hrelease : Envelope.count env.release rate = .ok release) :
    ∃ levels, env.render d rate = .ok levels ∧
      levels.length = (max 1 hold).toNat + release.toNat := by
  refine ⟨_, by rw [Envelope.render, hhold, Except.ok_bind, hrelease]; rfl, ?_⟩
  simp [Envelope.held, Envelope.released]

/-- **How long a tone is**: as long as it is held, which is at least one sample, and as the longer of
the two releases after it. -/
theorem size_afresh {k : Int} {d : R} {struck : Key R} {hold amp mod : Int}
    (hget : e.layout.get k = .ok struck) (hhold : Envelope.count d e.rate = .ok hold)
    (hamp : Envelope.count (amplitude (R := R)).release e.rate = .ok amp)
    (hmod : Envelope.count (modulation (R := R)).release e.rate = .ok mod) :
    ∃ samples : Array S, e.afresh k d = .ok samples ∧
      samples.size = (max 1 hold).toNat + max amp.toNat mod.toNat := by
  obtain ⟨levels, hlevels, hlength⟩ := length_render hhold hamp
  obtain ⟨bends, hbends, hlength'⟩ := length_render hhold hmod
  refine ⟨_, by rw [afresh, hget, Except.ok_bind, tone, hlevels, Except.ok_bind, hbends]; rfl, ?_⟩
  simp only [List.size_toArray, List.length_map, List.length_zipIdx, List.length_zipWith, padded,
    List.length_append, List.length_replicate]
  omega

/-! ## §2 Places for tones -/

/-- The tone of a key as it is heard. -/
def answer (e : Engine R) (cache : Cache S) (key : Int) (duration : R) : Except Fault (Array S) :=
  (e.key key duration cache).map Prod.fst

/-- Durations that agree to four places. -/
def Agree (d d' : R) : Prop :=
  ∃ p q : ℚ, Scalar.reading d = .finite p ∧ Scalar.reading d' = .finite q ∧
    roundHalfEven (p * 10000) = roundHalfEven (q * 10000)

/-- The tone that is kept at a place. -/
def stored (tones : List ((Int × Int) × Array S)) (slot : Option (Int × Int)) : Option (Array S) :=
  (tones.find? fun entry => some entry.1 == slot).map Prod.snd

theorem Agree.symm {d d' : R} (h : Agree d d') : Agree d' d := by
  obtain ⟨p, q, hp, hq, hsame⟩ := h
  exact ⟨q, p, hq, hp, hsame.symm⟩

theorem Agree.trans {d d' d'' : R} (h : Agree d d') (h' : Agree d' d'') : Agree d d'' := by
  obtain ⟨p, q, hp, hq, hsame⟩ := h
  obtain ⟨q', r, hq', hr, hsame'⟩ := h'
  cases hq.symm.trans hq'
  exact ⟨p, r, hp, hr, hsame.trans hsame'⟩

/-- Keys and durations share a place just if the keys are one and the durations agree. -/
theorem slot?_eq_some_iff {k k' : Int} {d d' : R} {slot : Int × Int} (hslot : slot? k d = some slot) :
    some slot = slot? k' d' ↔ k' = k ∧ Agree d d' := by
  unfold slot? at hslot ⊢
  cases hd : Scalar.reading d with
  | finite p =>
    rw [hd] at hslot
    cases hslot
    cases hd' : Scalar.reading d' with
    | finite q => simp [Agree, hd, hd', eq_comm]
    | infinite _ => simp [Agree, hd']
    | undefined => simp [Agree, hd']
  | infinite _ =>
    rw [hd] at hslot
    cases hslot
  | undefined =>
    rw [hd] at hslot
    cases hslot

@[simp] theorem stored_nil (slot : Option (Int × Int)) :
    stored ([] : List ((Int × Int) × Array S)) slot = none := rfl

@[simp] theorem stored_none (tones : List ((Int × Int) × Array S)) : stored tones none = none := by
  simp [stored]

theorem stored_cons (slot : Int × Int) (samples : Array S) (tones : List ((Int × Int) × Array S))
    (other : Option (Int × Int)) :
    stored ((slot, samples) :: tones) other =
      if some slot = other then some samples else stored tones other := by
  unfold stored
  rw [List.find?_cons]
  by_cases h : some slot = other
  · simp [h]
  · simp [h, beq_eq_false_iff_ne.mpr h]

/-- A tone is taken from its place, or made afresh and put there. -/
theorem key_of_has {k : Int} (hk : e.layout.has k) (d : R) (tones : List ((Int × Int) × Array S)) :
    e.key k d (some tones) =
      match stored tones (slot? k d) with
      | some samples => .ok (samples, some tones)
      | none => (e.afresh k d).map fun samples =>
          (samples, (slot? k d).elim (some tones) fun slot => some ((slot, samples) :: tones)) := by
  have hin : 0 ≤ k ∧ k < e.layout.size := hk
  simp only [key, if_pos hin, stored, afresh]
  cases tones.find? fun entry => some entry.1 == slot? k d with
  | some entry => rfl
  | none =>
    cases e.layout.get k with
    | error fault => rfl
    | ok key =>
      show (e.tone key.frequency d >>= fun samples => pure (samples, _)) =
        (e.tone key.frequency d).map _
      cases (e.tone key.frequency d : Except Fault (Array S)) <;> rfl

/-- What is heard of a key is kept, or made afresh. -/
theorem answer_of_has {k : Int} (hk : e.layout.has k) (d : R)
    (tones : List ((Int × Int) × Array S)) :
    e.answer (some tones) k d = (stored tones (slot? k d)).elim (e.afresh k d) .ok := by
  rw [answer, key_of_has hk]
  cases stored tones (slot? k d) with
  | some samples => rfl
  | none => cases (e.afresh k d : Except Fault (Array S)) <;> rfl

/-- Nothing is heard of a key that there is not. -/
theorem answer_of_not_has {k : Int} (hk : ¬ e.layout.has k) (d : R)
    (tones : List ((Int × Int) × Array S)) :
    e.answer (some tones) k d = .error (.keyMissing k e.layout.name) := by
  have hout : ¬ (0 ≤ k ∧ k < e.layout.size) := hk
  rw [answer, key, if_neg hout]
  rfl

/-- What is heard of a key is made if it is asked for. -/
theorem exists_key_of_answer {k : Int} {d : R} {cache : Cache S} {samples : Array S}
    (h : e.answer cache k d = .ok samples) : ∃ cache', e.key k d cache = .ok (samples, cache') := by
  cases hkey : e.key k d cache with
  | error fault =>
    rw [answer, hkey] at h
    cases h
  | ok made =>
    rw [answer, hkey] at h
    cases h
    exact ⟨made.2, rfl⟩

/-- A tone that is made is kept at its place from then on, if it has one, and nothing else is. -/
theorem stored_of_key {k : Int} {d : R} {cache cache' : Cache S} {samples : Array S}
    (h : e.key k d cache = .ok (samples, cache')) :
    e.layout.has k ∧ ∃ tones tones', cache = some tones ∧ cache' = some tones' ∧
      ∀ place : Int × Int, stored tones' (some place) =
        if slot? k d = some place then some samples else stored tones (some place) := by
  cases cache with
  | none => cases h
  | some tones =>
    have hk : e.layout.has k := by
      by_contra hout
      have hnone := answer_of_not_has (e := e) hout d tones
      rw [answer, h] at hnone
      cases hnone
    refine ⟨hk, tones, ?_⟩
    rw [key_of_has hk] at h
    cases hstored : stored tones (slot? k d) with
    | some kept =>
      rw [hstored] at h
      cases h
      refine ⟨tones, rfl, rfl, fun place => ?_⟩
      split
      · rename_i hplace
        rw [← hplace, hstored]
      · rfl
    | none =>
      rw [hstored] at h
      cases hfresh : (e.afresh k d : Except Fault (Array S)) with
      | error fault =>
        rw [hfresh] at h
        cases h
      | ok made =>
        rw [hfresh] at h
        cases h
        cases slot? k d with
        | none => exact ⟨tones, rfl, rfl, fun place => rfl⟩
        | some slot => exact ⟨_, rfl, rfl, fun place => stored_cons slot samples tones (some place)⟩

/-- **What making one tone changes**: it is heard from then on of its key for all durations that
agree, and everything else is heard as before. -/
theorem answer_of_key {k : Int} {d : R} {cache cache' : Cache S} {samples : Array S}
    (h : e.key k d cache = .ok (samples, cache')) (k' : Int) (d' : R) :
    (k' = k ∧ Agree d d' → e.answer cache' k' d' = .ok samples) ∧
      (¬ (k' = k ∧ Agree d d') → e.answer cache' k' d' = e.answer cache k' d') := by
  obtain ⟨hk, tones, tones', rfl, rfl, hstored⟩ := stored_of_key h
  by_cases hk' : e.layout.has k'
  · rw [answer_of_has hk', answer_of_has hk']
    cases hslot' : slot? k' d' with
    | none =>
      rw [stored_none, stored_none]
      refine ⟨fun ⟨_, p, q, _, hq, _⟩ => ?_, fun _ => rfl⟩
      rw [slot?, hq] at hslot'
      cases hslot'
    | some place =>
      have hsame : slot? k d = some place ↔ k = k' ∧ Agree d' d := by
        rw [← slot?_eq_some_iff hslot', eq_comm]
      rw [hstored]
      refine ⟨fun ⟨hkey, hagree⟩ => ?_, fun hother => ?_⟩
      · rw [if_pos (hsame.mpr ⟨hkey.symm, hagree.symm⟩)]
        rfl
      · rw [if_neg fun h => hother ⟨(hsame.mp h).1.symm, (hsame.mp h).2.symm⟩]
  · refine ⟨fun hsame => absurd (hsame.1 ▸ hk) hk', fun _ => ?_⟩
    rw [answer_of_not_has hk', answer_of_not_has hk']

/-! ## §3 One tone after another -/

/-- An engine makes one tone, of a key and a duration of some. -/
def Makes (e : Engine R) (asked : Int → R → Prop) (cache cache' : Cache S) : Prop :=
  ∃ k d samples, asked k d ∧ e.key k d cache = .ok (samples, cache')

/-- An engine makes one tone after another. -/
abbrev Fills (e : Engine R) (asked : Int → R → Prop) : Cache S → Cache S → Prop :=
  Relation.ReflTransGen (e.Makes asked)

theorem Fills.mono {asked asked' : Int → R → Prop} {cache cache' : Cache S}
    (h : e.Fills asked cache cache') (hasked : ∀ k d, asked k d → asked' k d) :
    e.Fills asked' cache cache' :=
  Relation.ReflTransGen.mono (fun _ _ ⟨k, d, samples, hask, hkey⟩ =>
    ⟨k, d, samples, hasked k d hask, hkey⟩) _ _ h

/-- An engine that is ready stays ready. -/
theorem Fills.exists_tones {asked : Int → R → Prop} {tones : List ((Int × Int) × Array S)}
    {cache : Cache S} (h : e.Fills asked (some tones) cache) : ∃ tones', cache = some tones' := by
  induction h with
  | refl => exact ⟨tones, rfl⟩
  | tail _ hmakes _ =>
    obtain ⟨k, d, samples, -, hkey⟩ := hmakes
    obtain ⟨-, -, tones', -, htones', -⟩ := stored_of_key hkey
    exact ⟨tones', htones'⟩

/-! ## §4 What is heard of a key -/

variable {asked : Int → R → Prop} {cache cache' : Cache S} {k : Int} {d : R} {samples : Array S}

/-- **Each tone that is heard was made for a duration that was asked for**, now or before, and that
agrees with the one asked for now. -/
theorem origin_of_answer (hfills : e.Fills asked (some []) cache) (hk : e.layout.has k)
    (h : e.answer cache k d = .ok samples) :
    ∃ d', (d' = d ∨ asked k d' ∧ Agree d d') ∧ e.afresh k d' = .ok samples := by
  induction hfills generalizing k d samples with
  | refl =>
    rw [answer_of_has hk] at h
    exact ⟨d, .inl rfl, h⟩
  | @tail before after _ hmakes ih =>
    obtain ⟨k₀, d₀, made, hasked, hkey⟩ := hmakes
    obtain ⟨hsame, hother⟩ := answer_of_key hkey k d
    by_cases hagree : k = k₀ ∧ Agree d₀ d
    · obtain ⟨rfl, hagree⟩ := hagree
      rw [hsame ⟨rfl, hagree⟩] at h
      cases h
      -- The tone was heard when it was made, so it has an origin already
      obtain ⟨d', horigin, hfresh⟩ := ih hk (congrArg (Except.map Prod.fst) hkey)
      refine ⟨d', .inr ?_, hfresh⟩
      rcases horigin with rfl | ⟨hasked', hagree'⟩
      · exact ⟨hasked, hagree.symm⟩
      · exact ⟨hasked', hagree.symm.trans hagree'⟩
    · rw [hother hagree] at h
      obtain ⟨d', horigin, hfresh⟩ := ih hk h
      exact ⟨d', horigin, hfresh⟩

/-- **It is the very tone that was asked for, if each other that agrees is the same tone.** -/
theorem answer_eq_afresh (hfills : e.Fills asked (some []) cache) (hk : e.layout.has k)
    (hsole : ∀ d', asked k d' → Agree d d' →
      (e.afresh k d' : Except Fault (Array S)) = e.afresh k d) :
    e.answer cache k d = e.afresh k d := by
  induction hfills generalizing d with
  | refl => rw [answer_of_has hk, stored_nil, Option.elim_none]
  | tail _ hmakes ih =>
    obtain ⟨k₀, d₀, made, hasked, hkey⟩ := hmakes
    obtain ⟨hsame, hother⟩ := answer_of_key hkey k d
    by_cases hagree : k = k₀ ∧ Agree d₀ d
    · obtain ⟨rfl, hagree⟩ := hagree
      -- What was made is the tone of a duration that agrees, and so are all that agree with it
      have hfirst := hsole d₀ hasked hagree.symm
      have hmade := ih fun d' hasked' hagree' =>
        (hsole d' hasked' (hagree.symm.trans hagree')).trans hfirst.symm
      rw [hsame ⟨rfl, hagree⟩, ← hfirst, ← hmade]
      exact (congrArg (Except.map Prod.fst) hkey).symm
    · rw [hother hagree, ih hsole]

/-- A tone that is heard for all durations that agree is heard for them ever after. -/
theorem answer_of_fills (hfills : e.Fills asked cache cache')
    (h : ∀ d', Agree d d' → e.answer cache k d' = .ok samples) :
    ∀ d', Agree d d' → e.answer cache' k d' = .ok samples := by
  induction hfills with
  | refl => exact h
  | tail _ hmakes ih =>
    obtain ⟨k₀, d₀, made, -, hkey⟩ := hmakes
    intro d' hd'
    obtain ⟨hsame, hother⟩ := answer_of_key hkey k d'
    by_cases hagree : k = k₀ ∧ Agree d₀ d'
    · obtain ⟨rfl, hagree⟩ := hagree
      -- What is made there is what is heard there
      have hmade : e.answer _ k d₀ = .ok made := congrArg (Except.map Prod.fst) hkey
      rw [ih d₀ (hd'.trans hagree.symm)] at hmade
      rw [hsame ⟨rfl, hagree⟩, hmade]
    · rw [hother hagree]
      exact ih d' hd'

/-! ## §5 Requests -/

theorem fills_key (k : Int) (d : R) (cache : Cache S) :
    e.Fills (fun k' d' => k' = k ∧ d' = d) cache
      (((e.key k d cache).map Prod.snd).toOption.getD cache) := by
  cases h : e.key k d cache with
  | error fault => exact .refl
  | ok made => exact .single ⟨k, d, made.1, ⟨rfl, rfl⟩, h⟩

/-- Keys are made audible one by one. -/
theorem fills_keys (ks : List Int) (d : R) (cache : Cache S) :
    e.Fills (fun k' d' => k' ∈ ks ∧ d' = d) cache (e.keys d ks cache).2 := by
  induction ks generalizing cache with
  | nil => exact .refl
  | cons k rest ih =>
    rw [keys]
    cases h : e.key k d cache with
    | error fault => exact .refl
    | ok made =>
      obtain ⟨samples, cache'⟩ := made
      have hrest : e.Fills (fun k' d' => k' ∈ k :: rest ∧ d' = d) cache' (e.keys d rest cache').2 :=
        (ih cache').mono fun k' d' ⟨hk, hd⟩ => ⟨List.mem_cons_of_mem k hk, hd⟩
      have hfills := Relation.ReflTransGen.head ⟨k, d, samples, ⟨List.mem_cons_self, rfl⟩, h⟩ hrest
      dsimp only
      split <;> rename_i hkeys <;> rwa [hkeys] at hfills

/-- What an engine is asked for. -/
inductive Request (R : Type) [Scalar R] where
  | note (key : Int) (duration : R)
  | chord (keys : List Int) (duration : R)
  | song (song : Song R)

/-- Whether a request asks for a key and a duration. -/
def Request.Asks : Request R → Int → R → Prop
  | .note key duration, k, d => k = key ∧ d = duration
  | .chord keys duration, k, d => k ∈ keys ∧ d = duration
  | .song s, k, d => ∃ n ∈ s.notes, n.key = k ∧ n.duration = d

/-- Whether some of the requests asks for a key and a duration. -/
def Asked (requests : List (Request R)) (k : Int) (d : R) : Prop := ∃ r ∈ requests, r.Asks k d

variable [Scalar S]

/-- The tones that are kept after a request, also if it has failed. -/
def serve (e : Engine R) (cache : Cache S) : Request R → Cache S
  | .note key duration => ((e.key key duration cache).map Prod.snd).toOption.getD cache
  | .chord keys duration => (e.chord keys duration cache).2
  | .song song => (e.song song cache).2

/-- The tones that are kept after requests to an engine that was made ready. -/
def after (e : Engine R) (requests : List (Request R)) : Cache S :=
  requests.foldl e.serve (some [])

/-- So are the notes of a song. -/
theorem fills_addNotes (notes : List (Note R)) (out : Array S) (cache : Cache S) :
    e.Fills (fun k d => ∃ n ∈ notes, n.key = k ∧ n.duration = d) cache
      (e.addNotes notes out cache).2 := by
  induction notes generalizing out cache with
  | nil => exact .refl
  | cons n rest ih =>
    have hlater : ∀ k d, (∃ m ∈ rest, m.key = k ∧ m.duration = d) →
        ∃ m ∈ n :: rest, m.key = k ∧ m.duration = d :=
      fun k d ⟨m, hm, hsame⟩ => ⟨m, List.mem_cons_of_mem n hm, hsame⟩
    rw [addNotes]
    split
    · exact (ih out cache).mono hlater
    · cases h : e.key n.key n.duration cache with
      | error fault => exact .refl
      | ok made =>
        obtain ⟨samples, cache'⟩ := made
        have hmade : e.Makes (fun k d => ∃ m ∈ n :: rest, m.key = k ∧ m.duration = d) cache cache' :=
          ⟨n.key, n.duration, samples, ⟨n, List.mem_cons_self, rfl, rfl⟩, h⟩
        dsimp only
        split
        · exact .single hmade
        · exact .head hmade ((ih _ cache').mono hlater)

/-- **Whatever an engine is asked for, it makes one tone after another.** -/
theorem fills_serve (r : Request R) (cache : Cache S) : e.Fills r.Asks cache (e.serve cache r) := by
  cases r with
  | note key duration => exact fills_key key duration cache
  | chord keys duration =>
    have hkeys := fills_keys (e := e) keys duration cache
    rw [serve, chord]
    split <;> rename_i h <;> rw [h] at hkeys <;> exact hkeys
  | song song =>
    rw [serve, Engine.song]
    split
    · exact .refl
    · split
      · exact .refl
      · rename_i length _
        have hnotes := fills_addNotes (e := e) song.notes (silence length.toNat) cache
        split <;> rename_i h <;> rw [h] at hnotes <;> exact hnotes

theorem fills_foldl (requests : List (Request R)) (cache : Cache S) :
    e.Fills (Asked requests) cache (requests.foldl e.serve cache) := by
  induction requests generalizing cache with
  | nil => exact .refl
  | cons r rest ih =>
    have hfirst : e.Fills (Asked (r :: rest)) cache (e.serve cache r) :=
      (fills_serve r cache).mono fun k d h => ⟨r, List.mem_cons_self, h⟩
    exact hfirst.trans ((ih _).mono fun k d ⟨q, hq, h⟩ => ⟨q, List.mem_cons_of_mem r hq, h⟩)

/-- Caches of which the same is heard for all notes give the same mix. -/
theorem addNotes_congr {notes : List (Note R)} (out : Array S)
    (h : ∀ n ∈ notes, e.answer cache n.key n.duration = e.answer cache' n.key n.duration) :
    (e.addNotes notes out cache).1 = (e.addNotes notes out cache').1 := by
  induction notes generalizing out cache cache' with
  | nil => rfl
  | cons n rest ih =>
    obtain ⟨hn, hrest⟩ := List.forall_mem_cons.mp h
    rw [addNotes, addNotes]
    split
    · exact ih out hrest
    · cases hkey : e.key n.key n.duration cache with
      | error fault =>
        have hkey' : e.key n.key n.duration cache' = .error fault := by
          rw [answer, hkey, answer] at hn
          exact Except.map_eq_error.mp hn.symm
        rw [hkey']
      | ok made =>
        cases hkey' : e.key n.key n.duration cache' with
        | error fault =>
          rw [answer, answer, hkey, hkey'] at hn
          cases hn
        | ok made' =>
          obtain ⟨samples, left⟩ := made
          obtain ⟨samples', left'⟩ := made'
          rw [answer, answer, hkey, hkey'] at hn
          cases hn
          dsimp only
          split
          · rfl
          · -- Both have put the same tone to the same place
            refine ih _ fun m hm => ?_
            obtain ⟨hsame, hother⟩ := answer_of_key hkey m.key m.duration
            obtain ⟨hsame', hother'⟩ := answer_of_key hkey' m.key m.duration
            by_cases hagree : m.key = n.key ∧ Agree n.duration m.duration
            · rw [hsame hagree, hsame' hagree]
            · rw [hother hagree, hother' hagree, hrest m hm]

/-- So they give the same song. -/
theorem song_congr {song : Song R} {tones tones' : List ((Int × Int) × Array S)}
    (hcache : cache = some tones) (hcache' : cache' = some tones')
    (h : ∀ n ∈ song.notes, e.answer cache n.key n.duration = e.answer cache' n.key n.duration) :
    (e.song song cache).1 = (e.song song cache').1 := by
  have hmix (length : Int) := addNotes_congr (silence length.toNat) h
  rw [hcache, hcache'] at hmix ⊢
  rw [Engine.song, Engine.song]
  simp only [Option.isNone_some, Bool.false_eq_true, if_false]
  cases e.lengthOf song with
  | error fault => rfl
  | ok length =>
    have hsame := hmix length
    dsimp only
    rcases hone : e.addNotes song.notes (silence length.toNat) (some tones) with ⟨result, left⟩
    rcases hother : e.addNotes song.notes (silence length.toNat) (some tones') with ⟨result', left'⟩
    rw [hone, hother] at hsame
    cases hsame
    cases result <;> rfl

theorem after_note {requests later : List (Request R)} {k : Int} {d : R} {samples : Array S}
    (h : e.key k d (e.after requests) = .ok (samples, cache)) :
    e.after (requests ++ .note k d :: later) = later.foldl e.serve cache := by
  rw [after, List.foldl_append, List.foldl_cons, ← after, serve, h]
  rfl

/-- **What is heard after any requests.** A tone of a key is always one that is made for a duration
which was asked for, now or before, and which agrees with the one asked for now; it is exactly the one
asked for, or the same fault, if each earlier duration that agrees is the same tone afresh. Once it was
heard it is heard for all durations that agree, whatever else is asked for. So a song sounds as it does
to an engine that was asked for nothing before, if that is so for each of its notes. -/
theorem answers_after_requests (e : Engine R) (requests : List (Request R)) (k : Int) (d : R)
    (hk : e.layout.has k) :
    (∀ samples : Array S, e.answer (e.after requests) k d = .ok samples →
      ∃ d', (d' = d ∨ Asked requests k d' ∧ Agree d d') ∧ e.afresh k d' = .ok samples) ∧
    ((∀ d', Asked requests k d' → Agree d d' →
        (e.afresh k d' : Except Fault (Array S)) = e.afresh k d) →
      (e.answer (e.after requests) k d : Except Fault (Array S)) = e.afresh k d) ∧
    (∀ samples : Array S, e.answer (e.after requests) k d = .ok samples →
      ∀ later d', Agree d d' →
        e.answer (e.after (requests ++ .note k d :: later)) k d' = .ok samples) ∧
    ∀ song : Song R, (∀ n ∈ song.notes, e.layout.has n.key →
        ∀ d', Asked requests n.key d' → Agree n.duration d' →
          (e.afresh n.key d' : Except Fault (Array S)) = e.afresh n.key n.duration) →
      (e.song song (e.after requests)).1 =
        ((e.song song (some [])).1 : Except Fault (Array S)) := by
  have hfills : e.Fills (Asked requests) (some []) (e.after requests : Cache S) :=
    fills_foldl requests (some [])
  refine ⟨fun samples h => origin_of_answer hfills hk h, fun h => answer_eq_afresh hfills hk h,
    fun samples h later d' hagree => ?_, fun song hsole => ?_⟩
  · obtain ⟨cache, hkey⟩ := exists_key_of_answer h
    rw [after_note hkey]
    exact answer_of_fills (fills_foldl later cache)
      (fun d'' h => (answer_of_key hkey k d'').1 ⟨rfl, h⟩) d' hagree
  · obtain ⟨tones, htones⟩ := hfills.exists_tones
    refine song_congr htones rfl fun n hn => ?_
    by_cases hkey : e.layout.has n.key
    · rw [answer_eq_afresh hfills hkey (hsole n hn hkey), answer_of_has hkey, stored_nil,
        Option.elim_none]
    · rw [htones, answer_of_not_has hkey, answer_of_not_has hkey]

/-- A tone of half a second, asked for a little longer after it was made. -/
theorem answers_after_request_of_half_second :
    let e : Engine Float := ⟨Session.soleKey, 22050, 0.3⟩
    let requests : List (Request Float) := [.note 0 0.5]
    Agree (0.50001 : Float) 0.5 ∧
      (e.answer (e.after requests) 0 0.50001 : Except Fault (Array Float32)) =
        e.afresh 0 0.50001 := by
  intro e requests
  have hagree : Agree (0.50001 : Float) 0.5 := by
    have hslot : slot? 0 (0.50001 : Float) = some (0, 5000) := by decide +kernel
    exact ((slot?_eq_some_iff hslot).mp (by decide +kernel : _ = slot? 0 (0.5 : Float))).2
  refine ⟨hagree, (answers_after_requests e requests 0 0.50001 (by decide)).2.1 ?_⟩
  rintro d' ⟨r, hr, hasks⟩ -
  obtain rfl := List.mem_singleton.mp hr
  rw [hasks.2]
  exact afresh_congr (by decide +kernel)

/-- Two durations that agree, by which a tone is held for one sample more or less. -/
theorem agreeing_durations_share_tone :
    let e : Engine Float := ⟨Session.soleKey, 22050, 0.3⟩
    let requests : List (Request Float) := [.note 0 0.50001]
    ∃ short long : Array Float32, e.answer (e.after requests) 0 0.50003 = .ok short ∧
      e.afresh 0 0.50003 = .ok long ∧ short.size = 28665 ∧ long.size = 28666 := by
  intro e requests
  have hamp : Envelope.count (amplitude (R := Float)).release e.rate = .ok 17640 := by
    decide +kernel
  have hmod : Envelope.count (modulation (R := Float)).release e.rate = .ok 8820 := by
    decide +kernel
  have hshort : Envelope.count (0.50001 : Float) e.rate = .ok 11025 := by decide +kernel
  have hlong : Envelope.count (0.50003 : Float) e.rate = .ok 11026 := by decide +kernel
  obtain ⟨short, hfirst, hsize⟩ := size_afresh (e := e) (S := Float32) (k := 0) rfl hshort hamp hmod
  obtain ⟨long, hfresh, hsize'⟩ := size_afresh (e := e) (S := Float32) (k := 0) rfl hlong hamp hmod
  refine ⟨short, long, ?_, hfresh, hsize, hsize'⟩
  have hagree : Agree (0.50001 : Float) 0.50003 := by
    have hslot : slot? 0 (0.50001 : Float) = some (0, 5000) := by decide +kernel
    exact ((slot?_eq_some_iff hslot).mp (by decide +kernel : _ = slot? 0 (0.50003 : Float))).2
  have hheard : e.answer (some []) 0 0.50001 = .ok short := by
    rw [answer_of_has (by decide), stored_nil, Option.elim_none, hfirst]
  obtain ⟨cache, hkey⟩ := exists_key_of_answer hheard
  have hnone : e.key 0 0.50001 (e.after []) = .ok (short, cache) := hkey
  have hafter : e.after ([] ++ .note 0 0.50001 :: []) = cache := after_note hnone
  rw [List.nil_append] at hafter
  rw [hafter]
  exact (answer_of_key hkey 0 0.50003).1 ⟨rfl, hagree⟩

end Lamella.Engine

namespace Lamella

/-! ## §6 Where there is room -/

namespace Room

/-- A count of samples that there is room for. -/
def Holds (count : Except Fault Int) : Prop := ∃ n, count = .ok n ∧ n < spacious

/-- What is made in room is what is made without a thought of it where some condition holds, and is
refused elsewhere. -/
structure Confines {α : Type} (held : Prop) (made free : Except Fault α) : Prop where
  eq_of_held : held → made = free
  exists_fault : ¬ held → ∃ fault, made = .error fault

theorem check_eq_ok {n : Int} : check n = .ok () ↔ n < spacious := by
  have hcountable : spacious ≤ countable := by decide
  unfold check
  split_ifs with hcount hspace
  · exact iff_of_false nofun (by omega)
  · exact iff_of_false nofun (by omega)
  · exact iff_of_true rfl (by omega)

/-- A count that was made passes the check just if there is room for it. -/
theorem bind_check_eq_ok {count : Except Fault Int} : (count >>= check) = .ok () ↔ Holds count := by
  rw [Except.bind_eq_ok]
  exact exists_congr fun n => and_congr_right fun _ => check_eq_ok

/-- A check before a computation confines it. -/
theorem confines_bind {α : Type} {held : Prop} {checked : Except Fault Unit} {free : Except Fault α}
    (h : checked = .ok () ↔ held) : Confines held (checked >>= fun _ => free) free where
  eq_of_held hheld := by rw [h.mpr hheld, Except.ok_bind]
  exists_fault hnot := by
    cases hchecked : checked with
    | error fault => exact ⟨fault, rfl⟩
    | ok u => exact absurd (h.mp hchecked) hnot

end Room

/-- **What is rendered in room is what is rendered**, where there is room for what is held and for
the release. -/
theorem Envelope.confines_renderInRoom {R : Type} [Scalar R] (e : Envelope R) (hold : R)
    (rate : Int) : Room.Confines (Room.Holds (count hold rate) ∧ Room.Holds (count e.release rate))
      (e.renderInRoom hold rate) (e.render hold rate) := by
  have hchecks : ((count hold rate >>= Room.check) >>= fun _ => count e.release rate >>= Room.check)
      = .ok () ↔ Room.Holds (count hold rate) ∧ Room.Holds (count e.release rate) := by
    rw [Except.bind_eq_ok, ← Room.bind_check_eq_ok, ← Room.bind_check_eq_ok]
    exact ⟨fun ⟨_, h⟩ => h, fun h => ⟨(), h⟩⟩
  have hmade : Room.Confines _ (_ >>= fun _ => e.render hold rate) _ := Room.confines_bind hchecks
  simp only [bind_assoc] at hmade
  exact hmade

namespace Engine

variable {R S : Type} [Analytic R] {e : Engine R} {cache : Cache S}

theorem checkTone_eq_ok {k : Int} {d : R} : e.checkTone k d cache = .ok () ↔
    (cache.isSome → e.layout.has k → Room.Holds (Envelope.count d e.rate)) := by
  unfold checkTone
  split_ifs with hstruck
  · simp only [Bool.and_eq_true, decide_eq_true_eq] at hstruck
    rw [Room.bind_check_eq_ok]
    exact ⟨fun h _ _ => h, fun h => h hstruck.1 hstruck.2⟩
  · simp only [Bool.and_eq_true, decide_eq_true_eq] at hstruck
    exact iff_of_true rfl fun hready hhas => absurd ⟨hready, hhas⟩ hstruck

variable [Sample R S]

/-- **A key sounds in room as it does**, where there is room for its tone. -/
theorem confines_keyInRoom (e : Engine R) (k : Int) (d : R) (cache : Cache S) :
    Room.Confines (cache.isSome → e.layout.has k → Room.Holds (Envelope.count d e.rate))
      (e.keyInRoom k d cache) (e.key k d cache) :=
  Room.confines_bind checkTone_eq_ok

variable [Scalar S]

/-- **So do several keys**, where there is room for the tone of the first. A chord that is refused
for want of room makes no tone. -/
theorem confines_chordInRoom (e : Engine R) (ks : List Int) (d : R) (cache : Cache S) :
    Room.Confines (∀ k ∈ ks.head?, cache.isSome → e.layout.has k →
        Room.Holds (Envelope.count d e.rate))
      (e.chordInRoom ks d cache).1 (e.chord ks d cache).1 ∧
    (e.chordInRoom ks d cache = e.chord ks d cache ∨ (e.chordInRoom ks d cache).2 = cache) := by
  have hchecks : ((ks.take 1).forM fun k => e.checkTone k d cache) = .ok () ↔
      ∀ k ∈ ks.head?, cache.isSome → e.layout.has k → Room.Holds (Envelope.count d e.rate) := by
    cases ks with
    | nil => exact iff_of_true rfl nofun
    | cons k ks =>
      show e.checkTone k d cache >>= pure = .ok () ↔ _
      simp only [bind_pure, List.head?_cons, Option.mem_some_iff, forall_eq', checkTone_eq_ok]
  unfold chordInRoom
  cases hchecked : (ks.take 1).forM fun k => e.checkTone k d cache with
  | error fault =>
    have hnot := mt hchecks.mpr (by rw [hchecked]; nofun)
    exact ⟨⟨fun hheld => absurd hheld hnot, fun _ => ⟨fault, rfl⟩⟩, .inr rfl⟩
  | ok u => exact ⟨⟨fun _ => rfl, fun hnot => absurd (hchecks.mp hchecked) hnot⟩, .inl rfl⟩

/-- A song whose length, places and tones there is room for. -/
structure HasRoom (e : Engine R) (song : Song R) : Prop where
  length : Room.Holds (e.lengthOf song)
  tone : ∀ n ∈ song.notes, n.key < e.layout.size → Room.Holds (Envelope.count n.duration e.rate)
  place : ∀ n ∈ song.notes, n.key < e.layout.size → Room.Holds (Envelope.count n.time e.rate)

/-- A song that there is room for is refused for a key below the first one only. -/
theorem HasRoom.of_checkSong {song : Song R} (h : e.HasRoom song) {fault : Fault}
    (hrefused : e.checkSong song = .error fault) : ∃ k, fault = .keyMissing k e.layout.name := by
  have hlength : (e.lengthOf song >>= Room.check) = .ok () := Room.bind_check_eq_ok.mpr h.length
  unfold checkSong at hrefused
  rw [← bind_assoc, hlength, Except.ok_bind] at hrefused
  obtain ⟨n, hn, hnote⟩ := Except.forM_eq_error hrefused
  by_cases hbelow : n.key < 0
  · rw [if_pos hbelow] at hnote
    cases hnote
    exact ⟨n.key, rfl⟩
  · rw [if_neg hbelow] at hnote
    dsimp only at hnote
    split_ifs at hnote with hstruck
    · have htone : (Envelope.count n.duration e.rate >>= Room.check) = .ok () :=
        Room.bind_check_eq_ok.mpr (h.tone n hn hstruck)
      have hplace : (Envelope.count n.time e.rate >>= Room.check) = .ok () :=
        Room.bind_check_eq_ok.mpr (h.place n hn hstruck)
      rw [← bind_assoc, htone, Except.ok_bind, hplace] at hnote
      cases hnote
    · cases hnote

/-- **A song is heard in room as it is**, if there is room for it. Another one is refused for want
of room, if it is not heard as it is, and makes no tone. -/
theorem songInRoom_cases (e : Engine R) (song : Song R) (cache : Cache S) :
    e.songInRoom song cache = e.song song cache ∨
    ¬ e.HasRoom song ∧ (e.songInRoom song cache).2 = cache ∧
      ((e.songInRoom song cache).1 = .error .tooManySamples ∨
        (e.songInRoom song cache).1 = .error .noRoom) := by
  unfold songInRoom
  split
  · rename_i hrefused
    refine .inr ⟨fun hroom => ?_, rfl, .inl rfl⟩
    obtain ⟨k, hk⟩ := hroom.of_checkSong hrefused
    cases hk
  · rename_i hrefused
    refine .inr ⟨fun hroom => ?_, rfl, .inr rfl⟩
    obtain ⟨k, hk⟩ := hroom.of_checkSong hrefused
    cases hk
  · exact .inl rfl

/-- The tones that are kept after a request that is served in room. -/
def serveInRoom (e : Engine R) (cache : Cache S) : Request R → Cache S
  | .note key duration => ((e.keyInRoom key duration cache).map Prod.snd).toOption.getD cache
  | .chord keys duration => (e.chordInRoom keys duration cache).2
  | .song song => (e.songInRoom song cache).2

/-- **Served in room, a request keeps the tones that it keeps, or no other ones.** -/
theorem serveInRoom_eq_or (e : Engine R) (cache : Cache S) (r : Request R) :
    e.serveInRoom cache r = e.serve cache r ∨ e.serveInRoom cache r = cache := by
  cases r with
  | note key duration =>
    obtain ⟨hheld, hnot⟩ := e.confines_keyInRoom key duration cache
    by_cases h : cache.isSome → e.layout.has key → Room.Holds (Envelope.count duration e.rate)
    · exact .inl (by rw [serveInRoom, hheld h, serve])
    · obtain ⟨fault, hfault⟩ := hnot h
      exact .inr (by rw [serveInRoom, hfault]; rfl)
  | chord keys duration =>
    exact (e.confines_chordInRoom keys duration cache).2.imp_left (congrArg Prod.snd)
  | song song =>
    exact (e.songInRoom_cases song cache).imp (congrArg Prod.snd) fun h => h.2.1

/-- So the tones that are kept are those of requests, whatever there was no room for. -/
theorem fills_serveInRoom (requests : List (Request R)) (cache : Cache S) :
    e.Fills (Asked requests) cache (requests.foldl e.serveInRoom cache) := by
  induction requests generalizing cache with
  | nil => exact .refl
  | cons r rest ih =>
    have hlater : e.Fills (Asked (r :: rest)) (e.serveInRoom cache r)
        (rest.foldl e.serveInRoom (e.serveInRoom cache r)) :=
      (ih _).mono fun k d ⟨r', hr', h⟩ => ⟨r', List.mem_cons_of_mem r hr', h⟩
    rw [List.foldl_cons]
    rcases e.serveInRoom_eq_or cache r with hserved | hkept
    · have hfirst : e.Fills (Asked (r :: rest)) cache (e.serveInRoom cache r) :=
        hserved ▸ (fills_serve r cache).mono fun k d h => ⟨r, List.mem_cons_self, h⟩
      exact hfirst.trans hlater
    · rw [hkept] at hlater ⊢
      exact hlater

end Engine

end Lamella
