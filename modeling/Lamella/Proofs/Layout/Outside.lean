import Lamella.Midi.Basic
import Lamella.Proofs.Result
import Lamella.Proofs.Session.Bookkeeping
import Lamella.Proofs.Song.Owning
import Lamella.Synth.Engine

/-!
# Keys outside a layout

A note may name a key that a layout does not have, as songs are made for instruments of many sizes.
Judging, export and sound each leave out the keys beyond the end of the layout, as if a song had no
such notes. None of them looks for the other end of the row. Below zero a key is looked up like any
other, and then it is counted from the end: judging and export take it for another key or fail, and
sound always fails.

## Main definitions

- `Layout.kept`: the notes that are not beyond the end of a layout.
- `Layout.counted`: the index that an index means when it is looked up.

## Main statements

- `Session.judge_kept`, `Midi.ofSong_within`, `Engine.song_within`: what is beyond the end is left
  out.
- `Layout.get_counted`: what is below zero is counted from the end.
-/

namespace Lamella

open Work

/-! ## §1 Indices -/

namespace Layout

variable {F : Type} (l : Layout F)

/-- Whether an index is beyond the end of a layout. -/
def isBeyond (index : Int) : Bool := decide ((l.size : Int) ≤ index)

/-- The index that an index means when it is looked up: one below zero is counted from the end. -/
def counted (index : Int) : Int :=
  if -(l.size : Int) ≤ index ∧ index < 0 then l.size + index else index

theorem isBeyond_counted (index : Int) : l.isBeyond (l.counted index) = l.isBeyond index := by
  unfold isBeyond counted
  split
  · exact decide_eq_decide.mpr (by omega)
  · rfl

/-- Looking up an index is looking up what it means. -/
theorem get_counted (index : Int) : l.get (l.counted index) = l.get index := by
  unfold counted
  split
  · rename_i h
    have hsum : 0 ≤ (l.size : Int) + index := by omega
    have hneg : ¬ 0 ≤ index := by omega
    simp only [get, at?, if_pos hsum, if_neg hneg, if_pos h.1]
  · rfl

/-- What is too far below zero cannot be looked up. -/
theorem get_below {index : Int} (h : index < -(l.size : Int)) :
    l.get index = .error .outOfRange := by
  have hneg : ¬ 0 ≤ index := by omega
  have hfar : ¬ -(l.size : Int) ≤ index := by omega
  simp only [get, at?, if_neg hneg, if_neg hfar]

/-- An index that is not beyond the end and can be looked up means one of the row. -/
theorem has_counted {index : Int} {k : Key F} (hbeyond : l.isBeyond index = false)
    (hget : l.get index = .ok k) : l.has (l.counted index) := by
  have hfar : ¬ index < -(l.size : Int) := fun h => by
    rw [l.get_below h] at hget
    cases hget
  simp only [isBeyond, decide_eq_false_iff_not] at hbeyond
  unfold has counted
  split <;> omega

variable {R : Type} [Scalar R]

/-- The notes that are not beyond the end of a layout. -/
def kept (notes : List (Note R)) : List (Note R) := notes.filter fun n => !l.isBeyond n.key

/-- How many notes are beyond the end of a layout. -/
def beyond (notes : List (Note R)) : Nat := notes.countP fun n => l.isBeyond n.key

variable {l} {n : Note R}

theorem kept_cons_of_beyond (h : l.isBeyond n.key = true) (rest : List (Note R)) :
    l.kept (n :: rest) = l.kept rest :=
  List.filter_cons_of_neg (by simp [h])

theorem kept_cons_of_not (h : l.isBeyond n.key = false) (rest : List (Note R)) :
    l.kept (n :: rest) = n :: l.kept rest :=
  List.filter_cons_of_pos (by simp [h])

end Layout

namespace Song

variable {F R : Type} [Scalar R]

/-- A song without its notes beyond the end of a layout. -/
def within (layout : Layout F) (s : Song R) : Song R :=
  { s with notes := layout.kept s.notes }

/-- A song with its keys as a layout looks them up. -/
def counted (layout : Layout F) (s : Song R) : Song R :=
  { s with notes := s.notes.map fun n => { n with key := layout.counted n.key } }

end Song

/-! ## §2 Judging -/

namespace Session

variable {F R : Type} [Analytic F] [Scalar R] {c : Setup F R} {pitch : HeardPitch F} {n : Note R}
  {notes : List (Note R)} {s : Session F R}

theorem centsWithin_of_beyond (h : c.layout.isBeyond n.key = true) :
    centsWithin c pitch n = .ok none :=
  if_pos (of_decide_eq_true h)

theorem centsWithin_of_not (h : c.layout.isBeyond n.key = false) :
    centsWithin c pitch n = (do
      let key ← c.layout.get n.key
      let cents ← Pitch.cents pitch.frequency key.frequency
      return if c.settings.tolerance < Scalar.abs cents then none else some cents) :=
  if_neg (of_decide_eq_false h)

/-- Notes beyond the end of the layout make no difference to which note is hit. -/
theorem firstHit_kept (now : R) :
    firstHit c now pitch (c.layout.kept notes) = firstHit c now pitch notes := by
  induction notes with
  | nil => rfl
  | cons n rest ih =>
    cases hbeyond : c.layout.isBeyond n.key with
    | true =>
      rw [Layout.kept_cons_of_beyond hbeyond, ih, firstHit, centsWithin_of_beyond hbeyond]
      rfl
    | false =>
      rw [Layout.kept_cons_of_not hbeyond, firstHit, firstHit, ih]

/-- A key too far below zero is a fault as soon as its note is tried. -/
theorem firstHit_of_below (now : R) (h : n.key < -(c.layout.size : Int)) (rest : List (Note R)) :
    firstHit c now pitch (n :: rest) = .error .outOfRange := by
  have hbeyond : c.layout.isBeyond n.key = false := decide_eq_false (by omega)
  rw [firstHit, centsWithin_of_not hbeyond, c.layout.get_below h]
  rfl

/-- An estimate that is within the tolerance of a note lies near the key that is looked up. -/
theorem key_of_centsWithin {cents : F} (h : centsWithin c pitch n = .ok (some cents)) :
    c.layout.has (c.layout.counted n.key) ∧
      ∃ k, c.layout.get (c.layout.counted n.key) = .ok k ∧
        Pitch.cents pitch.frequency k.frequency = .ok cents ∧
        ¬ c.settings.tolerance < Scalar.abs cents := by
  cases hbeyond : c.layout.isBeyond n.key with
  | true =>
    rw [centsWithin_of_beyond hbeyond] at h
    cases h
  | false =>
    rw [centsWithin_of_not hbeyond] at h
    cases hget : c.layout.get n.key with
    | error fault =>
      rw [hget] at h
      cases h
    | ok k =>
      cases hcents : Pitch.cents pitch.frequency k.frequency with
      | error fault => simp [hget, hcents, bind, Except.bind] at h
      | ok found =>
        have hfound : (if c.settings.tolerance < Scalar.abs found then none else some found) =
            some cents := by
          simpa [hget, hcents, bind, Except.bind, pure, Except.pure] using h
        obtain ⟨hnear, hsome⟩ := Option.ite_none_left_eq_some.mp hfound
        cases hsome
        rw [Layout.get_counted]
        exact ⟨c.layout.has_counted hbeyond hget, k, hget, hcents, hnear⟩

/-- The note of a hit, and how many cents the estimate lies above its key. -/
theorem centsWithin_of_firstHit {now : R} {hit : Hit F R}
    (h : firstHit c now pitch notes = .ok (some hit)) :
    ∃ n ∈ notes, n.id = hit.note ∧ n.key = hit.key ∧
      centsWithin c pitch n = .ok (some hit.cents) := by
  induction notes with
  | nil => cases h
  | cons n rest ih =>
    unfold firstHit at h
    cases hcents : centsWithin c pitch n with
    | error fault =>
      rw [hcents] at h
      cases h
    | ok found =>
      rw [hcents] at h
      cases found with
      | none =>
        obtain ⟨m, hm, hhit⟩ := ih h
        exact ⟨m, List.mem_cons_of_mem n hm, hhit⟩
      | some cents =>
        cases h
        exact ⟨n, List.mem_cons_self, rfl, rfl, hcents⟩

/-- The judgment of an estimate among some notes. -/
def judgeAmong (c : Setup F R) (pitch : HeardPitch F) (notes : List (Note R)) (s : Session F R) :
    Except Fault (Option (Hit F R)) × Session F R :=
  if !s.phase.isActive || !c.matcher.accepts pitch then (.ok none, s)
  else
    match firstHit c (s.inputTime c) pitch notes with
    | .error fault => (.error fault, s)
    | .ok none => (.ok none, s)
    | .ok (some hit) =>
      match s.record hit with
      | (.error fault, s) => (.error fault, s)
      | (.ok _, s) => (.ok (some hit), s)

/-- Judging is judging among the notes of the hit zone that are not beyond the end of the layout. -/
theorem judge_kept (c : Setup F R) (pitch : HeardPitch F) (s : Session F R) :
    s.judge c pitch = s.judgeAmong c pitch (c.layout.kept (s.hitZone c)) := by
  calc s.judge c pitch = s.judgeAmong c pitch (s.hitZone c) := rfl
    _ = s.judgeAmong c pitch (c.layout.kept (s.hitZone c)) := by
      unfold judgeAmong
      rw [firstHit_kept]

/-- What is hit was found among the notes of the hit zone. -/
theorem firstHit_of_judged {hit : Hit F R} (h : (s.judge c pitch).1 = .ok (some hit)) :
    firstHit c (s.inputTime c) pitch (s.hitZone c) = .ok (some hit) := by
  unfold judge at h
  split at h
  · cases h
  · split at h
    · cases h
    · cases h
    · rename_i found hfound
      split at h
      · cases h
      · cases h
        exact hfound

end Session

/-! ## §3 Export -/

namespace Midi

variable {F R : Type} [Analytic F] [Scalar R] {layout : Layout F} {velocity : Int} {n : Note R}

theorem toneOf_of_beyond (h : layout.isBeyond n.key = true) :
    toneOf layout velocity n = .ok none :=
  if_pos (of_decide_eq_true h)

theorem toneOf_of_not (h : layout.isBeyond n.key = false) :
    toneOf layout velocity n = (do
      let pitch ← keyPitch (← layout.get n.key)
      return some (← Tone.make velocity pitch n.time n.finish)) :=
  if_neg (of_decide_eq_false h)

/-- A note that is not beyond the end of the layout is exported, unless that fails. -/
theorem isSome_of_toneOf {tone : Option (Tone R)} (hbeyond : layout.isBeyond n.key = false)
    (h : toneOf layout velocity n = .ok tone) : tone.isSome = true := by
  rw [toneOf_of_not hbeyond] at h
  cases hget : layout.get n.key with
  | error fault => simp [hget, bind, Except.bind] at h
  | ok k =>
    cases hpitch : keyPitch k with
    | error fault => simp [hget, hpitch, bind, Except.bind] at h
    | ok pitch =>
      cases hmake : Tone.make velocity pitch n.time n.finish with
      | error fault => simp [hget, hpitch, hmake, bind, Except.bind] at h
      | ok made =>
        simp only [hget, hpitch, hmake, bind, Except.bind, pure, Except.pure, Except.ok.injEq] at h
        rw [← h]
        rfl

/-- A key is exported as the one that is looked up. -/
theorem toneOf_counted (n : Note R) :
    toneOf layout velocity { n with key := layout.counted n.key } = toneOf layout velocity n := by
  cases hbeyond : layout.isBeyond n.key with
  | true =>
    rw [toneOf_of_beyond hbeyond, toneOf_of_beyond (by rw [layout.isBeyond_counted, hbeyond])]
  | false =>
    rw [toneOf_of_not hbeyond, toneOf_of_not (by rw [layout.isBeyond_counted, hbeyond]),
      Layout.get_counted]
    rfl

theorem toneOf_of_below (h : n.key < -(layout.size : Int)) :
    toneOf layout velocity n = .error .outOfRange := by
  have hbeyond : layout.isBeyond n.key = false := decide_eq_false (by omega)
  rw [toneOf_of_not hbeyond, layout.get_below h]
  rfl

/-- Of some notes those beyond the end of the layout have no tone, and all others have one. -/
theorem mapM_toneOf (layout : Layout F) (velocity : Int) (notes : List (Note R)) :
    (layout.kept notes).mapM (toneOf layout velocity) =
        (notes.mapM (toneOf layout velocity)).map (List.filter Option.isSome) ∧
      ∀ tones, notes.mapM (toneOf layout velocity) = .ok tones →
        tones.countP Option.isNone = layout.beyond notes := by
  induction notes with
  | nil =>
    refine ⟨rfl, fun tones h => ?_⟩
    cases h
    rfl
  | cons n rest ih =>
    obtain ⟨hkept, hcount⟩ := ih
    cases hbeyond : layout.isBeyond n.key with
    | true =>
      rw [Layout.kept_cons_of_beyond hbeyond, hkept, List.mapM_cons, toneOf_of_beyond hbeyond]
      cases hrest : rest.mapM (toneOf layout velocity) with
      | error fault => exact ⟨rfl, nofun⟩
      | ok tones =>
        refine ⟨rfl, fun all h => ?_⟩
        cases h
        simp [Layout.beyond, hbeyond, hcount tones hrest]
    | false =>
      rw [Layout.kept_cons_of_not hbeyond, List.mapM_cons, List.mapM_cons, hkept]
      cases htone : toneOf layout velocity n with
      | error fault => exact ⟨rfl, nofun⟩
      | ok tone =>
        have hsome := isSome_of_toneOf hbeyond htone
        cases hrest : rest.mapM (toneOf layout velocity) with
        | error fault => exact ⟨rfl, nofun⟩
        | ok tones =>
          constructor
          · simp [bind, Except.bind, pure, Except.pure, Except.map, hsome]
          · intro all h
            cases h
            have hnone : tone.isNone = false := by simp [hsome]
            simp [Layout.beyond, hbeyond, hnone, hcount tones hrest]

theorem of_ok_bind {α β : Type} (a : α) (f : α → Work β) : (of (.ok a) >>= f) = f a := rfl

/-- **A song is exported like one without the notes beyond the end of the layout**, but for a
warning that counts them. -/
theorem ofSong_within (layout : Layout F) (name : Text) (program velocity : Int) (song : Song R) :
    ofSong layout name program velocity song = (do
      let piece ← ofSong layout name program velocity (song.within layout)
      if layout.beyond song.notes ≠ 0 then
        warn (.missingKeys (layout.beyond song.notes) layout.name)
      return piece) := by
  obtain ⟨hkept, hcount⟩ := mapM_toneOf layout velocity song.notes
  unfold ofSong Song.within
  dsimp only
  rw [hkept]
  cases htones : song.notes.mapM (toneOf layout velocity) with
  | error fault => rfl
  | ok tones =>
    have hnone : (tones.filter Option.isSome).countP Option.isNone = 0 := by
      refine List.countP_eq_zero.mpr fun tone htone => ?_
      simpa [Option.isSome_iff_ne_none] using (List.mem_filter.mp htone).2
    have hsome : (tones.filter Option.isSome).filterMap id = tones.filterMap id := by
      rw [List.filterMap_filter]
      congr 1
      funext tone
      cases tone <;> rfl
    rw [← hcount tones htones]
    simp only [Except.map, of_ok_bind, hnone, hsome, ne_eq, not_true_eq_false, if_false, pure_bind]

/-- **A song is exported like one with its keys as they are looked up.** -/
theorem ofSong_counted (layout : Layout F) (name : Text) (program velocity : Int) (song : Song R) :
    ofSong layout name program velocity (song.counted layout) =
      ofSong layout name program velocity song := by
  have htones : (song.counted layout).notes.mapM (toneOf layout velocity) =
      song.notes.mapM (toneOf layout velocity) := by
    rw [Song.counted]
    dsimp only
    generalize song.notes = notes
    induction notes with
    | nil => rfl
    | cons n rest ih => rw [List.map_cons, List.mapM_cons, List.mapM_cons, toneOf_counted, ih]
  unfold ofSong
  rw [htones]
  rfl

/-- A song with a key too far below zero is not exported. -/
theorem not_gives_ofSong {name : Text} {program : Int} {song : Song R} (hn : n ∈ song.notes)
    (hbelow : n.key < -(layout.size : Int)) (j : Journal) (piece : Piece R) (j' : Journal) :
    ¬ (ofSong layout name program velocity song).Gives j piece j' := by
  intro h
  obtain ⟨tones, k, htones, -⟩ := gives_bind.mp h
  obtain ⟨tone, -, htone⟩ := Except.exists_ok_of_mapM (gives_of.mp htones).1 hn
  rw [toneOf_of_below hbelow] at htone
  cases htone

end Midi

/-! ## §4 Sound -/

namespace Engine

variable {F S : Type} [Analytic F] [Scalar S] [Sample F S] (e : Engine F)

/-- Notes beyond the end of the layout make no difference to a mix. -/
theorem addNotes_kept (notes : List (Note F)) (out : Array S) (cache : Cache S) :
    e.addNotes (e.layout.kept notes) out cache = e.addNotes notes out cache := by
  induction notes generalizing out cache with
  | nil => rfl
  | cons n rest ih =>
    cases hbeyond : e.layout.isBeyond n.key with
    | true =>
      rw [Layout.kept_cons_of_beyond hbeyond, ih, addNotes, if_pos (of_decide_eq_true hbeyond)]
    | false =>
      rw [Layout.kept_cons_of_not hbeyond, addNotes, addNotes]
      simp only [ih]

/-- **A song sounds like one without the notes beyond the end of the layout.** -/
theorem song_within (song : Song F) (cache : Cache S) :
    e.song (song.within e.layout) cache = e.song song cache := by
  have hlength : e.lengthOf (song.within e.layout) = e.lengthOf song := rfl
  unfold Engine.song
  rw [hlength]
  simp only [Song.within, addNotes_kept]

/-- A note below zero has no tone. -/
theorem addNotes_of_negative {n : Note F} {notes : List (Note F)} (hn : n ∈ notes)
    (hneg : n.key < 0) (out : Array S) (cache : Cache S) (samples : Array S) :
    (e.addNotes notes out cache).1 ≠ .ok samples := by
  induction notes generalizing out cache with
  | nil => cases hn
  | cons m rest ih =>
    unfold addNotes
    rcases List.mem_cons.mp hn with rfl | hrest
    · have hwithin : ¬ (e.layout.size : Int) ≤ n.key := by omega
      have hmissing : ¬ (0 ≤ n.key ∧ n.key < e.layout.size) := by omega
      rw [if_neg hwithin]
      cases cache with
      | none => exact nofun
      | some tones =>
        simp only [Engine.key, if_neg hmissing]
        exact nofun
    · split
      · exact ih hrest out cache
      · split
        · exact nofun
        · split
          · exact nofun
          · exact ih hrest _ _

/-- A song with a note below zero is not made audible. -/
theorem song_of_negative {n : Note F} {song : Song F} (hn : n ∈ song.notes) (hneg : n.key < 0)
    (cache : Cache S) (samples : Array S) : (e.song song cache).1 ≠ .ok samples := by
  unfold Engine.song
  split
  · exact nofun
  · split
    · exact nofun
    · rename_i length _
      split
      · exact nofun
      · rename_i out _ hout
        exact absurd (congrArg Prod.fst hout) (e.addNotes_of_negative hn hneg _ _ out)

end Engine

/-! ## §5 Both ends of the row -/

section

variable {F R S : Type} [Analytic F] [Scalar R] [Scalar S] [Sample F S]

/-- **What becomes of the keys that a layout does not have.** Those beyond its end are left out by
judging, by export, which counts them in a warning, and by sound. One below zero is judged and
exported as the key that it counts from the end, or is a fault if it counts too far, and a song with
such a note is never made audible. -/
theorem keys_beyond_left_out_and_negative_counted :
    (∀ (c : Setup F R) (pitch : HeardPitch F) (s : Session F R),
      s.judge c pitch = s.judgeAmong c pitch (c.layout.kept (s.hitZone c)) ∧
      (∀ hit, (s.judge c pitch).1 = .ok (some hit) →
        ∃ n ∈ s.hitZone c, n.id = hit.note ∧ n.key = hit.key ∧
          c.layout.has (c.layout.counted n.key) ∧
          ∃ k, c.layout.get (c.layout.counted n.key) = .ok k ∧
            Pitch.cents pitch.frequency k.frequency = .ok hit.cents ∧
            ¬ c.settings.tolerance < Scalar.abs hit.cents) ∧
      ∀ n rest, s.hitZone c = n :: rest → n.key < -(c.layout.size : Int) →
        s.phase.isActive = true → c.matcher.accepts pitch = true →
        s.judge c pitch = (.error .outOfRange, s)) ∧
    (∀ (layout : Layout F) (name : Text) (program velocity : Int) (song : Song R),
      Midi.ofSong layout name program velocity song = (do
        let piece ← Midi.ofSong layout name program velocity (song.within layout)
        if layout.beyond song.notes ≠ 0 then
          warn (.missingKeys (layout.beyond song.notes) layout.name)
        return piece) ∧
      Midi.ofSong layout name program velocity song =
        Midi.ofSong layout name program velocity (song.counted layout) ∧
      ((∃ n ∈ song.notes, n.key < -(layout.size : Int)) →
        ∀ j piece j', ¬ (Midi.ofSong layout name program velocity song).Gives j piece j')) ∧
    (∀ (e : Engine F) (song : Song F) (cache : Engine.Cache S),
      e.song song cache = e.song (song.within e.layout) cache ∧
      ((∃ n ∈ song.notes, n.key < 0) → ∀ samples, (e.song song cache).1 ≠ .ok samples)) := by
  refine ⟨fun c pitch s => ⟨s.judge_kept c pitch, ?_, ?_⟩,
    fun layout name program velocity song => ⟨?_, ?_, ?_⟩, fun e song cache => ⟨?_, ?_⟩⟩
  · intro hit hhit
    have hfirst := Session.firstHit_of_judged hhit
    obtain ⟨n, hn, hid, hkey, hcents⟩ := Session.centsWithin_of_firstHit hfirst
    exact ⟨n, hn, hid, hkey, Session.key_of_centsWithin hcents⟩
  · intro n rest hzone hbelow hactive haccepts
    have hfault : Session.firstHit c (s.inputTime c) pitch (n :: rest) = .error .outOfRange :=
      Session.firstHit_of_below (s.inputTime c) hbelow rest
    unfold Session.judge
    simp [hactive, haccepts, hzone, hfault]
  · exact Midi.ofSong_within layout name program velocity song
  · exact (Midi.ofSong_counted layout name program velocity song).symm
  · rintro ⟨n, hn, hbelow⟩
    exact Midi.not_gives_ofSong hn hbelow
  · exact (e.song_within song cache).symm
  · rintro ⟨n, hn, hneg⟩
    exact e.song_of_negative hn hneg cache

end

/-- A note on a single key, and the two notes before it that the layout does not have. The first is
exported as the single key and has no sound, and the second is a fault everywhere. -/
theorem negative_keys_not_left_out :
    let c : Setup Float Float := Session.soleSetup
      (Session.usualSettings (by decide) (by decide)) .usual (by decide)
    let note (key : Int) : Note Float :=
      { Session.soleNote "a" 0 (by decide) (by decide) with key := key }
    let song (key : Int) : Song Float := Session.songOf [note key] (.num 3) (by decide)
    let heard : HeardPitch Float := ⟨261.6255653005986, 1, none, 0⟩
    let playing (key : Int) := (Session.fresh c).run c [(0, .start (song key)), (0, .tick)]
    let engine : Engine Float := ⟨Session.soleKey, 22050, 0.3⟩
    let cache : Engine.Cache Float32 := some []
    let sounds (key : Int) := (engine.song (song key) cache).1
    (Midi.toneOf Session.soleKey Midi.songVelocity (note (-1)) =
        Midi.toneOf Session.soleKey Midi.songVelocity (note 0) ∧
      sounds (-1) = .error (.keyMissing (-1) "Sole key")) ∧
    ((playing (-2)).judge c heard).1.map Option.isSome = .error .outOfRange ∧
    (∀ j piece j', ¬ (Midi.ofSong Session.soleKey "Kalimba" Midi.songProgram Midi.songVelocity
      (song (-2))).Gives j piece j') ∧
    sounds (-2) = .error (.keyMissing (-2) "Sole key") := by
  intro c note song heard playing engine cache sounds
  refine ⟨⟨?_, ?_⟩, ?_, ?_, ?_⟩
  · have hcounted : Midi.toneOf Session.soleKey Midi.songVelocity
        { note (-1) with key := Session.soleKey.counted (note (-1)).key } =
        Midi.toneOf Session.soleKey Midi.songVelocity (note (-1)) := Midi.toneOf_counted _
    exact hcounted.symm
  · decide +kernel
  · decide +kernel
  · exact Midi.not_gives_ofSong (n := note (-2)) List.mem_cons_self (by decide)
  · decide +kernel

end Lamella
