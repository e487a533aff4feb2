import Lamella.Score.Keeper
import Lamella.Session.Settings

/-!
# Sessions

A session is one play-through of a song. It goes from idle through a countdown to playing, may be
paused, and finishes at the end of the song. Its song time starts below zero, so that notes at zero
can be reached, and stands still while it is paused.

A producer writes estimates of the pitch that is heard into a slot, and a game loop ticks. Each tick
reads the clock, judges at most one note by an estimate it has not read before, marks the notes that
have left the hit window as missed, and finishes the song at its end.

Operations take the reading of the clock and return what they found together with the session
afterwards; a fault leaves the session where the operation stopped.

## Main definitions

- `Slot`: the latest estimate, with a version that every write raises.
- `Setup`, `Session`: what stays through a session, and what changes.
- `Session.start`, `pause`, `resume`, `finish`, `reset`: its course.
- `Session.tick`, `judge`, `sweep`: judging.
- `Session.hitZone`, `visible`: the notes that matter now.
-/

namespace Lamella

/-- Where a session stands. -/
inductive Phase where
  | idle
  | countdown
  | playing
  | paused
  | finished
deriving DecidableEq, Inhabited

namespace Phase

/-- The name of a phase. -/
def text : Phase → String
  | idle => "idle"
  | countdown => "countdown"
  | playing => "playing"
  | paused => "paused"
  | finished => "finished"

/-- Whether notes are judged in a phase. -/
def isActive (p : Phase) : Bool := p == countdown || p == playing

end Phase

/-- The latest estimate and the number of writes. A producer that hears nothing writes none. -/
structure Slot (F : Type) where
  pitch : Option (HeardPitch F) := none
  version : Nat := 0

/-- A slot after a write. -/
def Slot.write {F : Type} (s : Slot F) (pitch : Option (HeardPitch F)) : Slot F :=
  ⟨pitch, s.version + 1⟩

/-- The judgment of a note: how late it was hit, in milliseconds, and by how many cents too high. -/
structure Hit (F R : Type) where
  note : Value R
  tier : Tier
  delta : R
  key : Int
  cents : F

/-- What stays the same through a session. -/
structure Setup (F R : Type) [Analytic F] [Scalar R] where
  settings : Settings F R
  layout : Layout F
  scoring : Scoring R
  leadIn : R
  windows : Windows R

namespace Setup

variable {F R : Type} [Analytic F] [Scalar R]

/-- The seconds between the start of a session and song time zero, where no others are given. -/
def defaultLeadIn : R := 3.0

/-- A setup; its windows are those of the settings. -/
def make (settings : Settings F R) (layout : Layout F) (scoring : Scoring R) (leadIn : R) :
    Except Fault (Setup F R) := do
  let windows ← Windows.make settings.hitWindow Windows.defaultPerfect Windows.defaultGood
  return { settings, layout, scoring, leadIn, windows }

/-- The gate for estimates. -/
def matcher (c : Setup F R) : Matcher F where
  layout := c.layout
  tolerance := c.settings.tolerance
  leastClarity := c.settings.clarity
  leastVolume := c.settings.volume

end Setup

/-- What changes in a session. `anchor` is the reading of the clock at the start, moved on by the
time spent in pauses; `missIndex` counts the notes that were swept; `seen` is the version of the
last estimate read. -/
structure Session (F R : Type) [Scalar R] where
  phase : Phase
  song : Option (Song R)
  progress : R
  keeper : Keeper R
  hits : List (Hit F R)
  slot : Slot F
  anchor : R
  pausedAt : Option R
  resumePhase : Phase
  missIndex : Nat
  seen : Nat

namespace Session

variable {F R : Type} [Analytic F] [Scalar R]

/-- A session before any song. -/
def fresh (c : Setup F R) : Session F R where
  phase := .idle
  song := none
  progress := Scalar.ofInt 0
  keeper := .fresh c.scoring
  hits := []
  slot := {}
  anchor := Scalar.ofInt 0
  pausedAt := none
  resumePhase := .playing
  missIndex := 0
  seen := 0

/-! ## Course -/

/-- Begins a song with its countdown and a fresh score. Estimates written before count as read. -/
def start (c : Setup F R) (now : R) (song : Song R) (s : Session F R) : Session F R :=
  { s with
    phase := .countdown
    song := some song
    progress := -c.leadIn
    keeper := .fresh c.scoring
    hits := []
    anchor := now
    pausedAt := none
    missIndex := 0
    seen := s.slot.version }

/-- Stops the song time. -/
def pause (now : R) (s : Session F R) : Session F R :=
  if s.phase.isActive then
    -- What is interrupted is remembered, since a countdown can be paused too
    { s with phase := .paused, pausedAt := some now, resumePhase := s.phase }
  else s

/-- Lets the song time go on. Estimates written in the pause count as read. -/
def resume (now : R) (s : Session F R) : Session F R :=
  if s.phase = .paused then
    -- The song time goes on from where it stood, so the start moves on by the pause
    { s with
      anchor := s.anchor + (now - s.pausedAt.getD now)
      pausedAt := none
      phase := s.resumePhase
      seen := s.slot.version }
  else s

/-- Finishes the song; its score changes no more. -/
def finish (s : Session F R) : Session F R :=
  if s.phase = .idle then s else { s with phase := .finished, keeper := s.keeper.freeze }

/-- Goes back to having no song and no score. -/
def reset (c : Setup F R) (s : Session F R) : Session F R :=
  { s with
    phase := .idle
    song := none
    progress := Scalar.ofInt 0
    keeper := .fresh c.scoring
    hits := []
    pausedAt := none
    missIndex := 0 }

/-- Takes an estimate into the slot. -/
def hear (pitch : Option (HeardPitch F)) (s : Session F R) : Session F R :=
  { s with slot := s.slot.write pitch }

/-! ## The notes that matter -/

/-- The song time at which the sound that is heard now was made. -/
def inputTime (c : Setup F R) (s : Session F R) : R := s.progress - c.settings.latencySeconds

/-- The notes of the song. -/
def notes (s : Session F R) : List (Note R) := s.song.elim [] Song.notes

/-- The notes that were not judged and whose times lie between two bounds, by search in the row of
their times. -/
def unjudgedBetween (low high : R) (s : Session F R) : List (Note R) :=
  -- Both ends of the slice are looked up, and then the judged notes are left out
  let times := (s.notes.map Note.time).toArray
  let first := Order.firstAtLeast times low
  let last := Order.firstAbove times high
  ((s.notes.take last).drop first).filter fun n => !s.keeper.isJudged n.id

/-- The notes in the hit window that were not judged. -/
def hitZone (c : Setup F R) (s : Session F R) : List (Note R) :=
  let now := s.inputTime c
  let window := c.settings.hitSeconds
  s.unjudgedBetween (now - window) (now + window)

/-- How long notes stay in sight after their time, in seconds. -/
def visibleTail : R := 0.5

/-- The notes in sight that were not judged. -/
def visible (c : Setup F R) (s : Session F R) : List (Note R) :=
  s.unjudgedBetween (s.progress - visibleTail) (s.progress + c.settings.lookahead)

/-! ## Judging -/

/-- Registers a judgment, and keeps it if the keeper applied it. -/
def record (hit : Hit F R) (s : Session F R) : Except Fault Unit × Session F R :=
  match s.keeper.register hit.note hit.tier with
  | (.ok true, keeper) => (.ok (), { s with keeper, hits := s.hits ++ [hit] })
  | (.ok false, keeper) => (.ok (), { s with keeper })
  | (.error fault, keeper) => (.error fault, { s with keeper })

/-- How many cents an estimate lies above the key of a note, if it is within the tolerance; keys
beyond the end of the layout are never hit. -/
def centsWithin (c : Setup F R) (pitch : HeardPitch F) (n : Note R) :
    Except Fault (Option F) :=
  if (c.layout.size : Int) ≤ n.key then .ok none
  else do
    let key ← c.layout.get n.key
    let cents ← Pitch.cents pitch.frequency key.frequency
    return if c.settings.tolerance < Scalar.abs cents then none else some cents

/-- The first of some notes that an estimate hits. -/
def firstHit (c : Setup F R) (now : R) (pitch : HeardPitch F) :
    List (Note R) → Except Fault (Option (Hit F R))
  | [] => .ok none
  | n :: rest => do
    match ← centsWithin c pitch n with
    | none => firstHit c now pitch rest
    | some cents =>
      -- The earliest note whose key is hit, whether or not a later one is nearer in time
      let delta := (now - n.time) * 1000.0
      return some ⟨n.id, c.windows.classify delta, delta, n.key, cents⟩

/-- Judges an estimate: the earliest note in the hit zone whose key it hits, if there is one. -/
def judge (c : Setup F R) (pitch : HeardPitch F) (s : Session F R) :
    Except Fault (Option (Hit F R)) × Session F R :=
  if !s.phase.isActive || !c.matcher.accepts pitch then (.ok none, s)
  else
    match firstHit c (s.inputTime c) pitch (s.hitZone c) with
    | .error fault => (.error fault, s)
    | .ok none => (.ok none, s)
    | .ok (some hit) =>
      match s.record hit with
      | (.error fault, s) => (.error fault, s)
      | (.ok _, s) => (.ok (some hit), s)

/-- Whether a note has left the hit window. -/
def hasLeft (c : Setup F R) (now : R) (n : Note R) : Bool :=
  decide (c.settings.hitSeconds < now - n.time)

/-- The judgment of a missed note. -/
def missed (now : R) (n : Note R) : Hit F R :=
  ⟨n.id, .miss, (now - n.time) * 1000.0, n.key, Scalar.ofInt 0⟩

/-- Goes through notes as long as they have left the hit window, and marks those as missed that
were not judged. -/
def sweepFrom (c : Setup F R) (now : R) :
    List (Note R) → Session F R → Except Fault (List (Hit F R)) × Session F R
  | [], s => (.ok [], s)
  | n :: rest, s =>
    if hasLeft c now n then
      -- The cursor moves on before the note is marked, so that a fault does not hold it up
      let s := { s with missIndex := s.missIndex + 1 }
      if s.keeper.isJudged n.id then sweepFrom c now rest s
      else
        match s.record (missed now n) with
        | (.error fault, s) => (.error fault, s)
        | (.ok _, s) =>
          match sweepFrom c now rest s with
          | (.error fault, s) => (.error fault, s)
          | (.ok hits, s) => (.ok (missed now n :: hits), s)
    else (.ok [], s)

/-- Marks the notes as missed that have left the hit window without being judged. -/
def sweep (c : Setup F R) (s : Session F R) : Except Fault (List (Hit F R)) × Session F R :=
  sweepFrom c (s.inputTime c) (s.notes.drop s.missIndex) s

/-- Judges the estimate in the slot, unless it was read before. -/
def readSlot (c : Setup F R) (s : Session F R) :
    Except Fault (Option (Hit F R)) × Session F R :=
  if s.slot.version = s.seen then (.ok none, s)
  else
    -- An estimate counts as read even if it holds nothing or hits nothing
    let s := { s with seen := s.slot.version }
    match s.slot.pitch with
    | none => (.ok none, s)
    | some pitch => s.judge c pitch

/-- Finishes the song if its time is over. -/
def closeAt (song : Song R) (s : Session F R) : Except Fault Unit × Session F R :=
  match song.duration.atMost s.progress with
  | .error fault => (.error fault, s)
  | .ok true => (.ok (), s.finish)
  | .ok false => (.ok (), s)

/-- Advances by one frame, and returns the judgments made in it. -/
def tick (c : Setup F R) (now : R) (s : Session F R) :
    Except Fault (List (Hit F R)) × Session F R :=
  match s.phase.isActive, s.song with
  | true, some song =>
    let progress := now - s.anchor - c.leadIn
    let phase := if s.phase = .countdown ∧ Scalar.ofInt 0 ≤ progress then .playing else s.phase
    -- A pitch is judged before the sweep, so that a note on the edge can still be hit
    match ({ s with progress, phase } : Session F R).readSlot c with
    | (.error fault, s) => (.error fault, s)
    | (.ok hit, s) =>
      match s.sweep c with
      | (.error fault, s) => (.error fault, s)
      | (.ok misses, s) =>
        match s.closeAt song with
        | (.error fault, s) => (.error fault, s)
        | (.ok _, s) => (.ok (hit.toList ++ misses), s)
  | _, _ => (.ok [], s)

end Session

end Lamella
