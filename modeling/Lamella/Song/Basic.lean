import Lamella.Difficulty
import Lamella.Grid
import Lamella.Journal
import Lamella.Order
import Lamella.Order.Shelves

/-!
# Songs

A song owns its notes: it holds copies of them in the order of their times, each with an id of its
own. Of notes that share an id the first in time keeps it, and the others are given fresh ones.

## Main definitions

- `Song`: metadata and notes.
- `Song.Draft`, `Song.make`: what a song is made of, and the making of it.
- `Song.own`: the notes a song holds.
- `Song.chords`: the notes that are struck together.
-/

namespace Lamella

/-- A song. The duration, the author's tuning and what else the song does not compute itself are
kept as they were given. -/
structure Song (R : Type) [Scalar R] where
  title : Text
  notes : List (Note R)
  tempo : Quantity R
  metre : Metre
  artist : Value R
  difficulty : Difficulty
  duration : Value R
  tab : Value R
  id : Text
  tuning : Value R
  tines : Value R
  created : Value R
  tempo_pos : ¬ tempo.scalar ≤ Scalar.ofInt 0

namespace Song

variable {R : Type} [Scalar R]

/-- The silence after the last note, in seconds. -/
def tail : R := 2.0

/-- How far apart notes of one chord may be, in seconds. -/
def chordSpread : R := 1e-6

/-- How long notes last together with the silence after them. -/
def durationOf : List (Note R) → R
  | [] => Scalar.ofInt 0
  | n :: rest => rest.foldl (fun longest m => Scalar.larger longest m.finish) n.finish + tail

/-! ## Ids -/

/-- The exact number a value is, if it is one. -/
def idNumber? : Value R → Option Reading
  | .bool b => some (.finite (if b then 1 else 0))
  | .int n => some (.finite n)
  | .num x => some (Scalar.reading x)
  | _ => none

/-- Whether two ids are one: equal text, or numbers of one value, or none at all. -/
def sameId (a b : Value R) : Bool :=
  match a, b with
  | .str s, .str t => s == t
  | .null, .null => true
  | a, b =>
    match idNumber? a, idNumber? b with
    | some x, some y => x == y
    | _, _ => false

/-- A number of an id; ids that are one have one number. -/
def idCode (a : Value R) : Nat :=
  match a with
  | .str s => s.foldl (fun n p => (31 * n + p.code) % 65536) 0
  | a =>
    match idNumber? a with
    | some (.finite q) => q.num.natAbs
    | _ => 0

theorem idCode_eq_of_sameId {a b : Value R} (h : sameId a b = true) : idCode a = idCode b := by
  unfold sameId at h
  split at h
  · rw [eq_of_beq h]
  · rfl
  · split at h
    · rename_i x y hx hy
      have hxy : x = y := eq_of_beq h
      subst hxy
      have key : ∀ {v : Value R}, idNumber? v = some x →
          idCode v = match some x with | some (.finite q) => q.num.natAbs | _ => 0 := by
        intro v hv
        cases v <;> simp_all [idCode, idNumber?]
      rw [key hx, key hy]
    · exact absurd h (by simp)

/-- Lists and objects cannot tell notes apart. -/
def isIdentifying : Value R → Bool
  | .list _ => false
  | .object _ => false
  | _ => true

/-- The order in which a message names ids: texts by their points, numbers by value. -/
def idLe (a b : Value R) : Bool :=
  match a, b with
  | .str s, .str t => Text.le s t
  | a, b =>
    match idNumber? a, idNumber? b with
    | some (.finite x), some (.finite y) => decide (x ≤ y)
    | some (.infinite true), some (.finite _) => true
    | some (.finite _), some (.infinite false) => true
    | some (.infinite x), some (.infinite y) => x || !y
    | _, _ => false

/-- Whether ids can be put in order: all are text, or none is. -/
def areComparable (ids : List (Value R)) : Bool :=
  ids.all (idNumber? · |>.isSome) || ids.all (idNumber? · |>.isNone)

/-! ## Owned notes -/

/-- Gives each note an id that none before it has: its own, or a fresh one. Returns the notes, and
the ids that were met again. -/
def adopt (seen : Shelves (Value R)) : List (Note R) → Work (List (Note R) × List (Value R))
  | [] => return ([], [])
  | n :: rest => do
    if !isIdentifying n.id then throw .wrongShape
    let again := !n.id.isNull && seen.any (sameId n.id) (idCode n.id)
    let id ← if n.id.isNull || again then Value.str <$> Work.freshId else pure n.id
    let (notes, repeated) ← adopt (seen.put (idCode id) id) rest
    return ({ n with id } :: notes, if again then n.id :: repeated else repeated)

/-- The notes a song holds: in the order of their times, each with an id of its own. -/
def own (notes : List (Note R)) : Work (List (Note R)) := do
  let (owned, repeated) ← adopt .bare (Order.sortBy (fun a b => decide (a.time ≤ b.time)) notes)
  if !repeated.isEmpty then
    let ids := Order.dedup sameId repeated
    if !areComparable ids then throw .wrongShape
    Work.warn (.reissued repeated.length (Value.list (Order.sortBy idLe ids)).shown)
  return owned

/-! ## Making songs -/

/-- What a song is made of. -/
structure Draft (R : Type) [Scalar R] where
  title : Text
  notes : List (Note R) := []
  tempo : Quantity R := .measured defaultTempo
  metre : Metre.Source R := .metre .common
  artist : Value R := .str "Unknown"
  difficulty : Value R := .str "medium"
  duration : Value R := .null
  tab : Value R := .null
  id : Option Text := none
  tuning : Value R := .null
  tines : Value R := .null
  created : Value R := .null

/-- Makes a song. What is not given is computed: a fresh id, the duration from the notes, the time
of making from the clock. -/
def make (d : Draft R) : Work (Song R) := do
  let id ← d.id.elim Work.freshId pure
  if h : d.tempo.scalar ≤ Scalar.ofInt 0 then throw (.tempo d.tempo.toValue.shown)
  else
    let metre ← Work.of d.metre.resolve
    let difficulty ← Work.of (Difficulty.ofValue d.difficulty)
    let notes ← own d.notes
    let duration := if d.duration.isNull then .num (durationOf notes) else d.duration
    let now ← Work.now
    return {
      title := d.title, notes, tempo := d.tempo, metre, artist := d.artist, difficulty, duration
      tab := d.tab, id, tuning := d.tuning, tines := d.tines
      created := if d.created.isNull then .int now else d.created
      tempo_pos := h }

/-- The duration of a quarter note. -/
def beat (s : Song R) : R := 60.0 / s.tempo.scalar

/-- Puts the next note into a row of chords, last chord first and each chord first note last. -/
def addToChords (n : Note R) : List (List (Note R)) → List (List (Note R))
  | (first :: more) :: rest =>
    let start := ((first :: more).getLast (by simp)).time
    if Scalar.abs (start - n.time) ≤ chordSpread then (n :: first :: more) :: rest
    else [n] :: (first :: more) :: rest
  | chords => [n] :: chords

/-- The notes of a song, those together that are struck together with the first of them. -/
def chords (s : Song R) : List (List (Note R)) :=
  ((s.notes.foldl (fun chords n => addToChords n chords) []).map List.reverse).reverse

end Song

end Lamella
