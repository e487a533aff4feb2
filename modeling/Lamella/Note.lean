import Lamella.Value.Convert

/-!
# Notes

A note is struck on one key at a time and lasts for a duration. It never begins before zero and
always lasts; both are part of the type, in the form in which a scalar that is no number passes.

## Main definitions

- `Note`: a note on a song's time line.
- `Note.ofValue`, `Note.toValue`: notes as loosely typed data.
-/

namespace Lamella

/-- A note on a song's time line; `id` is `null` for a note without one, and `verbatim` tells that
the time is a number of the data it was read from, just as it stood there. -/
structure Note (R : Type) [Scalar R] where
  key : Int
  time : R
  duration : R
  id : Value R := .null
  verbatim : Bool := false
  time_not_neg : ¬ time < Scalar.ofInt 0
  duration_pos : ¬ duration ≤ Scalar.ofInt 0

namespace Note

variable {R : Type} [Scalar R]

/-- The note of the given parts, if it does not begin too early and lasts. -/
def make (key : Int) (time duration : R) (id : Value R) : Except Fault (Note R) :=
  if h : time < Scalar.ofInt 0 then .error (.earlyNote (Scalar.written time))
  else if h' : duration ≤ Scalar.ofInt 0 then .error (.emptyNote (Scalar.written duration))
  else .ok { key, time, duration, id, time_not_neg := h, duration_pos := h' }

/-- Whether a note has no time, by the very words of its data. Notes without a time that is a number
are alike only if it is so said of both. -/
def isUntimed (n : Note R) : Bool := n.verbatim && !Scalar.same n.time n.time

/-- When a note stops to sound. -/
def finish (n : Note R) : R := n.time + n.duration

/-- What two notes share when they sound the same: key, time and duration. -/
def signature (n : Note R) : Int × R × R := (n.key, n.time, n.duration)

/-- A note as data. -/
def toValue (n : Note R) : Value R :=
  .record ([("keyIndex", .int n.key), ("time", .num n.time), ("duration", .num n.duration)] ++
    if n.id.isNull then [] else [("id", n.id)])

/-- Whether a container names a field: an object by its fields, a list by its items and text by its
parts. What is no container has no answer. -/
def names (v : Value R) (name : Text) : Except Fault Bool :=
  match v with
  | .object fields => .ok (Value.field? fields name).isSome
  | .list items => .ok (items.any fun item =>
      match item with
      | .str s => s == name
      | _ => false)
  | .str s => .ok (Text.occurs name s)
  | _ => .error .wrongShape

/-- The fields of a note's data: an object that places the note. -/
def placed (v : Value R) : Except Fault (List (Text × Value R)) := do
  if !(← names v "keyIndex") then throw (.unplacedNote v.shown)
  if !(← names v "time") then throw (.unplacedNote v.shown)
  match v with
  | .object fields => return fields
  | _ => throw .noMember

/-- A note from data; a duration that is not given is the default one. -/
def ofValue (v : Value R) (defaultDuration : Option R) : Except Fault (Note R) := do
  let fields ← placed v
  let fallback : Value R := defaultDuration.elim .null .num
  let duration := (Value.field fields "duration").orElse fallback
  if duration.isNull then throw (.endlessNote v.shown)
  let key ← (Value.field fields "keyIndex").toInteger
  let time ← (Value.field fields "time").toScalar
  let duration ← duration.toScalar
  let n ← make key time duration (Value.field fields "id")
  return { n with verbatim := (Value.field fields "time").isNumber }

end Note

end Lamella
