import Lamella.Value.Convert

/-!
# Recordings

A recording is a row of samples at a rate. Samples are numbers of a narrower type `S` than the `F`
that is measured with.

## Main definitions

- `Sample`: the two ways between the types.
- `Recording`: samples and their rate.
- `Recording.Channels`: what is recorded; `Recording.mix`: one channel from several.
- `Recording.normalize`, `Recording.prepare`: full loudness, and what analysis wants.
- `Recording.level`: the loudness of a part, as the root of the mean square.
-/

namespace Lamella

instance : Scalar Float32 where
  decideLt := inferInstance
  decideLe := inferInstance
  ofInt := Float32.ofInt
  ofQuotient a b := .ofBits (.ofNat (Binary.quotientWord 8 23 a b))
  reading x := (Binary.ofFloat32 x).reading
  ofNumeral? s := some s.toFloat.toFloat32
  written x := Decimal.ofBinary (.ofFloat x.toFloat)

/-- Measured numbers as samples, and samples as measured numbers. -/
class Sample (F S : Type) where
  narrow : F → S
  widen : S → F

instance : Sample Float Float32 := ⟨Float.toFloat32, Float32.toFloat⟩

instance : Sample Rat Rat := ⟨id, id⟩

/-- Samples, and how many there are in a second. -/
structure Recording (S : Type) where
  samples : Array S
  rate : Int
deriving BEq, Inhabited

namespace Recording

/-- The rate that analysis works at. -/
def standardRate : Int := 22050

section

variable {S : Type} [Scalar S]

/-- The greater of two scalars; one that is no number outweighs all others, the first of two. -/
@[inline] def outweighing (a b : S) : S :=
  if a < b then b else if b ≤ b then a else if a ≤ a then b else a

/-- The greatest magnitude of a sample. -/
@[specialize] def peak (samples : Array S) : S :=
  match samples[0]? with
  | none => Scalar.ofInt 0
  | some x => samples.foldl (fun m y => outweighing m (Scalar.abs y)) (Scalar.abs x) 1

/-- Whether nothing is to be heard. -/
def isSilent (r : Recording S) : Bool := r.samples.all Scalar.isZero

/-- Two rows of samples added place by place; the longer one goes on alone. -/
def addRows (a b : List S) : List S := List.zipWithAll (fun x y =>
  match x, y with
  | some x, some y => x + y
  | some x, none => x
  | none, some y => y
  | none, none => Scalar.ofInt 0) a b

/-- One channel: the mean of several. -/
def mix (channels : List (List S)) : List S :=
  match channels with
  | [] => []
  | [samples] => samples
  | first :: rest =>
    let count : S := Scalar.ofNat channels.length
    (rest.foldl addRows first).map (· / count)

/-- Samples at full loudness: divided by their peak, if that is more than zero. -/
def normalize (samples : Array S) : Array S :=
  let top := peak samples
  if Scalar.ofInt 0 < top then samples.map (· / top) else samples

/-- Samples as they are recorded: of one channel, or of several together. -/
inductive Channels (S : Type) where
  | mono (samples : List S)
  | several (rows : List (List S))
deriving Inhabited

namespace Channels

/-- The channels of rows of samples, which are equally long. -/
def ofRows (rows : List (List S)) : Except Fault (Channels S) :=
  if rows.all fun row => row.length == (rows.headD []).length then .ok (.several rows)
  else .error .unequalRows

/-- Whether a sample is a finite number. -/
def isFinite (x : S) : Bool :=
  match Scalar.reading x with
  | .finite _ => true
  | _ => false

/-- One channel of a recording. Several are mixed, if all of their samples are finite. -/
def joined : Channels S → Except Fault (List S)
  | mono samples => .ok samples
  | several rows => if rows.all (·.all isFinite) then .ok (mix rows) else .error .brokenSample

end Channels

/-- A recording as analysis wants it: one channel, at full loudness if asked for. -/
def prepare (channels : Channels S) (rate : Int) (loud : Bool) : Except Fault (Recording S) := do
  let samples := (← channels.joined).toArray
  return ⟨if loud then normalize samples else samples, rate⟩

/-- An index of a row of `count` samples; a negative one counts from the end, and one beyond an end
is that end. -/
def clampIndex (count : Nat) (i : Int) : Nat :=
  if i < 0 then (count + i).toNat else min i.toNat count

/-- The samples between two indices. -/
def slice (r : Recording S) (start stop : Int) : List S :=
  (r.samples.extract (clampIndex r.samples.size start) (clampIndex r.samples.size stop)).toList

/-- Eight running sums, one for every eighth number. -/
def lanes (sums : List S) : List S → Nat → List S
  | _, 0 => sums
  | xs, blocks + 1 => lanes (List.zipWith (· + ·) sums (xs.take 8)) (xs.drop 8) blocks

/-- Eight sums added in pairs. -/
def joinLanes : List S → S
  | [a, b, c, d, e, f, g, h] => ((a + b) + (c + d)) + ((e + f) + (g + h))
  | xs => xs.foldl (· + ·) (Scalar.ofInt 0)

/-- The sum of at most 128 numbers, in eight lanes if there are as many. -/
def blockSum (xs : List S) : S :=
  if xs.length < 8 then xs.foldl (· + ·) (Scalar.ofInt 0)
  else
    let blocks := xs.length / 8
    (xs.drop (8 * blocks)).foldl (· + ·) (joinLanes (lanes (xs.take 8) (xs.drop 8) (blocks - 1)))

/-- The sum of numbers by halves, which keeps the rounding small. -/
def pairwiseSum (fuel : Nat) (xs : List S) : S :=
  match fuel with
  | 0 => blockSum xs
  | fuel + 1 =>
    if xs.length ≤ 128 then blockSum xs
    else
      let half := xs.length / 2 - xs.length / 2 % 8
      pairwiseSum fuel (xs.take half) + pairwiseSum fuel (xs.drop half)

/-- The mean of the squares of samples. -/
def meanSquare (xs : List S) : S :=
  pairwiseSum xs.length (xs.map fun x => x * x) / Scalar.ofNat xs.length

end

section

variable {F S : Type} [Analytic F] [Scalar S] [Sample F S]

/-- The loudness of the samples between two indices; an empty part is silent. -/
def level (r : Recording S) (start stop : Int) : F :=
  match r.slice start stop with
  | [] => Scalar.ofInt 0
  | xs => Sample.widen (Sample.narrow (Analytic.sqrt (Sample.widen (meanSquare xs) : F)) : S)

end

/-- How long a recording lasts, in seconds. -/
def seconds {R S : Type} [Scalar R] (r : Recording S) : Except Fault R :=
  Value.quotientOfInts r.samples.size r.rate

end Recording

end Lamella
