import Lamella.Value.Convert

/-!
# Metre

A metre such as 3/4: how many steps a measure has, and which note value a step is. A step is a
whole note or one of its halves down to a thirty-second.
-/

namespace Lamella

/-- A metre, such as 4/4 or 6/8. -/
structure Metre where
  numerator : Int
  denominator : Int
  numerator_pos : 1 ≤ numerator
  denominator_mem : denominator ∈ [1, 2, 4, 8, 16, 32]
deriving DecidableEq

namespace Metre

/-- Common time. -/
def common : Metre := ⟨4, 4, by decide, by decide⟩

instance : Inhabited Metre := ⟨common⟩

/-- The metre of two numbers. -/
def ofNumbers (numerator denominator : Int) : Except Fault Metre :=
  if h : 1 ≤ numerator then
    if h' : denominator ∈ [1, 2, 4, 8, 16, 32] then .ok ⟨numerator, denominator, h, h'⟩
    else .error (.denominator denominator)
  else .error (.numerator numerator)

/-- The written form. -/
def text (m : Metre) : String := toString m.numerator ++ "/" ++ toString m.denominator

variable {R : Type} [Scalar R]

/-- The metre of two values. -/
def ofPair (numerator denominator : Value R) : Except Fault Metre := do
  let n ← numerator.toInteger
  let d ← denominator.toInteger
  ofNumbers n d

/-- Reads a metre from a value: text such as `3/4`, or nothing for common time. -/
def ofValue (v : Value R) : Except Fault Metre :=
  match v with
  | .null => .ok common
  | v =>
    match Text.pieces (fun (p : Point) => p = '/') (Text.strip v.text) with
    | [n, d] =>
      match Value.integerOfText n, Value.integerOfText d with
      | .ok n, .ok d => (ofNumbers n d).mapError fun _ => .metre v.shown
      | _, _ => .error (.metre v.shown)
    | _ => .error (.metre v.shown)

/-- The ways a metre can be given. -/
inductive Source (R : Type) where
  /-- A metre itself. -/
  | metre (m : Metre)
  /-- Text such as `3/4`, or nothing for common time. -/
  | value (v : Value R)
  /-- Two numbers. -/
  | pair (numerator denominator : Value R)

instance : Inhabited (Source R) := ⟨.metre common⟩

/-- The metre a source gives. -/
def Source.resolve : Source R → Except Fault Metre
  | .metre m => .ok m
  | .value v => ofValue v
  | .pair n d => ofPair n d

end Metre

end Lamella
