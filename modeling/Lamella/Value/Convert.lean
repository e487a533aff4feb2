import Lamella.Fault

/-!
# Numbers from values

How loosely typed data becomes a scalar or an integer: numbers as they are, truth values as zero
and one, text by reading it as a numeral.
-/

namespace Lamella.Value

variable {R : Type} [Scalar R]

/-- An integer as a scalar, if the scalars reach that far. -/
def scalarOfInt (n : Int) : Except Fault R :=
  match Scalar.ofInt? n with
  | some x => .ok x
  | none => .error .tooLarge

/-- A quotient, unless the divisor is zero. -/
def quotient (a b : R) : Except Fault R :=
  match Scalar.quotient? a b with
  | some x => .ok x
  | none => .error .zeroDivisor

/-- The scalar nearest to the quotient of two integers, if the divisor is not zero and the scalars
reach that far. -/
def quotientOfInts (a b : Int) : Except Fault R :=
  if b = 0 then .error .zeroDivisor
  else
    let x : R := Scalar.ofQuotient a b
    match Scalar.reading x with
    | .finite _ => .ok x
    | _ => .error .tooLarge

/-- A value as a scalar. -/
def toScalar : Value R → Except Fault R
  | int n => scalarOfInt n
  | num x => .ok x
  | bool b => .ok (Scalar.ofInt (if b then 1 else 0))
  | str s =>
    match (s.chars?.bind Numeral.ofChars?).bind Scalar.ofNumeral? with
    | some x => .ok x
    | none => .error (.notANumber s)
  | _ => .error .wrongShape

/-- A text as an integer. -/
def integerOfText (s : Text) : Except Fault Int :=
  match s.chars?.bind Decimal.integer? with
  | some n =>
    let count := Text.digitCount s
    if Decimal.digitLimit < count then .error (.tooManyDigits count) else .ok n
  | none => .error (.notAnInteger s)

/-- A value as an integer; of a measured number its integer part. -/
def toInteger : Value R → Except Fault Int
  | int n => .ok n
  | num x => (Scalar.trunc x).mapError Fault.ofGap
  | bool b => .ok (if b then 1 else 0)
  | str s => integerOfText s
  | _ => .error .wrongShape

/-- Whether a number is at most a scalar; a value that is no number has no answer. -/
def atMost (v : Value R) (x : R) : Except Fault Bool :=
  match v with
  | num y => .ok (decide (y ≤ x))
  | int n => .ok (below n)
  | bool b => .ok (below (if b then 1 else 0))
  | _ => .error .wrongShape
where
  /-- Whether an integer is at most the scalar, whatever its size. -/
  below (n : Int) : Bool :=
    match Scalar.reading x with
    | .finite q => decide ((n : Rat) ≤ q)
    | .infinite negative => !negative
    | .undefined => false

end Lamella.Value
