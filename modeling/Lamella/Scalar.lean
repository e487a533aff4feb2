import Lamella.Binary
import Lamella.Decimal.Numeral
import Lamella.Decimal.Written
import Lamella.Rounding

/-!
# Scalars

Times, durations, tempi and frequencies are measured in a scalar type `R`. The same definitions run
at `Float` and are reasoned about at `Rat`, so a scalar type offers only what both have: the four
operations, an order, ways in from integers and numerals, a written form, and `reading`, the exact
value a scalar stands for.

## Main definitions

- `Scalar`: the class of scalar types, with instances for `Float` and `Rat`.
- `Scalar.round`, `Scalar.floor`, `Scalar.ceil`, `Scalar.trunc`: integers from scalars, which fail
  with a `Gap` when there is no integer to return.
- `Scalar.format`, `Scalar.fixed`: scalars written to a count of digits.
- `Analytic`: scalar types with the functions that pitch and sound need.
-/

namespace Lamella

/-- Why a scalar has no integer near it. -/
inductive Gap where
  | undefined
  | infinite
deriving DecidableEq, Inhabited

/-- A type of measured quantities. -/
class Scalar (R : Type) extends Add R, Sub R, Mul R, Div R, Neg R, LT R, LE R,
    OfScientific R where
  decideLt : DecidableLT R
  decideLe : DecidableLE R
  /-- The scalar nearest to an integer. -/
  ofInt : Int → R
  /-- The scalar nearest to the quotient of two integers. -/
  ofQuotient : Int → Int → R
  /-- The exact value of a scalar. -/
  reading : R → Reading
  /-- The scalar nearest to a numeral, if the type has one. -/
  ofNumeral? : Numeral → Option R
  /-- The scalar that a fraction of two integers says, if scalars are written so. -/
  ofFraction? : Int → Nat → Option R := fun _ _ => none
  /-- The text of a scalar, which reads back as the same scalar. -/
  written : R → String

namespace Reading

/-- The rational a reading holds, or why it holds none. -/
def rational : Reading → Except Gap Rat
  | finite q => .ok q
  | infinite _ => .error .infinite
  | undefined => .error .undefined

end Reading

namespace Scalar

variable {R : Type} [Scalar R]

instance : DecidableLT R := Scalar.decideLt

instance : DecidableLE R := Scalar.decideLe

/-- The scalar nearest to a count. -/
def ofNat (n : Nat) : R := ofInt (n : Int)

/-- The scalar nearest to an integer, if it is a number at all. -/
def ofInt? (n : Int) : Option R :=
  let x : R := ofInt n
  match reading x with
  | .finite _ => some x
  | _ => none

/-- Equality of value: both zeros are the same, and an undefined scalar differs from itself. -/
@[inline] def same (a b : R) : Bool := decide (a ≤ b) && decide (b ≤ a)

/-- Whether a scalar is the number zero. -/
@[inline] def isZero (a : R) : Bool := same a (ofInt 0)

/-- The magnitude of a scalar. -/
@[inline] def abs (a : R) : R := if a < ofInt 0 then -a else if isZero a then ofInt 0 else a

/-- A quotient, unless the divisor is zero. -/
def quotient? (a b : R) : Option R := if isZero b then none else some (a / b)

/-- The larger of two scalars; the first unless the second exceeds it. -/
@[inline] def larger (a b : R) : R := if a < b then b else a

/-- The smaller of two scalars; the first unless the second is below it. -/
def smaller (a b : R) : R := if b < a then b else a

/-- The nearest integer, an exact half going to the even neighbour. -/
def round (a : R) : Except Gap Int := (reading a).rational.map roundHalfEven

/-- The largest integer that is not above `a`. -/
def floor (a : R) : Except Gap Int := (reading a).rational.map Rat.floor

/-- The smallest integer that is not below `a`. -/
def ceil (a : R) : Except Gap Int := (reading a).rational.map Rat.ceil

/-- The integer part of `a`, toward zero. -/
def trunc (a : R) : Except Gap Int := (reading a).rational.map truncate

/-- Whether a scalar is below zero, or a zero that divides one into a number below zero. -/
def isNegative (a : R) : Bool :=
  decide (a < ofInt 0) || (isZero a && decide (ofInt 1 / a < ofInt 0))

/-- Writes a scalar with `write`, which takes its sign and its exact value; scalars that are no
finite number have names. -/
def format (write : Bool → Rat → List Char) (a : R) : String :=
  match reading a with
  | .undefined => "nan"
  | .infinite negative => if negative then "-inf" else "inf"
  | .finite q => String.ofList (write (isNegative a) q)

/-- A scalar with a fixed count of digits after the point. -/
def fixed (places : Nat) (a : R) : String := format (Decimal.fixed places) a

end Scalar

/-! ## Machine numbers -/

/-- The machine number nearest to a numeral. -/
def Numeral.toFloat : Numeral → Float
  | .finite negative d =>
    let x := OfScientific.ofScientific d.digits (decide (d.exponent < 0)) d.exponent.natAbs
    if negative then -x else x
  | .infinite negative => if negative then -(1.0 / 0.0) else 1.0 / 0.0
  | .undefined => 0.0 / 0.0

instance : Scalar Float where
  decideLt := inferInstance
  decideLe := inferInstance
  ofInt := Float.ofInt
  ofQuotient a b := .ofBits (.ofNat (Binary.quotientWord 11 52 a b))
  reading x := (Binary.ofFloat x).reading
  ofNumeral? s := some s.toFloat
  written x := Decimal.ofBinary (.ofFloat x)

/-! ## Exact numbers -/

/-- The rational a numeral says. -/
def Numeral.toRat? : Numeral → Option Rat
  | .finite negative d =>
    let q : Rat := OfScientific.ofScientific d.digits (decide (d.exponent < 0)) d.exponent.natAbs
    some (if negative then -q else q)
  | _ => none

instance : Scalar Rat where
  decideLt := inferInstance
  decideLe := inferInstance
  ofInt n := (n : Rat)
  ofQuotient a b := (a : Rat) / (b : Rat)
  reading := .finite
  ofNumeral? := Numeral.toRat?
  ofFraction? n d := some (mkRat n d)
  written q := toString q.num ++ "/" ++ toString q.den

/-! ## Functions beyond arithmetic -/

/-- A scalar type with the functions that pitch and sound need. -/
class Analytic (R : Type) extends Scalar R where
  /-- The logarithm to base two. -/
  log2 : R → R
  /-- The power of two. -/
  exp2 : R → R
  /-- The sine of an angle in radians. -/
  sin : R → R
  /-- The square root. -/
  sqrt : R → R
  /-- The ratio of a circle's circumference to its diameter. -/
  pi : R

instance : Analytic Float where
  log2 := Float.log2
  exp2 x := Float.pow 2.0 x
  sin := Float.sin
  sqrt := Float.sqrt
  pi := 3.141592653589793

end Lamella
