import Lamella.Rounding

/-!
# Binary words

A binary word encodes `± mantissa * 2 ^ exponent`, an infinity, or no number at all. `Binary` is
that datum, decoded from the bits of a machine number; everything exact that is said of a machine
number (its rational value, its shortest decimal) is said of its `Binary`.

## Main definitions

- `Binary`, `Binary.ofWord`: the datum and its decoding; `Binary.reading`: the exact value.
- `Binary.nearestWord`: the word nearest to a quotient.
-/

namespace Lamella

/-- A number `± mantissa * 2 ^ exponent`, an infinity, or no number: what a binary word encodes.
The sign is kept apart, since a word tells `-0` from `0`. -/
inductive Binary where
  | finite (negative : Bool) (mantissa : Nat) (exponent : Int)
  | infinite (negative : Bool)
  | undefined
deriving DecidableEq, Inhabited

/-- What a scalar holds: a rational number, an infinity with its sign, or no number. -/
inductive Reading where
  | finite (q : Rat)
  | infinite (negative : Bool)
  | undefined
deriving DecidableEq, Inhabited

namespace Binary

/-- Decodes a word of one sign bit, `fieldBits` exponent bits and `fractionBits` fraction bits. -/
def ofWord (fieldBits fractionBits : Nat) (word : Nat) : Binary :=
  let negative := word / Nat.pow 2 (fieldBits + fractionBits) % 2 == 1
  let field := word / Nat.pow 2 fractionBits % Nat.pow 2 fieldBits
  let fraction := word % Nat.pow 2 fractionBits
  let bias : Int := Nat.pow 2 (fieldBits - 1) - 1
  if field = Nat.pow 2 fieldBits - 1 then
    if fraction = 0 then .infinite negative else .undefined
  else if field = 0 then .finite negative fraction (1 - bias - fractionBits)
  else .finite negative (Nat.pow 2 fractionBits + fraction) (field - bias - fractionBits)

/-- The magnitude `mantissa * 2 ^ exponent` as a rational. -/
def magnitude (mantissa : Nat) (exponent : Int) : Rat :=
  if 0 ≤ exponent then ((mantissa * Nat.pow 2 exponent.toNat : Nat) : Rat)
  else mkRat mantissa (Nat.pow 2 (-exponent).toNat)

/-- The exact value a word stands for; both zeros read as zero. -/
def reading : Binary → Reading
  | finite true m e => .finite (-magnitude m e)
  | finite false m e => .finite (magnitude m e)
  | infinite s => .infinite s
  | undefined => .undefined

/-- The decoded 64-bit word of a `Float`. -/
def ofFloat (x : Float) : Binary := .ofWord 11 52 x.toBits.toNat

/-- The decoded 32-bit word of a `Float32`. -/
def ofFloat32 (x : Float32) : Binary := .ofWord 8 23 x.toBits.toNat

/-- The word without a sign that is nearest to `n / d`; of two equally near, the one with the even
fraction. A quotient beyond the largest number has the word of the infinity. -/
def nearestWord (fieldBits fractionBits n d : Nat) : Nat :=
  let bias : Int := Nat.pow 2 (fieldBits - 1) - 1
  let least : Int := 1 - bias - fractionBits
  let q := mkRat n d
  let about : Int := n.log2 - d.log2 - fractionBits
  let fits := magnitude (Nat.pow 2 fractionBits) about ≤ q
  let exponent := max least (if fits then about else about - 1)
  let mantissa := (roundHalfEven (q / magnitude 1 exponent)).toNat
  if n = 0 then 0
  else min ((exponent - least).toNat * Nat.pow 2 fractionBits + mantissa)
    ((Nat.pow 2 fieldBits - 1) * Nat.pow 2 fractionBits)

/-- The word nearest to `a / b`, negative if just one of the two is. -/
def quotientWord (fieldBits fractionBits : Nat) (a b : Int) : Nat :=
  (if decide (a < 0) ^^ decide (b < 0) then Nat.pow 2 (fieldBits + fractionBits) else 0) +
    nearestWord fieldBits fractionBits a.natAbs b.natAbs

end Binary

end Lamella
