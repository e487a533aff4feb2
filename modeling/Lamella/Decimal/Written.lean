import Lamella.Binary
import Lamella.Rounding
import Lamella.Decimal.Shortest

/-!
# Written numbers

Decimal texts of exact numbers: the shortest text that reads back, a fixed count of places, a fixed
count of digits with an exponent, and a fixed count of digits in whichever of the two forms is
shorter to read. Every rounding is of the exact value, an exact half going to the even neighbour.
-/

namespace Lamella.Decimal

/-- `n` in decimal, with zeros in front up to `width` digits. -/
def padded (width n : Nat) : List Char :=
  let ds := Nat.toDigits 10 n
  List.replicate (width - ds.length) '0' ++ ds

/-- A minus sign for a negative number. -/
def signed (negative : Bool) (text : List Char) : List Char :=
  if negative then '-' :: text else text

/-- `digits * 10 ^ exponent` with a point and at least one digit on both sides of it. -/
def positional (d : Decimal) : List Char :=
  let ds := Nat.toDigits 10 d.digits
  if 0 ≤ d.exponent then ds ++ List.replicate d.exponent.toNat '0' ++ ['.', '0']
  else
    let places := (-d.exponent).toNat
    let all := padded (places + 1) d.digits
    all.take (all.length - places) ++ '.' :: all.drop (all.length - places)

/-- The mark, sign and at least two digits of a power of ten. -/
def power (e : Int) : List Char :=
  'e' :: (if e < 0 then '-' else '+') :: padded 2 e.natAbs

/-- One digit, the other digits after a point if there are any, and the power of ten. -/
def scientific (d : Decimal) : List Char :=
  let ds := Nat.toDigits 10 d.digits
  let e := d.exponent + ds.length - 1
  match ds with
  | [] => []
  | [c] => c :: power e
  | c :: rest => c :: '.' :: rest ++ power e

/-- Drops the zeros at the end of the digits. -/
def stripZeros (fuel : Nat) (d : Decimal) : Decimal :=
  match fuel with
  | 0 => d
  | fuel + 1 =>
    if d.digits ≠ 0 ∧ d.digits % 10 = 0 then stripZeros fuel ⟨d.digits / 10, d.exponent + 1⟩
    else d

/-- The text of a shortest decimal: positional when its leading digit stands for a power of ten
from `10 ^ -4` up to `10 ^ 15`, scientific otherwise. -/
def compact (negative : Bool) (d : Decimal) : List Char :=
  let d := stripZeros (digitCount d.digits) d
  let e := d.exponent + digitCount d.digits - 1
  signed negative (if d.digits = 0 then ['0', '.', '0']
    else if -4 ≤ e ∧ e < 16 then positional d else scientific d)

/-- The magnitude `q` with exactly `places` digits after the point. -/
def fixed (places : Nat) (negative : Bool) (q : Rat) : List Char :=
  let scaled := (roundHalfEven (q.abs * (Nat.pow 10 places : Nat))).toNat
  let all := padded (places + 1) scaled
  let whole := all.take (all.length - places)
  signed negative (if places = 0 then all else whole ++ '.' :: all.drop (all.length - places))

/-- The power of ten of the leading digit of a positive rational. -/
def leading (q : Rat) : Int :=
  let guess : Int := (digitCount q.num.natAbs : Int) - digitCount q.den
  if compare (Nat.pow 10 guess.toNat * q.den) (q.num.natAbs * Nat.pow 10 (-guess).toNat) == .gt then
    guess - 1
  else guess

/-- A positive rational rounded to `count` digits. -/
def rounded (count : Nat) (q : Rat) : Decimal :=
  let p := leading q - count + 1
  let scale : Rat := if 0 ≤ p then mkRat 1 (Nat.pow 10 p.toNat) else (Nat.pow 10 (-p).toNat : Nat)
  let c := (roundHalfEven (q * scale)).toNat
  if digitCount c = count then ⟨c, p⟩ else ⟨c / 10, p + 1⟩

/-- The magnitude `q` with one digit before the point, `places` after it, and a power of ten. -/
def exponential (places : Nat) (negative : Bool) (q : Rat) : List Char :=
  signed negative (if q = 0 then
      '0' :: (if places = 0 then [] else '.' :: List.replicate places '0') ++ power 0
    else scientific (rounded (places + 1) q.abs))

/-- The magnitude `q` to `count` digits without zeros at the end; scientific when the leading digit
stands for a power of ten below `10 ^ -4` or from `10 ^ count` on. -/
def general (count : Nat) (negative : Bool) (q : Rat) : List Char :=
  signed negative (if q = 0 then ['0']
    else
      let d := stripZeros count (rounded count q.abs)
      let e := d.exponent + digitCount d.digits - 1
      if e < -4 ∨ (count : Int) ≤ e then scientific d
      else if 0 ≤ d.exponent then Nat.toDigits 10 (d.digits * Nat.pow 10 d.exponent.toNat)
      else positional d)

/-- Writes the number a binary word encodes with `write`, which takes the sign and the exact value;
the three words that are no finite number have names. -/
def named (write : Bool → Rat → List Char) : Binary → String
  | .undefined => "nan"
  | .infinite negative => if negative then "-inf" else "inf"
  | .finite negative m e => String.ofList (write negative (Binary.magnitude m e))

/-- The shortest text that reads back as the same 64-bit number. -/
def ofBinary : Binary → String
  | .undefined => "nan"
  | .infinite negative => if negative then "-inf" else "inf"
  | .finite negative m e => String.ofList (compact negative (shortest m e))

end Lamella.Decimal
