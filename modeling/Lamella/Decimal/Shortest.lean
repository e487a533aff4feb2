/-!
# Shortest decimals

A binary number is the rounding of every rational in an interval around it. `shortest` finds the
decimal with the fewest digits in that interval and, among those, the one nearest to the number.
All comparisons are between natural numbers.

For each count of digits only the two neighbours of the number on that decimal grid are tried: if
any point of a grid lies in the interval, one of these two does, since the number itself lies
between them.
-/

namespace Lamella

/-- The number `digits * 10 ^ exponent`. -/
structure Decimal where
  digits : Nat
  exponent : Int
deriving DecidableEq, Inhabited

namespace Decimal

/-- Compares `a * 10 ^ p` with `b * 2 ^ q`. -/
def compareScaled (a : Nat) (p : Int) (b : Nat) (q : Int) : Ordering :=
  compare (a * Nat.pow 10 p.toNat * Nat.pow 2 (-q).toNat)
    (b * Nat.pow 2 q.toNat * Nat.pow 10 (-p).toNat)

/-- The rationals that round to one binary number, in units of `2 ^ unit`. -/
structure Interval where
  low : Nat
  high : Nat
  unit : Int
  /-- Whether the two ends round to the number too. -/
  closed : Bool

/-- The interval of the 64-bit number `m * 2 ^ q`. Below a power of two the words lie twice as
dense, and an end belongs to the interval when it ties toward an even `m`. -/
def interval (m : Nat) (q : Int) : Interval where
  low := if m = Nat.pow 2 52 ∧ -1074 < q then 4 * m - 1 else 4 * m - 2
  high := 4 * m + 2
  unit := q - 2
  closed := m % 2 == 0

/-- Whether `c * 10 ^ p` lies in an interval. -/
def Interval.contains (i : Interval) (c : Nat) (p : Int) : Bool :=
  let below := compareScaled c p i.low i.unit
  let above := compareScaled c p i.high i.unit
  (below == .gt || (i.closed && below == .eq)) && (above == .lt || (i.closed && above == .eq))

/-- The count of decimal digits of `n`; one for zero. -/
def digitCount (n : Nat) : Nat := (Nat.toDigits 10 n).length

/-- The largest `e` with `10 ^ e ≤ m * 2 ^ q`, for a positive `m`. -/
def magnitude (m : Nat) (q : Int) : Int :=
  let guess : Int := (digitCount (m * Nat.pow 2 q.toNat) : Int) - digitCount (Nat.pow 2 (-q).toNat)
  if compareScaled 1 guess m q == .gt then guess - 1 else guess

/-- The greatest `c` with `c * 10 ^ p ≤ m * 2 ^ q`. -/
def gridFloor (m : Nat) (q p : Int) : Nat :=
  (m * Nat.pow 2 q.toNat * Nat.pow 10 (-p).toNat) / (Nat.pow 2 (-q).toNat * Nat.pow 10 p.toNat)

/-- The decimal of `count` digits that rounds to `m * 2 ^ q`, if there is one: the nearer of the
two grid neighbours, of two equally near the even one. -/
def candidate (m : Nat) (q : Int) (count : Nat) : Option Decimal :=
  let p := magnitude m q - count + 1
  let c := gridFloor m q p
  let i := interval m q
  match i.contains c p, i.contains (c + 1) p with
  | false, false => none
  | true, false => some ⟨c, p⟩
  | false, true => some ⟨c + 1, p⟩
  | true, true =>
    match compareScaled (2 * c + 1) p (2 * m) q with
    | .gt => some ⟨c, p⟩
    | .lt => some ⟨c + 1, p⟩
    | .eq => some ⟨if c % 2 = 0 then c else c + 1, p⟩

/-- The shortest decimal that rounds to the 64-bit number `m * 2 ^ q`. -/
def shortest (m : Nat) (q : Int) : Decimal :=
  if m = 0 then ⟨0, 0⟩
  else
    let found := (List.range 17).findSome? fun k => candidate m q (k + 1)
    found.getD ⟨gridFloor m q (magnitude m q - 16), magnitude m q - 16⟩

end Decimal

end Lamella
