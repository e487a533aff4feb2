/-!
# Shelves

Things are put on shelves by a number of theirs, so that one of them is found without a look at all
the others. The last bits of the number lead to the shelf. Whoever looks for a thing has to know its
number, and only that.

## Main definitions

- `Shelves`, `Shelves.put`: shelves, and putting a thing on one.
- `Shelves.any`: whether some thing on the shelf of a number has a property.
- `Shelves.any_put_self`, `Shelves.any_put_of_not`: what is found after a thing was put.
-/

namespace Lamella

/-- A shelf, or shelves for even and for odd numbers. -/
inductive Shelves (α : Type) where
  | shelf (things : List α)
  | fork (even odd : Shelves α)
deriving Inhabited

namespace Shelves

variable {α : Type}

/-- No things. -/
def bare : Shelves α := shelf []

/-- The things on a single shelf. -/
def things : Shelves α → List α
  | shelf things => things
  | fork _ _ => []

/-- The shelves for even numbers. -/
def even : Shelves α → Shelves α
  | shelf _ => bare
  | fork even _ => even

/-- The shelves for odd numbers. -/
def odd : Shelves α → Shelves α
  | shelf _ => bare
  | fork _ odd => odd

/-- Puts a thing on the shelf of a number, of which so many bits count. -/
def putAt (x : α) : Nat → Nat → Shelves α → Shelves α
  | 0, _, s => shelf (x :: s.things)
  | bits + 1, n, s =>
    if n % 2 = 0 then fork (putAt x bits (n / 2) s.even) s.odd
    else fork s.even (putAt x bits (n / 2) s.odd)

/-- Whether some thing has a property on the shelf of a number, of which so many bits count. -/
def anyAt (p : α → Bool) : Nat → Nat → Shelves α → Bool
  | 0, _, s => s.things.any p
  | bits + 1, n, s =>
    if n % 2 = 0 then anyAt p bits (n / 2) s.even else anyAt p bits (n / 2) s.odd

/-- How many bits of a number lead to its shelf. -/
def usualBits : Nat := 12

/-- Puts a thing on the shelf of a number. -/
def put (n : Nat) (x : α) (s : Shelves α) : Shelves α := putAt x usualBits n s

/-- Whether some thing on the shelf of a number has a property. -/
def any (p : α → Bool) (n : Nat) (s : Shelves α) : Bool := anyAt p usualBits n s

theorem anyAt_putAt_self (p : α → Bool) (x : α) (bits n : Nat) (s : Shelves α) :
    anyAt p bits n (putAt x bits n s) = (p x || anyAt p bits n s) := by
  induction bits generalizing n s with
  | zero => simp [putAt, anyAt, things]
  | succ bits ih => by_cases h : n % 2 = 0 <;> simp [putAt, anyAt, h, even, odd, ih]

theorem anyAt_putAt_of_not (p : α → Bool) (x : α) (hx : p x = false) (bits m n : Nat)
    (s : Shelves α) : anyAt p bits m (putAt x bits n s) = anyAt p bits m s := by
  induction bits generalizing m n s with
  | zero => simp [putAt, anyAt, things, hx]
  | succ bits ih =>
    by_cases h : n % 2 = 0 <;> by_cases h' : m % 2 = 0 <;> simp [putAt, anyAt, h, h', even, odd, ih]

/-- A thing is found under the number that it was put under. -/
theorem any_put_self (p : α → Bool) (x : α) (n : Nat) (s : Shelves α) :
    any p n (put n x s) = (p x || any p n s) := anyAt_putAt_self p x usualBits n s

/-- A thing without the property is never found, so that putting it changes nothing. -/
theorem any_put_of_not (p : α → Bool) (x : α) (hx : p x = false) (m n : Nat) (s : Shelves α) :
    any p m (put n x s) = any p m s := anyAt_putAt_of_not p x hx usualBits m n s

end Shelves

end Lamella
