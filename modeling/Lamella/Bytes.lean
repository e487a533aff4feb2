/-!
# Numbers in bytes

Binary files hold numbers in a fixed count of bytes, the low one first or the high one first, or in
as many groups of seven bits as they need, where every group but the last is marked.

## Main definitions

- `Bytes.low`, `Bytes.high`: a number in some bytes; `Bytes.ofLow`, `Bytes.ofHigh` read it.
- `Bytes.groups`: a number in groups of seven bits; `Bytes.readGroups?` reads it.
- `Bytes.take?`: bytes off the front, if there are as many.
-/

namespace Lamella.Bytes

/-- A number in some bytes, the low one first. -/
def low : Nat → Nat → List UInt8
  | 0, _ => []
  | count + 1, n => UInt8.ofNat n :: low count (n / 256)

/-- The number that bytes hold, the low one first. -/
def ofLow : List UInt8 → Nat
  | [] => 0
  | b :: rest => b.toNat + 256 * ofLow rest

/-- A number in some bytes, the high one first. -/
def high (count n : Nat) : List UInt8 := (low count n).reverse

/-- The number that bytes hold, the high one first. -/
def ofHigh (bytes : List UInt8) : Nat := ofLow bytes.reverse

/-- Marked groups of seven bits before bytes. -/
def marked (n : Nat) (rest : List UInt8) : List UInt8 :=
  if h : n = 0 then rest
  else
    have : n / 128 < n := Nat.div_lt_self (Nat.pos_of_ne_zero h) (by decide)
    marked (n / 128) (UInt8.ofNat (128 + n % 128) :: rest)

/-- A number in groups of seven bits, the high one first; all but the last are marked. -/
def groups (n : Nat) : List UInt8 := marked (n / 128) [UInt8.ofNat (n % 128)]

/-- The number of the groups at the front, after groups of some number, and the bytes after them. -/
def readGroups? (n : Nat) : List UInt8 → Option (Nat × List UInt8)
  | [] => none
  | b :: rest =>
    if b < 128 then some (128 * n + b.toNat, rest) else readGroups? (128 * n + b.toNat % 128) rest

/-- Some bytes off the front, and the bytes after them. -/
def take? (count : Nat) (bytes : List UInt8) : Option (List UInt8 × List UInt8) :=
  let taken := bytes.take count
  if taken.length = count then some (taken, bytes.drop count) else none

/-- The bytes of a text. -/
def ofText (s : String) : List UInt8 := s.toUTF8.toList

/-- The text of bytes, if they are that of one. -/
def text? (bytes : List UInt8) : Option String := String.fromUTF8? ⟨bytes.toArray⟩

end Lamella.Bytes
