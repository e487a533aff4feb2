import Lamella.Text.Basic

/-!
# Octets in texts

A name that is kept in bytes need not be a text. A byte that is part of no character then stands in
the text as a half, so that every row of bytes has a text. Bytes that do write a character are the
same as the character.

## Main definitions

- `Point.octet?`: the byte that a half stands for.
- `Point.isBodiless`: whether no bytes at all write a point.
- `Text.settle`: a text with characters for the bytes that write them.
-/

namespace Lamella

namespace Point

/-- The byte that a half stands for; bytes below 128 are characters. -/
def octet? (p : Point) : Option Nat :=
  if p.isHalf ∧ 0xdc80 ≤ p.code ∧ p.code ≤ 0xdcff then some (p.code - 0xdc00) else none

/-- Whether no bytes write a point. -/
def isBodiless (p : Point) : Bool := p.isHalf && p.octet?.isNone

/-- The low six bits of a byte that continues a character. -/
def continued? (p : Point) : Option Nat :=
  p.octet?.bind fun b => if 0x80 ≤ b ∧ b < 0xc0 then some (b - 0x80) else none

end Point

namespace Text

/-- The first byte of a character: the bits that it holds, how many bytes follow it, and the least
number that as many bytes are needed for. -/
def leading? (b : Nat) : Option (Nat × Nat × Nat) :=
  if 0xc0 ≤ b ∧ b < 0xe0 then some (b - 0xc0, 1, 0x80)
  else if 0xe0 ≤ b ∧ b < 0xf0 then some (b - 0xe0, 2, 0x800)
  else if 0xf0 ≤ b ∧ b < 0xf8 then some (b - 0xf0, 3, 0x10000)
  else none

/-- The character that bytes at the front of a text write, and what follows it. -/
def fused? : Text → Option (Char × Text)
  | [] => none
  | p :: rest => do
    let (bits, count, least) ← leading? (← p.octet?)
    let tail ← (rest.take count).mapM Point.continued?
    let n := tail.foldl (fun n bits => 64 * n + bits) bits
    guard (tail.length = count ∧ least ≤ n ∧ n.isValidChar)
    return (.ofNat n, rest.drop count)

/-- A text with characters for the bytes that write them. Each step is on one point at least. -/
def settleFrom : Nat → Text → Text
  | 0, s => s
  | _, [] => []
  | fuel + 1, p :: rest =>
    match fused? (p :: rest) with
    | some (c, rest) => .char c :: settleFrom fuel rest
    | none => p :: settleFrom fuel rest

/-- A text with characters for the bytes that write them. -/
def settle (s : Text) : Text := settleFrom s.length s

end Text

end Lamella
