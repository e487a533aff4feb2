/-!
# Texts

A text is a row of points. Nearly every point is a character. A character beyond the first 65536 is
a pair of code units in texts that count by units, though, and such a text may hold one half of a
pair without the other; a half has no character of its own, and no bytes.

## Main definitions

- `Point`, `Text`: points and texts.
- `Point.code`: the code point of a point, by which points are ordered.
- `Text.chars?`: the characters of a text without halves.
- `Text.firstRun?`: where points of a class stand first; of halves, where a text has no bytes.
- `Text.byteCount`: how many bytes a text makes.
- `Text.inRanges`: whether a code point is in a table of ranges.
-/

namespace Lamella

/-- A point of a text: a character, or one half of a pair of code units. -/
inductive Point where
  | char (c : Char)
  | half (unit : Fin 2048)
deriving DecidableEq, Inhabited

/-- A row of points. -/
abbrev Text : Type := List Point

namespace Point

instance : Coe Char Point := ⟨.char⟩

/-- The least code unit that is a half of a pair. -/
def leastHalf : Nat := 0xd800

/-- The code point of a point. -/
def code : Point → Nat
  | char c => c.toNat
  | half unit => leastHalf + unit

/-- The point of a code point. -/
def ofCode (n : Nat) : Point :=
  if h : leastHalf ≤ n ∧ n - leastHalf < 2048 then .half ⟨n - leastHalf, h.2⟩ else .char (.ofNat n)

/-- The character that a point is. -/
def char? : Point → Option Char
  | char c => some c
  | half _ => none

/-- Whether a point is a half. -/
def isHalf : Point → Bool
  | char _ => false
  | half _ => true

/-- Whether a point is a character of a class. -/
def is (p : Char → Bool) : Point → Bool
  | char c => p c
  | half _ => false

/-- How many bytes a point makes; a half is counted as the one byte that may be kept in it. -/
def byteCount : Point → Nat
  | char c => c.utf8Size
  | half _ => 1

end Point

namespace Text

/-- The text of characters. -/
def ofChars (s : List Char) : Text := s.map .char

/-- The text of a string. -/
def ofString (s : String) : Text := ofChars s.toList

instance : Coe String Text := ⟨ofString⟩

/-- The characters of a text, if it has no halves. -/
def chars? (s : Text) : Option (List Char) := s.mapM Point.char?

/-- A text as a string, with a mark in place of every half. -/
def display (s : Text) : String := String.ofList (s.map fun p => p.char?.getD '\ufffd')

/-- Whether a text comes before another or is it, by the code points of its points. -/
def le : Text → Text → Bool
  | [], _ => true
  | _ :: _, [] => false
  | p :: s, q :: t => decide (p.code < q.code) || (p == q && le s t)

/-- How many bytes a text makes. -/
def byteCount (s : Text) : Nat := s.foldl (fun count p => count + p.byteCount) 0

/-- The first run of points of a class in a text: its place, its length and the code point that it
begins with. -/
def firstRun? (p : Point → Bool) (s : Text) : Option (Nat × Nat × Nat) :=
  match s.dropWhile (!p ·) with
  | [] => none
  | c :: rest => some ((s.takeWhile (!p ·)).length, (rest.takeWhile p).length + 1, c.code)

/-! ## Ranges of code points

Character classes that no short rule describes are tables of ascending closed ranges. -/

/-- The index of the last range that begins at or below `n` among those in `[low, high)`, or `low`
if there is none, by halving. -/
def rangeIndex (table : Array (Nat × Nat)) (n low high : Nat) : Nat :=
  if high ≤ low + 1 then low
  else
    let middle := (low + high) / 2
    match table[middle]? with
    | some range =>
      if range.1 ≤ n then rangeIndex table n middle high else rangeIndex table n low middle
    | none => low
termination_by high - low

/-- The range of an ascending table that holds `n`. -/
def findRange? (table : Array (Nat × Nat)) (n : Nat) : Option (Nat × Nat) :=
  table[rangeIndex table n 0 table.size]?.filter fun range => range.1 ≤ n && n ≤ range.2

/-- Whether `n` lies in one of the ranges of an ascending table. -/
def inRanges (table : Array (Nat × Nat)) (n : Nat) : Bool := (findRange? table n).isSome

end Text

end Lamella
