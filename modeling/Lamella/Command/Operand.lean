import Lamella.Scalar

/-!
# Numbers on a command line

Numbers on a command line are written in ASCII digits. Blanks around them are ignored, and a number
that cannot be read as it stands is read once more without its underscores. Before an integer is
read, a plus sign in front, zeros in front, a point with nothing but zeros after it, and underscores
are taken off, in this order; a minus sign may stand before the zeros or after them.

## Main definitions

- `Operand.numeral?`: reads a number.
- `Operand.integer?`: reads an integer.
-/

namespace Lamella.Operand

/-- A text without its underscores, of which there must be one, none of them at an end or next to
another. -/
def withoutUnderscores? (s : List Char) : Option (List Char) :=
  if s.head? = some '_' ∨ s.getLast? = some '_' ∨ '_' ∉ s ∨ Text.occurs ['_', '_'] s then none
  else some (s.filter (· ≠ '_'))

/-- Reads a number. -/
def numeral? (s : List Char) : Option Numeral :=
  (Numeral.ofPlain? (Text.trim Text.isNumberBlank s)).or
    ((withoutUnderscores? s).bind Numeral.ofPlain?)

/-- Drops a plus sign, unless a minus sign follows. -/
def withoutPlus : List Char → List Char
  | '+' :: '-' :: rest => '+' :: '-' :: rest
  | '+' :: rest => rest
  | s => s

/-- What begins with the first digit other than zero or with a minus sign; of zeros alone, or of
zeros before a point, it is the last one. `before` is the character in front. -/
def afterZeros? (before : Char) : List Char → Option (List Char)
  | [] => some [before]
  | c :: rest =>
    if c = '0' ∨ c = '_' then afterZeros? c rest
    else if c.isDigit ∨ c = '-' then some (c :: rest)
    else if c = '.' then some (before :: c :: rest)
    else none

/-- An integer without the zeros in front of it; it must begin with a digit or a minus sign. -/
def withoutZeros? : List Char → Option (List Char)
  | [] => none
  | c :: rest =>
    if c = '0' then afterZeros? c rest
    else if c.isDigit ∨ c = '-' then some (c :: rest)
    else none

/-- A text without its point, if nothing but zeros follows. -/
def withoutPoint (s : List Char) : List Char :=
  match s.dropWhile (· ≠ '.') with
  | _ :: tail => if tail ≠ [] ∧ tail.all (· = '0') then s.takeWhile (· ≠ '.') else s
  | [] => s

/-- An integer without zeros in front, where a minus sign may be in front of them. -/
def unpadded? : List Char → Option (List Char)
  | '-' :: rest => (withoutZeros? rest).map ('-' :: ·)
  | s => withoutZeros? s

/-- An integer in its plainest form. -/
def cleaned? (s : List Char) : Option (List Char) :=
  (unpadded? (withoutPlus s)).map fun s =>
    let s := withoutPoint s
    (withoutUnderscores? s).getD s

/-- Reads an integer of no more characters than digits are read. -/
def integer? (s : List Char) : Option Int := do
  let s ← cleaned? (Text.trim Text.isNumberBlank s)
  guard (s.length ≤ Decimal.digitLimit)
  Decimal.plainInteger? s

end Lamella.Operand
