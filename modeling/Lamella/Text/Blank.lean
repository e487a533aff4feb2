import Lamella.Text.Basic

/-!
# Blank characters

White space, the ends of lines, and the pieces of a text between them.

## Main definitions

- `isBlank`, `isLineEnd`: the two classes of points.
- `words`: the maximal runs of a text without blanks.
- `strip`: a text without the blanks at its two ends.
- `occurs`: whether a part occurs in a text.
- `lines`: a text cut at its line ends; a carriage return with the line feed after it is one end,
  and an end at the very end of the text begins no further line.
-/

namespace Lamella.Text

/-! ## Rows of any kind -/

section

variable {α : Type}

/-- A row without the members of a class at its two ends. -/
def trim (p : α → Bool) (s : List α) : List α := ((s.dropWhile p).reverse.dropWhile p).reverse

/-- A row without the members of a class at its end. -/
def trimEnd (p : α → Bool) (s : List α) : List α := (s.reverse.dropWhile p).reverse

/-- Adds a member to the front of the first piece. -/
def consFirst (c : α) : List (List α) → List (List α)
  | [] => [[c]]
  | piece :: rest => (c :: piece) :: rest

/-- The pieces of a row between the members of a class, empty ones included. -/
def pieces (p : α → Bool) : List α → List (List α)
  | [] => [[]]
  | c :: rest => if p c then [] :: pieces p rest else consFirst c (pieces p rest)

/-- Rows with a separator between each two. -/
def join (separator : List α) : List (List α) → List α
  | [] => []
  | [s] => s
  | s :: rest => s ++ separator ++ join separator rest

/-- Whether a part occurs in a row, its members next to each other. -/
def occurs [BEq α] (part : List α) : List α → Bool
  | [] => part.isEmpty
  | c :: rest => part.isPrefixOf (c :: rest) || occurs part rest

end

/-! ## White space -/

/-- The code points of white space: the controls from tab to carriage return, the four separators,
the space, and the blanks of Unicode. -/
def isBlankCode (n : Nat) : Bool :=
  (0x9 ≤ n && n ≤ 0xd) || (0x1c ≤ n && n ≤ 0x20) || n == 0x85 || n == 0xa0 || n == 0x1680 ||
    (0x2000 ≤ n && n ≤ 0x200a) || n == 0x2028 || n == 0x2029 || n == 0x202f || n == 0x205f ||
    n == 0x3000

/-- White space. -/
def isBlank (p : Point) : Bool := isBlankCode p.code

/-- The blanks that may surround a written number: all but the four separator controls. -/
def isNumberBlank (c : Char) : Bool :=
  isBlankCode c.toNat && !(0x1c ≤ c.toNat && c.toNat ≤ 0x1f)

/-- The points that end a line. -/
def isLineEnd (p : Point) : Bool :=
  let n := p.code
  (0xa ≤ n && n ≤ 0xd) || (0x1c ≤ n && n ≤ 0x1e) || n == 0x85 || n == 0x2028 || n == 0x2029

/-- A text without the blanks at its two ends. -/
def strip (s : Text) : Text := trim isBlank s

/-- The maximal runs of a text without blanks. -/
def words (s : Text) : List Text := (pieces isBlank s).filter (· ≠ [])

/-- The entries of a table that is written as text, with spaces and line feeds between them. -/
def tableEntries (table : String) : List String :=
  ((table.splitOn "\n").flatMap (·.splitOn " ")).filter (· ≠ "")

/-- The lines of a text, without the points that end them. -/
def lines : Text → List Text
  | [] => []
  | .char '\r' :: .char '\n' :: rest => [] :: lines rest
  | c :: rest => if isLineEnd c then [] :: lines rest else consFirst c (lines rest)

/-- A text with every carriage return, alone or before a line feed, written as a line feed. -/
def unifyLineEnds : Text → Text
  | [] => []
  | .char '\r' :: .char '\n' :: rest => .char '\n' :: unifyLineEnds rest
  | c :: rest => (if c = '\r' then .char '\n' else c) :: unifyLineEnds rest

/-- A text with every occurrence of a character replaced. -/
def replaceChar (old new : Char) (s : Text) : Text :=
  s.map fun (c : Point) => if c = old then .char new else c

end Lamella.Text
