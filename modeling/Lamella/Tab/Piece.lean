import Lamella.Text.Blank

/-!
# Pieces of a line

A line of tablature falls into pieces. Blanks separate them, except inside a group in parentheses,
which is one piece with the blanks in it. A parenthesis always begins a new piece, a group that is
not closed runs to the end of its line, and groups inside a group dissolve into it.

## Main definitions

- `Tab.Piece`: a piece and the column of its first character.
- `Tab.pieces`: the pieces of a line.
-/

namespace Lamella.Tab

/-- A piece of a line, and the column of its first character, counted from one. -/
structure Piece where
  text : Text
  column : Nat
deriving DecidableEq, Inhabited

/-- What has been read of a piece becomes a piece, unless it is blank. -/
def flush (current : Text) (start : Nat) : List Piece :=
  let text := Text.strip current
  if text = [] then [] else [⟨text, start⟩]

/-- The pieces of the rest of a line. The next character stands at `column`, `current` is what has
been read of a piece that began at `start`, and `depth` groups are open. -/
def piecesFrom (column start depth : Nat) (current : Text) : Text → List Piece
  | [] => flush current start
  | c :: rest =>
    if c = '(' then
      -- A group begins at its parenthesis, whatever piece was being read
      if depth = 0 then flush current start ++ piecesFrom (column + 1) column 1 "(" rest
      else piecesFrom (column + 1) start (depth + 1) current rest
    else if c = ')' ∧ depth ≠ 0 then
      -- Only the parenthesis that closes the outermost group is kept
      if depth = 1 then ⟨current ++ ")", start⟩ :: piecesFrom (column + 1) start 0 [] rest
      else piecesFrom (column + 1) start (depth - 1) current rest
    else if Text.isBlank c ∧ depth = 0 then
      flush current start ++ piecesFrom (column + 1) start 0 [] rest
    else
      -- The first character of a piece sets where it begins
      piecesFrom (column + 1) (if current = [] then column else start) depth (current ++ [c]) rest

/-- The pieces of a line. -/
def pieces (line : Text) : List Piece := piecesFrom 1 1 0 [] line

end Lamella.Tab
