import Lamella.Fault
import Lamella.Text.Blank
import Lamella.Text.Width

/-!
# The screen

What a command prints is text or a table. Text is folded at the width of the screen: between words
where it can be, within a word that is wider than the screen. How markup is read, and what a screen
can print at all, is not fixed here.

## Main definitions

- `Table`, `Printed`: what is printed.
- `Screen`: what a screen makes of text with markup.
- `Screen.lines`: the lines of a text.
- `Table.lines`: a table with a frame around its cells.
-/

namespace Lamella

/-- A table: a title, the names of the columns, and rows of as many cells. -/
structure Table where
  title : Text
  header : List Text
  rows : List (List Text)
deriving DecidableEq, Inhabited

/-- What is printed at once. -/
inductive Printed where
  | text (s : Text)
  | table (t : Table)
deriving DecidableEq, Inhabited

/-- All points of what is printed. -/
def Printed.points : Printed → Text
  | .text s => s
  | .table t => t.title ++ (t.header ++ t.rows.flatten).flatten

/-- What a screen makes of what is printed on it. -/
structure Screen where
  /-- The markup of a text that shows all of it. -/
  escape : Text → Text
  /-- The text that is seen of markup. -/
  shown : Text → Except Fault Text
  /-- The fault of what cannot be printed. -/
  accept : Printed → Except Fault Unit

namespace Screen

/-- Whether a point is a bell, a step back, a vertical tab, a form feed or a carriage return, which
are not printed. -/
def isControl (p : Point) : Bool := p.code ∈ [7, 8, 11, 12, 13]

/-- The words of a line, each with the blanks after it and the first with those before it too. The
word begun so far is given last point first. -/
def wordsFrom (word : Text) : Text → List Text
  | [] => if word.all Text.isBlank then [] else [word.reverse]
  | c :: rest =>
    if !Text.isBlank c && word.head?.any Text.isBlank && !word.all Text.isBlank then
      word.reverse :: wordsFrom [c] rest
    else wordsFrom (c :: word) rest

/-- The words of a line. -/
def words (line : Text) : List Text := wordsFrom [] line

/-- Folds words into lines, after a line begun that is filled up to some column. -/
def fill (width : Nat) (line : Text) (column : Nat) : List Text → List Text
  | [] => [line]
  | word :: rest =>
    let size := Text.cells (Text.trimEnd Text.isBlank word)
    if column + size ≤ width then fill width (line ++ word) (column + Text.cells word) rest
    else if width < size then
      let pieces := Text.chop width word
      let last := pieces.getLastD []
      (if line = [] then [] else [line]) ++ pieces.dropLast ++
        fill width last (Text.cells last) rest
    else if line = [] then fill width word column rest
    else line :: fill width word (Text.cells word) rest

/-- How many cells lie between two stops of the tabulator. -/
def tabStop : Nat := 8

/-- Parts of a line with a tab between each two, after some cells. A tab is a space, and as many
more as lead to the next stop. -/
def joinTabs (taken : Nat) : List Text → Text
  | [] => []
  | [part] => part
  | part :: rest =>
    let part := part ++ " "
    let column := taken + Text.cells part
    let spaces := (tabStop - column % tabStop) % tabStop
    part ++ List.replicate spaces (.char ' ') ++ joinTabs (column + spaces) rest

/-- A line with spaces for its tabs. -/
def expandTabs (line : Text) : Text :=
  joinTabs 0 (Text.pieces (fun (p : Point) => p = '\t') line)

/-- A line without the blanks at its end that make it longer than the screen is wide, and without
what is beyond the screen all the same. -/
def trimLine (width : Nat) (line : Text) : Text :=
  let blanks := (line.reverse.takeWhile Text.isBlank).length
  Text.crop width (line.take (line.length - min blanks (line.length - width)))

/-- A line folded at a width; a line of blanks stays. -/
def fold (width : Nat) (line : Text) : List Text :=
  match words line with
  | [] => [line]
  | words => fill width [] 0 words

/-- The lines of a text on a screen of some width. -/
def lines (width : Nat) (s : Text) : List Text :=
  (Text.pieces (fun (p : Point) => p = '\n') (s.filter (!isControl ·))).flatMap fun line =>
    (fold width (expandTabs line)).map (trimLine width)

end Screen

namespace Table

/-- The width of each column: that of its widest cell. -/
def widths (t : Table) : List Nat :=
  t.rows.foldl (fun widths row => List.zipWith max widths (row.map Text.cells))
    (t.header.map Text.cells)

/-- So many of a character. -/
def run (count : Nat) (c : Char) : Text := List.replicate count (.char c)

/-- A line of the frame, with its ends, the stroke and the crossings between columns. -/
def rule (widths : List Nat) (first stroke crossing last : Char) : Text :=
  run 1 first ++ Text.join (run 1 crossing) (widths.map fun w => run (w + 2) stroke) ++ run 1 last

/-- A row of cells between strokes. -/
def row (widths : List Nat) (stroke : Char) (cells : List Text) : Text :=
  let bar := run 1 stroke
  let cell (c : Text) (w : Nat) : Text := " " ++ c ++ run (w - Text.cells c) ' ' ++ " "
  bar ++ Text.join bar (List.zipWith cell cells widths) ++ bar

/-- A table with its title above and a frame around its cells. -/
def lines (t : Table) : List Text :=
  let widths := t.widths
  let width := widths.foldl (· + · + 3) 1
  let margin := (width - Text.cells t.title) / 2
  [run margin ' ' ++ t.title, rule widths '┏' '━' '┳' '┓', row widths '┃' t.header,
    rule widths '┡' '━' '╇' '┩'] ++
    t.rows.map (row widths '│') ++ [rule widths '└' '─' '┴' '┘']

end Table

end Lamella
