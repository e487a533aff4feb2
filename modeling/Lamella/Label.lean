import Lamella.Fault

/-!
# Labels

Tablature names a key by its label: the degree of the scale that is engraved on it, and one octave
glyph for every octave above the first.

## Main definitions

- `Label`: a degree and a count of octave glyphs.
- `Label.glyphsInRoom`, `Label.textInRoom`: glyphs and labels of any count, as far as there is room.
- `Label.text`, `Label.ofText?`: the written form, and reading it. Labels that can be read have a
  degree from one to seven.
-/

namespace Lamella

/-- A degree of the scale and a count of octave glyphs. -/
structure Label where
  degree : Int
  markers : Int
deriving DecidableEq, Inhabited

namespace Label

/-- The glyph that raises a label by an octave. -/
def glyph : Char := '°'

/-- So many octave glyphs. -/
def glyphs (count : Int) : Text := List.replicate count.toNat (.char glyph)

/-- The written form of a label. -/
def text (l : Label) : Text := toString l.degree ++ glyphs l.markers

/-- Counts from here on, and those as far below zero, are beyond the counts of a machine. -/
def countable : Int := Nat.pow 2 63

/-- Texts of so many glyphs have no room. -/
def spacious : Int := Nat.pow 2 32

/-- So many octave glyphs, if a machine can count them and has room for them. -/
def glyphsInRoom (count : Int) : Except Fault Text :=
  if count < -countable ∨ countable ≤ count then .error .uncountable
  else if spacious ≤ count then .error .longText
  else .ok (glyphs count)

/-- The written form of a label, if there is room for its glyphs. -/
def textInRoom (l : Label) : Except Fault Text :=
  return toString l.degree ++ (← glyphsInRoom l.markers)

/-- Whether a character is a degree that labels can be read with. -/
def isDegree (c : Char) : Bool := '1' ≤ c && c ≤ '7'

/-- Reads a label that takes up the whole text. -/
def ofPlain? : Text → Option Label
  | .char c :: rest =>
    if isDegree c ∧ rest.all (Point.is (· = glyph)) then some ⟨c.toNat - 48, rest.length⟩ else none
  | _ => none

/-- Drops a line feed at the very end of a text. -/
def withoutLineFeed (s : Text) : Text :=
  if s.getLast? = some (.char '\n') then s.dropLast else s

/-- Reads a label; a line feed after it is allowed. -/
def ofText? (s : Text) : Option Label := ofPlain? (withoutLineFeed s)

end Label

end Lamella
