import Lamella.Label
import Lamella.Tab.Piece

/-!
# Tokens

A token is what one piece of tablature means: a rest, a note, a run of notes written without blanks
(`467` or `1°2`), a chord in parentheses, or nothing that is known. The asterisk and the apostrophe
stand for the octave glyph and are replaced by it, so that labels hold no other glyph.

## Main definitions

- `Tab.Token`: a token and its place.
- `Tab.runLabels?`: the labels of a run.
- `Tab.classify`: the token of a piece.
- `Tab.tokens`: the tokens of a text.
-/

namespace Lamella.Tab

/-- What a token means. A chord keeps the members that are no notes apart. -/
inductive Token.Shape where
  | rest
  | note (label : Text)
  | run (labels : List Text)
  | chord (labels invalid : List Text)
  | unknown
deriving DecidableEq, Inhabited

/-- A token: what it means, how it was written, and where. -/
structure Token where
  shape : Token.Shape
  text : Text
  line : Int
  column : Int
deriving DecidableEq, Inhabited

/-- The ways to write a rest. -/
def isRest (s : Text) : Bool := s = "-" || s = "_" || s = "r" || s = "R"

/-- A text with the octave glyph for the characters that stand for it. -/
def unifyMarkers (s : Text) : Text :=
  Text.replaceChar '\'' Label.glyph (Text.replaceChar '*' Label.glyph s)

/-- Whether a text is one label. -/
def isLabel (s : Text) : Bool := (Label.ofText? s).isSome

/-- Cuts a text before every degree, when `label` is what was read of the label at hand. -/
def cutLabels (label : Text) : Text → Option (List Text)
  | [] => some [label]
  | c :: rest =>
    -- A glyph belongs to the degree before it
    if c = Label.glyph then cutLabels (label ++ [c]) rest
    else if c.is Label.isDegree then (cutLabels [c] rest).map (label :: ·)
    else none

/-- The labels that a text is made of. -/
def labels? : Text → Option (List Text)
  | [] => none
  | c :: rest => if c.is Label.isDegree then cutLabels [c] rest else none

/-- The labels of a run, of which there are at least two; a line feed after it is allowed. -/
def runLabels? (s : Text) : Option (List Text) :=
  (labels? (Label.withoutLineFeed s)).filter fun labels => decide (2 ≤ labels.length)

namespace Token

/-- What a member adds to a chord: labels, and members that are no notes. -/
def ofMember (member : Text) : List Text × List Text :=
  let unified := unifyMarkers member
  -- A rest inside a chord adds nothing, and is no fault
  if isRest member then ([], [])
  else if isLabel unified then ([unified], [])
  else
    match runLabels? unified with
    | some labels => (labels, [])
    | none => ([], [member])

/-- The text of a group without the parentheses around it. -/
def groupBody (s : Text) : Text :=
  if s.getLast? = some (.char ')') then s.tail.dropLast else s.tail

/-- What a piece means. -/
def shapeOf (s : Text) : Shape :=
  if isRest s then .rest
  else if s.head? = some (.char '(') then
    -- Members are cut at blanks, and what is no note among them is kept apart
    let members := (Text.words (groupBody s)).map ofMember
    .chord (members.flatMap (·.1)) (members.flatMap (·.2))
  else
    let unified := unifyMarkers s
    if isLabel unified then .note unified
    else
      match runLabels? unified with
      | some labels => .run labels
      | none => .unknown

/-- The labels of a token. -/
def labels (t : Token) : List Text :=
  match t.shape with
  | .note label => [label]
  | .run labels => labels
  | .chord labels _ => labels
  | _ => []

/-- The members of a chord that are no notes. -/
def invalid (t : Token) : List Text :=
  match t.shape with
  | .chord _ invalid => invalid
  | _ => []

/-- How many steps a token takes: a run as many as it has notes, what is unknown none. -/
def width (t : Token) : Nat :=
  match t.shape with
  | .run labels => labels.length
  | .unknown => 0
  | _ => 1

end Token

/-- The token of a piece. -/
def classify (s : Text) (line column : Int) : Token := ⟨Token.shapeOf s, s, line, column⟩

/-- The tokens of a line. -/
def lineTokens (line : Nat) (s : Text) : List Token :=
  (pieces s).map fun p => classify p.text line p.column

/-- The tokens of lines, the first of which has the given number. -/
def tokensFrom (line : Nat) : List Text → List Token
  | [] => []
  | s :: rest => lineTokens line s ++ tokensFrom (line + 1) rest

/-- The tokens of a text. -/
def tokens (text : Text) : List Token := tokensFrom 1 (Text.lines text)

end Lamella.Tab
