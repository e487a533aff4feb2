import Lamella.Grid
import Lamella.Journal
import Lamella.Layout.Basic
import Lamella.Tab.Token

/-!
# Reading tablature

Every token of a tablature takes steps of the grid: a rest, a note and a chord one, a run one for
each of its notes. Line ends take no time. What stands for no note on the layout is skipped, and
the reading tells where and why.

## Main definitions

- `Tab.Reading`: notes, skipped places, and the count of steps.
- `Tab.read`: the reading of a text.
-/

namespace Lamella.Tab

/-- Why a place in a tablature stands for no note. -/
inductive Skipped.Reason where
  | invalidMember
  | unrecognized
  | noKey (label : Text)
deriving DecidableEq, Inhabited

/-- A place in a tablature that stands for no note. -/
structure Skipped where
  text : Text
  line : Int
  column : Int
  reason : Skipped.Reason
deriving DecidableEq, Inhabited

namespace Skipped

/-- The wording of a reason. -/
def Reason.message : Reason → Text
  | invalidMember => "invalid chord member"
  | unrecognized => "unrecognized token"
  | noKey label => "no key for '" ++ label ++ "'"

/-- The wording of a skipped place. -/
def message (s : Skipped) : Text :=
  Text.quoted s.text ++ " at " ++ toString s.line ++ ":" ++ toString s.column ++
    " (" ++ s.reason.message ++ ")"

end Skipped

/-- What a tablature says: its notes in the order in which they were read, what was skipped, and
how many steps it takes. -/
structure Reading (R : Type) [Scalar R] where
  notes : List (Note R)
  skipped : List Skipped
  steps : Nat

section

variable {F R : Type} [Scalar R]

/-- The labels of a token, each with the steps by which it is later than the token. -/
def Token.schedule (t : Token) : List (Text × Nat) :=
  match t.shape with
  | .run labels => labels.zipIdx
  | _ => t.labels.map fun label => (label, 0)

/-- What the label of a token stands for at a step. -/
def sound (table : List Layout.Address) (grid : Grid R) (t : Token) (label : Text) (step : Nat) :
    Except Fault (Note R ⊕ Skipped) :=
  match Layout.resolveIn table label with
  | none => .ok (.inr ⟨label, t.line, t.column, .noKey label⟩)
  | some key => return .inl (← Note.make key (grid.stepTime step) grid.step .null)

/-- What is skipped in a token beside its labels. -/
def Token.refused (t : Token) : List Skipped :=
  match t.shape with
  | .chord _ invalid => invalid.map fun member => ⟨member, t.line, t.column, .invalidMember⟩
  | .unknown => [⟨t.text, t.line, t.column, .unrecognized⟩]
  | _ => []

/-- The reading of tokens, the first of which begins at a step. -/
def readFrom (table : List Layout.Address) (grid : Grid R) (step : Nat) :
    List Token → Except Fault (Reading R)
  | [] => .ok ⟨[], [], step⟩
  | t :: rest => do
    -- Labels without a key take their steps all the same
    let sounds ← t.schedule.mapM fun (label, later) => sound table grid t label (step + later)
    let after ← readFrom table grid (step + t.width) rest
    return {
      notes := sounds.filterMap Sum.getLeft? ++ after.notes
      skipped := sounds.filterMap Sum.getRight? ++ t.refused ++ after.skipped
      steps := after.steps }

/-- The reading of a tablature. -/
def read (layout : Layout F) (grid : Grid R) (text : Text) : Except Fault (Reading R) :=
  readFrom layout.addresses grid 0 (tokens text)

/-- How many skipped places a warning names. -/
def namedPlaces : Nat := 5

/-- The warning of a reading that skipped something. -/
def Reading.warnings (r : Reading R) : List Warning :=
  if r.skipped = [] then []
  else [.skipped r.skipped.length ((r.skipped.take namedPlaces).map Skipped.message)]

/-- The reading of a tablature, with a warning if something was skipped. -/
def readWarning (layout : Layout F) (grid : Grid R) (text : Text) : Work (Reading R) := do
  let r ← Work.of (read layout grid text)
  Work.warnAll r.warnings
  return r

end

end Lamella.Tab
