import Lamella.Text.Case
import Lamella.Value.Convert

/-!
# Difficulty

Four levels of difficulty, which song files give by name or by a number from one to five.
-/

namespace Lamella

/-- How hard a song is to play. -/
inductive Difficulty where
  | easy
  | medium
  | hard
  | expert
deriving DecidableEq, Inhabited

namespace Difficulty

/-- The name of a level. -/
def text : Difficulty → String
  | easy => "easy"
  | medium => "medium"
  | hard => "hard"
  | expert => "expert"

/-- The level of a name. -/
def ofName? (s : Text) : Option Difficulty :=
  [easy, medium, hard, expert].find? fun d => (d.text : Text) == s

/-- The level of a number from one to five. -/
def ofNumber? : Int → Option Difficulty
  | 1 => some easy
  | 2 => some medium
  | 3 => some hard
  | 4 => some expert
  | 5 => some expert
  | _ => none

/-- The level of a number. -/
def ofNumber (n : Int) : Except Fault Difficulty :=
  match ofNumber? n with
  | some d => .ok d
  | none => .error (.level (toString n))

variable {R : Type} [Scalar R]

/-- The level a value gives: nothing is medium, names are read in any case, and numbers, also when
written as text, count from one to five. -/
def ofValue (v : Value R) : Except Fault Difficulty :=
  match v with
  | .null => .ok medium
  | .bool _ => .error (.difficulty v.shown)
  | .int n => ofNumber n
  | .num x => do
    let n ← (Scalar.trunc x).mapError Fault.ofGap
    match ofNumber? n with
    | some d => if Scalar.same (Scalar.ofInt n) x then return d else throw (.level v.shown)
    | none => throw (.level v.shown)
  | v => do
    let name := Text.lower (Text.strip v.text)
    if name ≠ [] ∧ name.all (Point.is Text.isDigit) then ofNumber (← Value.integerOfText name)
    else
      match ofName? name with
      | some d => return d
      | none => throw (.difficulty v.shown)

end Difficulty

end Lamella
