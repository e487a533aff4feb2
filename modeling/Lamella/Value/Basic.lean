import Lamella.Scalar
import Lamella.Text.Blank
import Lamella.Text.Quoted

/-!
# Values

The loosely typed data of song files: nothing, truth values, whole and measured numbers, text, lists
and objects. An object keeps its fields in the order they were first written.

## Main definitions

- `Value`: the data itself.
- `Value.isEmptyish`: the values that count as "not given".
- `Value.shown`: the text by which a message names a value.
- `Value.field?`: the value of a field.
-/

namespace Lamella

/-- Loosely typed data. -/
inductive Value (R : Type) where
  | null
  | bool (b : Bool)
  | int (n : Int)
  | num (x : R)
  | str (s : Text)
  | list (items : List (Value R))
  | object (fields : List (Text × Value R))
deriving Inhabited

/-- A number as it was written: a whole one, or a measured one. -/
inductive Quantity (R : Type) where
  | whole (n : Int)
  | measured (x : R)
deriving DecidableEq

namespace Quantity

variable {R : Type} [Scalar R]

/-- The scalar a quantity stands for. -/
def scalar : Quantity R → R
  | whole n => Scalar.ofInt n
  | measured x => x

/-- A quantity as data. -/
def toValue : Quantity R → Value R
  | whole n => .int n
  | measured x => .num x

end Quantity

namespace Value

variable {R : Type} [Scalar R]

/-- Whether a value counts as not given: nothing, falsehood, zero, or an empty text, list or
object. -/
def isEmptyish : Value R → Bool
  | null => true
  | bool b => !b
  | int n => n == 0
  | num x => Scalar.isZero x
  | str s => s.isEmpty
  | list items => items.isEmpty
  | object fields => fields.isEmpty

/-- A value, or another one if it counts as not given. -/
def orElse (v other : Value R) : Value R := if v.isEmptyish then other else v

/-- Whether a value is nothing at all. -/
def isNull : Value R → Bool
  | null => true
  | _ => false

/-- Whether a value is a measured number. -/
def isNumber : Value R → Bool
  | num _ => true
  | _ => false

/-- The object of fields with written names. -/
def record (fields : List (String × Value R)) : Value R :=
  object (fields.map fun (name, v) => (Text.ofString name, v))

/-- The value of a field of an object's fields. -/
def field? (fields : List (Text × Value R)) (name : Text) : Option (Value R) :=
  (fields.find? fun entry => entry.1 == name).map (·.2)

/-- The value of a field, or nothing. -/
def field (fields : List (Text × Value R)) (name : Text) : Value R :=
  (field? fields name).getD null

/-- The fields with one more written: a field of that name keeps its place. -/
def setField (name : Text) (v : Value R) : List (Text × Value R) → List (Text × Value R)
  | [] => [(name, v)]
  | entry :: rest =>
    if entry.1 == name then (name, v) :: rest else entry :: setField name v rest

mutual

/-- The text by which a message names a value: text in quotes, containers in brackets. -/
def shown : Value R → Text
  | null => "None"
  | bool b => if b then "True" else "False"
  | int n => toString n
  | num x => Scalar.written x
  | str s => Text.quoted s
  | list items => "[" ++ shownItems items ++ "]"
  | object fields => "\x7b" ++ shownFields fields ++ "\x7d"

/-- The texts of the items of a list, with commas between them. -/
def shownItems : List (Value R) → Text
  | [] => ""
  | [v] => shown v
  | v :: rest => shown v ++ ", " ++ shownItems rest

/-- The names and texts of the fields of an object, with commas between them. -/
def shownFields : List (Text × Value R) → Text
  | [] => ""
  | [(name, v)] => Text.quoted name ++ ": " ++ shown v
  | (name, v) :: rest => Text.quoted name ++ ": " ++ shown v ++ ", " ++ shownFields rest

end

/-- The text a value turns into where text is wanted: text itself, and else how it is shown. -/
def text : Value R → Text
  | str s => s
  | v => shown v

end Value

/-- The text of a list of integers. -/
def shownInts (ns : List Int) : String := "[" ++ ", ".intercalate (ns.map toString) ++ "]"

end Lamella
