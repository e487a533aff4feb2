import Lamella.Value.Basic

/-!
# Writing values

Values are written in the JSON format, each item and field on a line of its own, indented by two
spaces a level. Text keeps its characters; only quotes, backslashes and controls are escaped.

## Main definitions

- `Value.toText`: the text of a value.
- `Value.toLine`: the text of a value on one line.
-/

namespace Lamella.Value

variable {R : Type} [Scalar R]

/-- One character of a written text. -/
def writtenChar (c : Char) : List Char :=
  if c = '"' ∨ c = '\\' then ['\\', c]
  else if c = '\n' then ['\\', 'n']
  else if c = '\r' then ['\\', 'r']
  else if c = '\t' then ['\\', 't']
  else if c = '\x08' then ['\\', 'b']
  else if c = '\x0c' then ['\\', 'f']
  else if c.toNat ≤ 0x1f then '\\' :: 'u' :: Text.hex 4 c.toNat
  else [c]

/-- One point of a written text; a half is written as itself. -/
def writtenPoint : Point → Text
  | .char c => Text.ofChars (writtenChar c)
  | p => [p]

/-- A text in double quotes. -/
def writtenText (s : Text) : Text := "\"" ++ s.flatMap writtenPoint ++ "\""

/-- A measured number; the three that are no finite number have names. -/
def writtenScalar (x : R) : String :=
  match Scalar.reading x with
  | .finite _ => Scalar.written x
  | .infinite negative => if negative then "-Infinity" else "Infinity"
  | .undefined => "NaN"

/-- A line end and the indentation of a level. -/
def newLine (level : Nat) : String := String.ofList ('\n' :: List.replicate (2 * level) ' ')

mutual

/-- The text of a value that stands at a level. -/
def write (level : Nat) : Value R → Text
  | null => "null"
  | bool b => if b then "true" else "false"
  | int n => toString n
  | num x => writtenScalar x
  | str s => writtenText s
  | list [] => "[]"
  | list (v :: rest) =>
    "[" ++ newLine (level + 1) ++ write (level + 1) v ++ writeItems (level + 1) rest ++
      newLine level ++ "]"
  | object [] => "\x7b\x7d"
  | object ((name, v) :: rest) =>
    "\x7b" ++ newLine (level + 1) ++ writtenText name ++ ": " ++ write (level + 1) v ++
      writeFields (level + 1) rest ++ newLine level ++ "\x7d"

/-- The further items of a list, each after a comma. -/
def writeItems (level : Nat) : List (Value R) → Text
  | [] => ""
  | v :: rest => "," ++ newLine level ++ write level v ++ writeItems level rest

/-- The further fields of an object, each after a comma. -/
def writeFields (level : Nat) : List (Text × Value R) → Text
  | [] => ""
  | (name, v) :: rest =>
    "," ++ newLine level ++ writtenText name ++ ": " ++ write level v ++ writeFields level rest

end

/-- The text of a value. -/
def toText (v : Value R) : Text := write 0 v

/-- One point of a text that is made bytes: of a half its digits. -/
def spelledPoint : Point → List Char
  | .char c => writtenChar c
  | p => Text.unitEscape p.code

/-- A text in double quotes, which can be made bytes. -/
def spelledText (s : Text) : String := String.ofList ('"' :: s.flatMap spelledPoint ++ ['"'])

mutual

/-- The text of a value without line ends, which can be made bytes whatever the value holds. -/
def toLine : Value R → String
  | null => "null"
  | bool b => if b then "true" else "false"
  | int n => toString n
  | num x => writtenScalar x
  | str s => spelledText s
  | list items => "[" ++ ",".intercalate (lineItems items) ++ "]"
  | object fields => "\x7b" ++ ",".intercalate (lineFields fields) ++ "\x7d"

/-- The texts of the items of a list. -/
def lineItems : List (Value R) → List String
  | [] => []
  | v :: rest => toLine v :: lineItems rest

/-- The names and texts of the fields of an object. -/
def lineFields : List (Text × Value R) → List String
  | [] => []
  | (name, v) :: rest => (spelledText name ++ ":" ++ toLine v) :: lineFields rest

end

end Lamella.Value
