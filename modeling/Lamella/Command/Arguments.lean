import Lamella.Command.Operand

/-!
# Arguments

The arguments of a command are options and operands, in any order. An option has a long name after
two hyphens and may have a letter after one; its value is the next argument, or follows the letter
at once, or the long name after `=`. Two hyphens alone end the options. Of an option given twice the
last value counts.

## Main definitions

- `Flag`, `Arguments`: what options there are, and what was given.
- `Arguments.read`: the arguments of a line, if they are options that there are, each with a value.
- `Arguments.integer?`, `Arguments.scalar?`: values that are numbers.
-/

namespace Lamella

/-- An option: its letter, if it has one, and its long name. -/
structure Flag where
  letter : Option Char
  name : String
deriving DecidableEq, Inhabited

/-- The values of options by long name, last first, the operands, last first, and whether help is
asked for. -/
structure Arguments where
  values : List (String × Text) := []
  operands : List Text := []
  help : Bool := false
deriving DecidableEq, Inhabited

namespace Arguments

/-- What an argument that begins with a hyphen is. -/
inductive Reading where
  | help
  | given (name : String) (value : Text)
  | named (name : String)
  | unknown
deriving DecidableEq, Inhabited

/-- A long name, and the value after the first equality sign if there is one. -/
def cutValue (arg : Text) : Text × Option Text :=
  match arg.dropWhile fun (c : Point) => c ≠ '=' with
  | _ :: value => (arg.takeWhile fun (c : Point) => c ≠ '=', some value)
  | [] => (arg, none)

/-- Reads an option by its letter; what follows the letter is the value. -/
def readLetter (flags : List Flag) (letter : Point) (rest : Text) : Reading :=
  match flags.find? fun flag => flag.letter.map Point.char == some letter with
  | none => .unknown
  | some flag => if rest = [] then .named flag.name else .given flag.name rest

/-- Reads an option by its long name. -/
def readName (flags : List Flag) (name : Text) (value : Option Text) : Reading :=
  match flags.find? fun flag => (flag.name : Text) == name, value with
  | some flag, some value => .given flag.name value
  | some flag, none => .named flag.name
  | none, none => if name = "help" then .help else .unknown
  | none, some _ => .unknown

/-- Reads an argument after its first hyphen. -/
def readOption (flags : List Flag) : Text → Reading
  | .char '-' :: rest =>
    let (name, value) := cutValue rest
    readName flags name value
  | letter :: rest => readLetter flags letter rest
  | [] => .unknown

/-- Whether an argument is an option, and what follows the hyphen. A hyphen alone is an operand. -/
def option? : Text → Option Text
  | .char '-' :: c :: rest => some (c :: rest)
  | _ => none

/-- Reads arguments after those read already. -/
def readAfter (flags : List Flag) (a : Arguments) : List Text → Option Arguments
  | [] => some a
  | arg :: rest =>
    if arg = "--" then some { a with operands := rest.reverse ++ a.operands }
    else
      match option? arg with
      | none => readAfter flags { a with operands := arg :: a.operands } rest
      | some option =>
        match readOption flags option with
        | .unknown => none
        | .help => readAfter flags { a with help := true } rest
        | .given name value => readAfter flags { a with values := (name, value) :: a.values } rest
        | .named name =>
          match rest with
          | [] => none
          | value :: rest =>
            readAfter flags { a with values := (name, value) :: a.values } rest

/-- Reads the arguments of a command. -/
def read (flags : List Flag) (args : List Text) : Option Arguments := readAfter flags {} args

/-- The operands in order. -/
def inOrder (a : Arguments) : List Text := a.operands.reverse

/-- The one operand of a command that wants one. -/
def single? (a : Arguments) : Option Text :=
  match a.operands with
  | [operand] => some operand
  | _ => none

/-- The value of an option, if it was given. -/
def value? (a : Arguments) (name : String) : Option Text := a.values.lookup name

/-- The value of an option, or a default. -/
def value (a : Arguments) (name default : String) : Text := (a.value? name).getD default

/-- The integer of an option, or a default; nothing if the value is no integer. -/
def integer? (a : Arguments) (name : String) (default : Int) : Option Int :=
  match a.value? name with
  | none => some default
  | some s => s.chars?.bind Operand.integer?

/-- The number that a text writes, if it writes one. -/
def scalarOfText? {R : Type} [Scalar R] (s : Text) : Option R :=
  (s.chars?.bind Operand.numeral?).bind Scalar.ofNumeral?

/-- The number of an option, or a default; nothing if the value is no number. -/
def scalar? {R : Type} [Scalar R] (a : Arguments) (name : String) (default : R) : Option R :=
  match a.value? name with
  | none => some default
  | some s => scalarOfText? s

end Arguments

end Lamella
