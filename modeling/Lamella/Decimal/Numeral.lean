import Lamella.Decimal.Shortest
import Lamella.Text.Blank
import Lamella.Text.Digit

/-!
# Numerals

Numbers as people write them: an optional sign, decimal digits of any script, single underscores
between digits, a point, a power of ten, or the name of an infinity or of no number. Blanks around
a numeral are ignored.

## Main definitions

- `Numeral`: what a written number says, before any rounding.
- `Numeral.ofChars?`: reads a number with or without a point.
- `Decimal.integer?`: reads an integer.
-/

namespace Lamella

/-- What a written number says: `± digits * 10 ^ exponent`, an infinity, or no number. -/
inductive Numeral where
  | finite (negative : Bool) (value : Decimal)
  | infinite (negative : Bool)
  | undefined
deriving DecidableEq, Inhabited

namespace Decimal

/-- The value of a row of ASCII digits. -/
def value (ds : List Char) : Nat := ds.foldl (fun n c => 10 * n + (c.toNat - 48)) 0

/-- Writes each decimal digit of any script as the ASCII digit of the same value. -/
def plainDigits (s : List Char) : List Char :=
  s.map fun c =>
    match Text.digitValue? c with
    | some d => Char.ofNat (48 + d)
    | none => c

/-- Drops the underscores of a numeral; `none` if one does not stand between two digits. -/
def dropUnderscores : List Char → Option (List Char)
  | [] => some []
  | '_' :: _ => none
  | [c] => some [c]
  | c :: '_' :: d :: rest =>
    if c.isDigit && d.isDigit then (dropUnderscores (d :: rest)).map (c :: ·) else none
  | c :: d :: rest => (dropUnderscores (d :: rest)).map (c :: ·)

/-- An optional sign in front of a text: whether it is a minus, and the rest. -/
def sign : List Char → Bool × List Char
  | '-' :: rest => (true, rest)
  | '+' :: rest => (false, rest)
  | rest => (false, rest)

/-- A written number without the blanks around it, in ASCII digits and without underscores. -/
def normalized? (s : List Char) : Option (List Char) :=
  dropUnderscores (plainDigits (Text.trim Text.isNumberBlank s))

/-- The most digits an integer may be written with. -/
def digitLimit : Nat := 4300

/-- How an integer of too many digits is refused. -/
def tooLong (count : Nat) : String :=
  "Exceeds the limit (4300 digits) for integer string conversion: value has " ++ toString count ++
    " digits; use sys.set_int_max_str_digits() to increase the limit"

/-- How an integer is refused that would take too many digits to write. -/
def unwritable : String :=
  "Exceeds the limit (4300 digits) for integer string conversion; " ++
    "use sys.set_int_max_str_digits() to increase the limit"

/-- Reads an integer in ASCII digits: an optional sign and digits. -/
def plainInteger? (s : List Char) : Option Int := do
  let (negative, ds) := sign s
  guard (ds ≠ [] && ds.all Char.isDigit)
  return if negative then -(value ds : Int) else value ds

/-- Reads an integer: an optional sign and digits. -/
def integer? (s : List Char) : Option Int := do plainInteger? (← normalized? s)

/-- Reads a power of ten: nothing, or the mark `e` with an optional sign and digits. -/
def power? : List Char → Option Int
  | [] => some 0
  | c :: rest =>
    let (negative, ds) := sign rest
    if (c = 'e' ∨ c = 'E') ∧ ds ≠ [] ∧ ds.all Char.isDigit then
      some (if negative then -(value ds : Int) else value ds)
    else none

/-- Reads digits with an optional point and an optional power of ten. -/
def unsigned? (s : List Char) : Option Decimal := do
  let whole := s.takeWhile Char.isDigit
  let rest := s.dropWhile Char.isDigit
  let (fraction, rest) :=
    match rest with
    | '.' :: tail => (tail.takeWhile Char.isDigit, tail.dropWhile Char.isDigit)
    | _ => ([], rest)
  guard (whole ≠ [] || fraction ≠ [])
  let e ← power? rest
  return ⟨value (whole ++ fraction), e - fraction.length⟩

end Decimal

namespace Numeral

/-- The names of an infinity and of no number, in lower case. -/
def named? (negative : Bool) (name : List Char) : Option Numeral :=
  if name = ['i', 'n', 'f'] ∨ name = ['i', 'n', 'f', 'i', 'n', 'i', 't', 'y'] then
    some (infinite negative)
  else if name = ['n', 'a', 'n'] then some undefined
  else none

/-- Reads a number written in ASCII digits without underscores. -/
def ofPlain? (s : List Char) : Option Numeral :=
  let (negative, rest) := Decimal.sign s
  (named? negative (rest.map Char.toLower)).or ((Decimal.unsigned? rest).map (finite negative))

/-- Reads a written number. -/
def ofChars? (s : List Char) : Option Numeral := do ofPlain? (← Decimal.normalized? s)

end Numeral

end Lamella
