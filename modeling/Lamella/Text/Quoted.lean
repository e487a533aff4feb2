import Lamella.Text.Basic
import Lamella.Text.Digit
import Lamella.Text.Printable

/-!
# Quoted text

A text between quotes, in which every character can be told: quotes and backslashes that would end
or confuse it, the common controls and every unprintable character are written as escapes.
-/

namespace Lamella.Text

/-- The quote that surrounds a text: single, unless the text holds a single and no double one. -/
def quoteFor (s : Text) : Char := if s.contains '\'' && !s.contains '"' then '"' else '\''

/-- The four digits of a code unit after the sign for them. -/
def unitEscape (unit : Nat) : List Char := '\\' :: 'u' :: hex 4 unit

/-- One character between quotes. -/
def escapeChar (quote c : Char) : List Char :=
  if c = quote ∨ c = '\\' then ['\\', c]
  else if c = '\n' then ['\\', 'n']
  else if c = '\r' then ['\\', 'r']
  else if c = '\t' then ['\\', 't']
  else if isPrintable c then [c]
  else if c.toNat < 0x100 then '\\' :: 'x' :: hex 2 c.toNat
  else if c.toNat < 0x10000 then unitEscape c.toNat
  else '\\' :: 'U' :: hex 8 c.toNat

/-- One point between quotes. -/
def escape (quote : Char) : Point → List Char
  | .char c => escapeChar quote c
  | .half unit => unitEscape (Point.half unit).code

/-- A text between quotes. -/
def quoted (s : Text) : Text :=
  let quote := quoteFor s
  ofChars (quote :: s.flatMap (escape quote) ++ [quote])

end Lamella.Text
