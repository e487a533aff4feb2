import Lamella.Decimal.Numeral
import Lamella.Text.Blank
import Lamella.Text.CharacterName

/-!
# Literals

The parameters of a tag that reacts to a pointer are a literal: a number, a text in quotes, the word
for a truth value or for nothing, or a row, a set or an object of literals; the set without members
is written as a call of its maker. Nothing is done with what a literal says, so it is only told
whether a text is one.

## Main definitions

- `Literal.Shape`: what kind of literal was read.
- `Literal.isLiteral`: whether a text is a literal.
-/

namespace Lamella.Literal

/-- What kind of literal was read: a number, real or imaginary and perhaps with a sign; another one,
which can be found in a set or cannot; or the maker of sets, which is a literal only when it is
called. -/
inductive Shape where
  | number (imaginary signed : Bool)
  | other (findable : Bool)
  | maker
deriving DecidableEq, Inhabited

namespace Shape

/-- Whether a literal can be found in a set. -/
def isFindable : Shape → Bool
  | number .. => true
  | other findable => findable
  | maker => false

/-- Whether what was read is a literal as it stands. -/
def isLiteral (s : Shape) : Bool := s != maker

end Shape

/-! ## Blanks -/

/-- What follows the blanks in front of a text; within brackets line ends and remarks are blank. A
backslash makes the line end after it blank, unless it is the last one. -/
def skipBlanks (inside : Bool) : List Char → List Char
  | [] => []
  | '\\' :: '\n' :: c :: rest => skipBlanks inside (c :: rest)
  | c :: rest =>
    if c = ' ' ∨ c = '\t' ∨ c = '\x0c' then skipBlanks inside rest
    else if inside ∧ c = '\n' then skipBlanks inside rest
    else if c = '#' then skipRemark rest
    else c :: rest
where
  /-- What follows a remark. -/
  skipRemark : List Char → List Char
    | [] => []
    | c :: rest =>
      if c = '\n' then if inside then skipBlanks inside rest else c :: rest else skipRemark rest

/-- Whether a text is nothing but blanks, line ends and remarks. -/
def isOver (s : List Char) : Bool := (skipBlanks true s).isEmpty

/-- A text without the lines in front of it that hold nothing but blanks and remarks. Each step is
on one line at least. -/
def fromFirstLine : Nat → List Char → List Char
  | 0, s => s
  | fuel + 1, s =>
    match skipBlanks false s with
    | '\n' :: rest => fromFirstLine fuel rest
    | _ => s

/-- Whether a line is indented, after blanks of it and of the lines it goes on from. A form feed
begins the line anew. -/
def isIndentedAfter (blank before : Bool) : List Char → Bool
  | '\\' :: '\n' :: rest => isIndentedAfter blank (before || blank) rest
  | c :: rest =>
    if c = ' ' ∨ c = '\t' then isIndentedAfter true before rest
    else if c = '\x0c' then isIndentedAfter false before rest
    else before || blank
  | [] => before || blank

/-! ## Numbers -/

/-- Digits of a class with single underscores between them, and what follows. -/
def digits? (p : Char → Bool) (s : List Char) : Option (List Char × List Char) :=
  let ds := s.takeWhile fun c => p c || c == '_'
  if ds = [] ∨ ds.head? = some '_' ∨ ds.getLast? = some '_' ∨ Text.occurs ['_', '_'] ds then none
  else some (ds, s.dropWhile fun c => p c || c == '_')

/-- Whether a character may be part of a word, as far as words are told from what is around them. -/
def isWordPart (c : Char) : Bool := c.isAlphanum || c == '_' || 0x80 ≤ c.toNat

/-- The digits of a base after a zero and a letter. -/
def based? (p : Char → Bool) (s : List Char) : Option (Shape × List Char) := do
  let (_, rest) ← digits? p (if s.head? = some '_' then s.drop 1 else s)
  guard (!rest.head?.any isWordPart)
  return (.number false false, rest)

/-- What follows the power of ten in front of a text, and whether there is one. -/
def power (s : List Char) : Bool × List Char :=
  match s with
  | c :: rest =>
    let unsigned := if rest.head? = some '-' ∨ rest.head? = some '+' then rest.drop 1 else rest
    match decide (c = 'e' ∨ c = 'E'), digits? Char.isDigit unsigned with
    | true, some (_, after) => (true, after)
    | _, _ => (false, s)
  | [] => (false, s)

/-- Whether digits write a whole number: zeros alone, or no more digits than are read, with no zero
in front. -/
def isWhole (ds : List Char) : Bool :=
  if ds.head? = some '0' then ds.all fun c => c == '0' || c == '_'
  else ds.countP Char.isDigit ≤ Decimal.digitLimit

/-- A number in decimal digits. -/
def decimal? (s : List Char) : Option (Shape × List Char) := do
  let (whole, rest) := (digits? Char.isDigit s).getD ([], s)
  let (hasPoint, fraction, rest) :=
    match rest with
    | '.' :: rest =>
      let (ds, rest) := (digits? Char.isDigit rest).getD ([], rest)
      (true, ds, rest)
    | _ => (false, [], rest)
  guard (whole ≠ [] || fraction ≠ [])
  let (hasPower, rest) := power rest
  let (imaginary, rest) :=
    match rest with
    | 'j' :: rest | 'J' :: rest => (true, rest)
    | _ => (false, rest)
  guard (!rest.head?.any isWordPart)
  guard (hasPoint || hasPower || imaginary || isWhole whole)
  return (.number imaginary false, rest)

/-- Whether a character is a digit of base sixteen. -/
def isHexDigit (c : Char) : Bool := c.isDigit || ('a' ≤ c.toLower && c.toLower ≤ 'f')

/-- A number. -/
def number? : List Char → Option (Shape × List Char)
  | '0' :: 'x' :: rest | '0' :: 'X' :: rest => based? isHexDigit rest
  | '0' :: 'o' :: rest | '0' :: 'O' :: rest => based? (fun c => '0' ≤ c && c ≤ '7') rest
  | '0' :: 'b' :: rest | '0' :: 'B' :: rest => based? (fun c => c == '0' || c == '1') rest
  | s => decimal? s

/-! ## Texts -/

/-- Whether a text begins with so many digits of base sixteen, which write a code point. -/
def startsHex (count : Nat) (s : List Char) : Bool :=
  let ds := s.take count
  ds.length == count && ds.all isHexDigit && Text.hexNumber ds ≤ 0x10ffff

/-- Whether an escape is whole; of bytes only some are escapes. -/
def isEscape (bytes : Bool) (c : Char) (rest : List Char) : Bool :=
  if c = 'x' then startsHex 2 rest
  else if bytes then true
  else if c = 'u' then startsHex 4 rest
  else if c = 'U' then startsHex 8 rest
  else if c = 'N' then
    match rest with
    | '\x7b' :: name => Text.isCharacterName (name.takeWhile (· ≠ '\x7d')) && name.contains '\x7d'
    | _ => false
  else true

/-- What follows a text that is ended by a mark. -/
def closed? (mark : List Char) (raw bytes : Bool) : List Char → Option (List Char)
  | [] => none
  | c :: rest =>
    if mark.isPrefixOf (c :: rest) then some ((c :: rest).drop mark.length)
    else if c = '\n' ∧ mark.length = 1 then none
    else if bytes ∧ 0x80 ≤ c.toNat then none
    else if c = '\\' then
      match rest with
      | [] => none
      | d :: rest =>
        if bytes ∧ 0x80 ≤ d.toNat then none
        else if raw || isEscape bytes d rest then closed? mark raw bytes rest
        else none
    else closed? mark raw bytes rest

/-- A text in quotes after the letters that say how it is written: what follows it. -/
def quoted? (raw bytes : Bool) : List Char → Option (List Char)
  | '\'' :: '\'' :: '\'' :: rest => closed? ['\'', '\'', '\''] raw bytes rest
  | '"' :: '"' :: '"' :: rest => closed? ['"', '"', '"'] raw bytes rest
  | '\'' :: rest => closed? ['\''] raw bytes rest
  | '"' :: rest => closed? ['"'] raw bytes rest
  | _ => none

/-- A text with the letters in front of it: whether it is bytes, and what follows. -/
def text? (s : List Char) : Option (Bool × List Char) :=
  let letters := s.takeWhile Char.isAlpha
  let rest := s.dropWhile Char.isAlpha
  match String.ofList (letters.map Char.toLower) with
  | "" | "u" => (quoted? false false rest).map (false, ·)
  | "r" => (quoted? true false rest).map (false, ·)
  | "b" => (quoted? false true rest).map (true, ·)
  | "br" | "rb" => (quoted? true true rest).map (true, ·)
  | _ => none

/-- What follows texts that stand next to each other; all of them are bytes or none is. -/
def texts? (fuel : Nat) (inside bytes : Bool) (s : List Char) : Option (List Char) :=
  match fuel, text? (skipBlanks inside s) with
  | fuel + 1, some (more, rest) =>
    if more == bytes then texts? fuel inside bytes rest else none
  | _, _ => some s

/-! ## The maker of sets -/

/-- The code points that are written for each letter of the maker's name in other styles; the
styles of mathematics follow each other at even distances. -/
def styledLetters : List (Char × List Nat) :=
  [('s', [0x17f, 0x2e2, 0x209b, 0xff53]), ('e', [0x1d49, 0x2091, 0x212f, 0x2147, 0xff45]),
    ('t', [0x1d57, 0x209c, 0xff54])]

/-- Whether a character is a small letter in the bold style of mathematics or one of those after
it, up to the even one; one place in their row is left empty. -/
def isMathematical (letter c : Char) : Bool :=
  let first := 0x1d41a + (letter.toNat - 97)
  first ≤ c.toNat && c.toNat ≤ 0x1d68a + (letter.toNat - 97) && (c.toNat - first) % 52 == 0 &&
    c.toNat != 0x1d4ba

/-- Whether a character is a letter in whatever style. -/
def isStyled (letter c : Char) : Bool :=
  c == letter || ((styledLetters.lookup letter).getD []).contains c.toNat ||
    isMathematical letter c

/-- Whether a word is the name of the maker of sets. -/
def isMaker : List Char → Bool
  | [s, e, t] => isStyled 's' s && isStyled 'e' e && isStyled 't' t
  | _ => false

/-- The most brackets that may be open. -/
def mostOpen : Nat := 200

/-- What was read with its call, if it is the maker of sets and is called. -/
def called? (opened : Nat) : Shape × List Char → Option (Shape × List Char)
  | (.maker, rest) =>
    match skipBlanks (0 < opened) rest with
    | '(' :: rest =>
      match skipBlanks true rest with
      | ')' :: rest => if opened < mostOpen then some (.other false, rest) else none
      | _ => none
    | _ => some (.maker, rest)
  | found => some found

/-! ## Literals of literals -/

mutual

/-- A literal without a sign in front, while some brackets are open. -/
def atom? (fuel opened : Nat) (s : List Char) : Option (Shape × List Char) :=
  match fuel with
  | 0 => none
  | fuel + 1 =>
    match s with
    | '(' :: rest =>
      if mostOpen ≤ opened then none
      else
        match skipBlanks true rest with
        | ')' :: rest => some (.other true, rest)
        | rest => do
          let (shape, isRow, rest) ← row? fuel (opened + 1) ')' rest
          called? opened (if isRow then .other shape.isFindable else shape, rest)
    | '\x7b' :: rest =>
      if mostOpen ≤ opened then none
      else
        match skipBlanks true rest with
        | '\x7d' :: rest => some (.other false, rest)
        | rest => members? fuel (opened + 1) rest
    | '.' :: '.' :: '.' :: rest => some (.other true, rest)
    | _ =>
      match text? s with
      | some (bytes, rest) =>
        (texts? rest.length (0 < opened) bytes rest).map (.other true, ·)
      | none =>
        let word := s.takeWhile isWordPart
        let rest := s.dropWhile isWordPart
        if isMaker word then called? opened (.maker, rest)
        else if String.ofList word ∈ ["True", "False", "None"] then some (.other true, rest)
        else number? s

/-- A number with a sign in front of it, or a literal without one. -/
def signed? (fuel opened : Nat) (s : List Char) : Option (Shape × List Char) :=
  match fuel with
  | 0 => none
  | fuel + 1 =>
    match s with
    | '-' :: rest | '+' :: rest =>
      match atom? fuel opened (skipBlanks (0 < opened) rest) with
      | some (.number imaginary false, rest) => some (.number imaginary true, rest)
      | _ => none
    | _ => atom? fuel opened s

/-- A literal, or a real number and an imaginary one added to it or taken from it; the blanks around
it are left out. -/
def literal? (fuel opened : Nat) (s : List Char) : Option (Shape × List Char) :=
  match fuel with
  | 0 => none
  | fuel + 1 => do
    let skip := skipBlanks (0 < opened)
    let (shape, rest) ← signed? fuel opened (skip s)
    match skip rest with
    | '+' :: rest | '-' :: rest =>
      match shape, atom? fuel opened (skip rest) with
      | .number false _, some (.number true false, rest) => return (.other true, skip rest)
      | _, _ => none
    | rest => return (shape, rest)

/-- Literals with commas between them, up to the character that ends them: what the only one is, or
what all are together, and whether there is a comma. -/
def row? (fuel opened : Nat) (last : Char) (s : List Char) : Option (Shape × Bool × List Char) :=
  match fuel with
  | 0 => none
  | fuel + 1 => do
    let (shape, rest) ← literal? fuel opened s
    rowAfter? fuel opened last shape rest

/-- Literals with commas between them, of which the first was read. -/
def rowAfter? (fuel opened : Nat) (last : Char) (shape : Shape) (s : List Char) :
    Option (Shape × Bool × List Char) :=
  match fuel, s with
  | fuel + 1, ',' :: rest =>
    if !shape.isLiteral then none
    else
      match skipBlanks true rest with
      | [] => none
      | c :: after =>
        if c = last then some (shape, true, after)
        else
          match row? fuel opened last (c :: after) with
          | some (others, _, after) =>
            if others.isLiteral then
              some (.other (shape.isFindable && others.isFindable), true, after)
            else none
          | none => none
  | _, c :: rest => if c = last then some (shape, false, rest) else none
  | _, [] => none

/-- The members of a set or an object that has some. -/
def members? (fuel opened : Nat) (s : List Char) : Option (Shape × List Char) :=
  match fuel with
  | 0 => none
  | fuel + 1 => do
    let (name, rest) ← literal? fuel opened s
    match rest with
    | ':' :: rest => pairsAfter? fuel opened name rest
    | _ =>
      let (shape, _, rest) ← rowAfter? fuel opened '\x7d' name rest
      if shape.isFindable then return (.other false, rest) else none

/-- The pairs of an object, of which the first name was read with the colon after it. -/
def pairsAfter? (fuel opened : Nat) (name : Shape) (s : List Char) : Option (Shape × List Char) :=
  match fuel with
  | 0 => none
  | fuel + 1 => do
    let (value, rest) ← literal? fuel opened s
    if !name.isFindable || !value.isLiteral then none
    else
      match rest with
      | '\x7d' :: rest => return (.other false, rest)
      | ',' :: rest =>
        match skipBlanks true rest with
        | '\x7d' :: rest => return (.other false, rest)
        | rest =>
          match ← literal? fuel opened rest with
          | (name, ':' :: rest) => pairsAfter? fuel opened name rest
          | _ => none
      | _ => none

end

/-- Whether a text is a literal, or literals with commas between them. -/
def isRow : Nat → List Char → Bool
  | 0, _ => false
  | fuel + 1, s =>
    match literal? (6 * s.length + 6) 0 s with
    | some (shape, ',' :: rest) =>
      shape.isLiteral && (isOver (skipBlanks false rest) || isRow fuel rest)
    | some (shape, rest) => shape.isLiteral && isOver rest
    | none => false

/-- Whether a text is a literal, or a row of them without brackets. However they are written, line
ends are line feeds; there are no zero characters. -/
def isLiteral (s : Text) : Bool :=
  match (Text.unifyLineEnds s).chars? with
  | none => false
  | some s =>
    let first := fromFirstLine s.length s
    !s.contains '\x00' && !isIndentedAfter false false first && isRow (first.length + 1) first

end Lamella.Literal
