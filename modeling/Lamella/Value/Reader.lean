import Lamella.Value.Basic

/-!
# Reading values

Values are read from text in the JSON format, with three more numbers: `NaN`, `Infinity` and
`-Infinity`; and with fractions, if scalars are written so. Whole numbers are kept apart from those
written with a point or a power of ten, and of fields with one name the last value counts.

A text that is refused has a `Flaw`: what was wrong, and where.

## Main definitions

- `Flaw`: why a text is no value.
- `Value.ofText`: reads a whole text.
-/

namespace Lamella

/-- What makes a text no value. -/
inductive Flaw.Cause where
  | value
  | name
  | colon
  | comma
  | unterminated
  | control
  | escape
  | codePoint
  | extra
  | mark
  /-- A whole number of more digits than are read. -/
  | digits (count : Nat)
  /-- Containers within containers, more of them than are read. -/
  | nesting
deriving DecidableEq, Inhabited

/-- Why a text is no value, and where: `position` counts characters from the start, `line` and
`column` from one. -/
structure Flaw where
  cause : Flaw.Cause
  position : Nat
  line : Nat
  column : Nat
deriving DecidableEq, Inhabited

namespace Flaw

/-- The wording of a cause. -/
def Cause.message : Cause → String
  | value => "Expecting value"
  | name => "Expecting property name enclosed in double quotes"
  | colon => "Expecting ':' delimiter"
  | comma => "Expecting ',' delimiter"
  | unterminated => "Unterminated string starting at"
  | control => "Invalid control character at"
  | escape => "Invalid \\escape"
  | codePoint => "Invalid \\uXXXX escape"
  | extra => "Extra data"
  | mark => "Unexpected UTF-8 BOM (decode using utf-8-sig)"
  | digits count => Decimal.tooLong count
  | nesting => "Nested too deeply"

/-- The wording of a flaw: its cause and its place. -/
def message (f : Flaw) : String :=
  f.cause.message ++ ": line " ++ toString f.line ++ " column " ++ toString f.column ++ " (char " ++
    toString f.position ++ ")"

/-- A flaw at a position of a text. -/
def at_ (text : Text) (cause : Cause) (position : Nat) : Flaw :=
  let before := text.take position
  { cause, position
    line := before.count (.char '\n') + 1
    column := (before.reverse.takeWhile fun (p : Point) => p ≠ '\n').length + 1 }

end Flaw

namespace Value

variable {R : Type} [Scalar R]

/-- A refusal, placed by how many characters were left to read. -/
structure Refusal where
  cause : Flaw.Cause
  left : Nat

/-- A refusal of a text in quotes: one that does not end is refused where it starts. -/
def Refusal.startingAt (r : Refusal) (s : Text) : Refusal :=
  if r.cause = .unterminated then { r with left := s.length } else r

/-- The white space of the format. -/
def isSpace (c : Point) : Bool := c = ' ' || c = '\t' || c = '\n' || c = '\r'

/-- The rest of a text after white space. -/
def skipSpace (s : Text) : Text := s.dropWhile isSpace

/-- The value of a hexadecimal digit. -/
def hexDigit? (p : Point) : Option Nat := do
  let c ← p.char?
  if '0' ≤ c ∧ c ≤ '9' then some (c.toNat - 48)
  else if 'a' ≤ c ∧ c ≤ 'f' then some (c.toNat - 87)
  else if 'A' ≤ c ∧ c ≤ 'F' then some (c.toNat - 55)
  else none

/-- The value of four hexadecimal digits in front of a text, which must not end right after
them. -/
def hexUnit? : Text → Option (Nat × Text)
  | a :: b :: c :: d :: rest => do
    guard !rest.isEmpty
    let a ← hexDigit? a
    let b ← hexDigit? b
    let c ← hexDigit? c
    let d ← hexDigit? d
    return (((a * 16 + b) * 16 + c) * 16 + d, rest)
  | _ => none

/-- The character an escape of one letter stands for. -/
def shortEscape? : Point → Option Point
  | .char '"' => some '"'
  | .char '\\' => some '\\'
  | .char '/' => some '/'
  | .char 'b' => some '\x08'
  | .char 'f' => some '\x0c'
  | .char 'n' => some '\n'
  | .char 'r' => some '\r'
  | .char 't' => some '\t'
  | _ => none

/-- What follows `\u`: one code unit, or two that make one character. -/
def readUnit (s : Text) : Except Refusal (Point × Text) :=
  match hexUnit? s with
  | none => .error ⟨.codePoint, s.length + 1⟩
  | some (high, rest) =>
    if 0xd800 ≤ high ∧ high < 0xdc00 then
      match rest with
      | .char '\\' :: .char 'u' :: second =>
        if (second.take 5).length < 5 then .ok (.ofCode high, rest)
        else
          match hexUnit? second with
          | none => .error ⟨.codePoint, second.length + 1⟩
          | some (low, after) =>
            if 0xdc00 ≤ low ∧ low < 0xe000 then
              .ok (.ofCode (0x10000 + (high - 0xd800) * 0x400 + (low - 0xdc00)), after)
            else .ok (.ofCode high, rest)
      | _ => .ok (.ofCode high, rest)
    else .ok (.ofCode high, rest)

/-- The rest of a text in quotes. -/
def readText (fuel : Nat) (acc s : Text) : Except Refusal (Text × Text) :=
  match fuel, s with
  | 0, _ => .error ⟨.unterminated, 0⟩
  | _, [] => .error ⟨.unterminated, 0⟩
  | _, .char '"' :: rest => .ok (acc.reverse, rest)
  | _, [.char '\\'] => .error ⟨.unterminated, 0⟩
  | fuel + 1, .char '\\' :: .char 'u' :: rest => do
    let (c, rest) ← readUnit rest
    readText fuel (c :: acc) rest
  | fuel + 1, .char '\\' :: c :: rest =>
    match shortEscape? c with
    | some c => readText fuel (c :: acc) rest
    | none => .error ⟨.escape, rest.length + 2⟩
  | fuel + 1, c :: rest =>
    if c.code ≤ 0x1f then .error ⟨.control, rest.length + 1⟩
    else readText fuel (c :: acc) rest

/-- The digits in front of a text, if there are any, and the rest. -/
def digits? : Text → Option (List Char × Text)
  | .char c :: rest =>
    if c.isDigit then
      match digits? rest with
      | some (ds, rest) => some (c :: ds, rest)
      | none => some ([c], rest)
    else none
  | _ => none

/-- The digits after a point in front of a text, if there are any. -/
def fraction? : Text → Option (List Char × Text)
  | .char '.' :: rest => digits? rest
  | _ => none

/-- A sign in front of a text: whether it is a minus, and the rest. -/
def sign : Text → Bool × Text
  | .char '-' :: rest => (true, rest)
  | .char '+' :: rest => (false, rest)
  | rest => (false, rest)

/-- The power of ten in front of a text, if there is one. -/
def exponent? : Text → Option (Int × Text)
  | c :: rest =>
    if c = 'e' ∨ c = 'E' then
      let (negative, s) := sign rest
      (digits? s).map fun (ds, rest) =>
        (if negative then -(Decimal.value ds : Int) else Decimal.value ds, rest)
    else none
  | [] => none

/-- The digits before a point: a single zero, or digits that begin with none. -/
def wholePart? : Text → Option (List Char × Text)
  | .char '0' :: rest => some (['0'], rest)
  | s => digits? s

/-- The digits after a slash in front of a text, if there are any. -/
def divisor? : Text → Option (List Char × Text)
  | .char '/' :: rest => digits? rest
  | _ => none

/-- A row of digits with a sign. -/
def signedValue (negative : Bool) (ds : List Char) : Int :=
  if negative then -(Decimal.value ds : Int) else Decimal.value ds

/-- The scalar that digits and a text after them write as a fraction, if scalars are written so. -/
def fractionOf? (negative : Bool) (ds : List Char) (s : Text) : Option (R × Text) := do
  let (below, rest) ← divisor? s
  let x ← Scalar.ofFraction? (signedValue negative ds) (Decimal.value below)
  return (x, rest)

/-- A number in front of a text, after its sign. -/
def readUnsigned (negative : Bool) (s : Text) : Except Flaw.Cause (Value R × Text) :=
  match wholePart? s with
  | none => .error .value
  | some (whole, rest) =>
    match fraction? rest, exponent? ((fraction? rest).elim rest (·.2)) with
    | none, none =>
      match fractionOf? negative whole rest with
      | some (x, rest) => .ok (.num x, rest)
      | none =>
        if Decimal.digitLimit < whole.length then .error (.digits whole.length)
        else .ok (.int (signedValue negative whole), rest)
    | fraction, power =>
      let ds := (fraction.map (·.1)).getD []
      let afterFraction := (fraction.map (·.2)).getD rest
      let e := (power.map (·.1)).getD 0
      let d : Decimal := ⟨Decimal.value (whole ++ ds), e - ds.length⟩
      match Scalar.ofNumeral? (.finite negative d) with
      | some x => .ok (.num x, (power.map (·.2)).getD afterFraction)
      | none => .error .value

/-- A number. -/
def readNumber : Text → Except Flaw.Cause (Value R × Text)
  | .char '-' :: rest => readUnsigned true rest
  | s => readUnsigned false s

/-- A number that has a name. -/
def readNamed (n : Numeral) : Except Flaw.Cause (Value R) :=
  match Scalar.ofNumeral? n with
  | some x => .ok (.num x)
  | none => .error .value

/-- The rest of a text after a word, if the text begins with it. -/
def after? (word : Text) (s : Text) : Option Text :=
  if word.isPrefixOf s then some (s.drop word.length) else none

/-- The values that are words. -/
def wordValues : List (String × Except Flaw.Cause (Value R)) := [
  ("null", .ok .null), ("true", .ok (.bool true)), ("false", .ok (.bool false)),
  ("NaN", readNamed .undefined), ("Infinity", readNamed (.infinite false)),
  ("-Infinity", readNamed (.infinite true))]

/-- A value without others in it and without quotes. -/
def readPlain (s : Text) : Except Flaw.Cause (Value R × Text) :=
  let words : List (String × Except Flaw.Cause (Value R)) := wordValues
  match words.findSome? fun (word, v) => (after? word s).map (v, ·) with
  | some (v, rest) => v.map (·, rest)
  | none => readNumber s

/-- How many containers may stand within each other. -/
def nestingLimit : Nat := 990

mutual

/-- A value in which no more containers may stand within each other than `depth`. Of the fuel two
steps are spent on a character at most. -/
def read (fuel depth : Nat) (s : Text) : Except Refusal (Value R × Text) :=
  match fuel with
  | 0 => .error ⟨.value, s.length⟩
  | fuel + 1 =>
    match s with
    | .char '"' :: rest => do
      let (text, rest) ← (readText (fuel + 1) [] rest).mapError (·.startingAt s)
      return (.str text, rest)
    | .char '\x7b' :: rest =>
      match depth with
      | 0 => .error ⟨.nesting, rest.length + 1⟩
      | depth + 1 =>
        match skipSpace rest with
        | .char '\x7d' :: rest => .ok (.object [], rest)
        | rest => do
          let (fields, rest) ← readFields fuel depth [] rest
          return (.object fields, rest)
    | .char '[' :: rest =>
      match depth with
      | 0 => .error ⟨.nesting, rest.length + 1⟩
      | depth + 1 =>
        match skipSpace rest with
        | .char ']' :: rest => .ok (.list [], rest)
        | rest => do
          let (items, rest) ← readItems fuel depth rest
          return (.list items, rest)
    | _ => (readPlain s).mapError fun cause => ⟨cause, s.length⟩

/-- The items of a list that has some, up to its end. -/
def readItems (fuel depth : Nat) (s : Text) : Except Refusal (List (Value R) × Text) :=
  match fuel with
  | 0 => .error ⟨.value, s.length⟩
  | fuel + 1 => do
    let (v, rest) ← read fuel depth s
    match skipSpace rest with
    | .char ']' :: rest => return ([v], rest)
    | .char ',' :: rest =>
      let (items, rest) ← readItems fuel depth (skipSpace rest)
      return (v :: items, rest)
    | rest => .error ⟨.comma, rest.length⟩

/-- The fields of an object that has some, up to its end, after those already read. -/
def readFields (fuel depth : Nat) (fields : List (Text × Value R)) (s : Text) :
    Except Refusal (List (Text × Value R) × Text) :=
  match fuel with
  | 0 => .error ⟨.value, s.length⟩
  | fuel + 1 =>
    match s with
    | .char '"' :: rest => do
      let (name, rest) ← (readText (fuel + 1) [] rest).mapError (·.startingAt s)
      match skipSpace rest with
      | .char ':' :: rest =>
        let (v, rest) ← read fuel depth (skipSpace rest)
        let fields := setField name v fields
        match skipSpace rest with
        | .char '\x7d' :: rest => return (fields, rest)
        | .char ',' :: rest => readFields fuel depth fields (skipSpace rest)
        | rest => .error ⟨.comma, rest.length⟩
      | rest => .error ⟨.colon, rest.length⟩
    | _ => .error ⟨.name, s.length⟩

end

/-- Reads a whole text. -/
def ofText (s : Text) : Except Flaw (Value R) :=
  match s with
  | .char '\ufeff' :: _ => .error (Flaw.at_ s .mark 0)
  | _ =>
    match read (2 * s.length + 2) nestingLimit (skipSpace s) with
    | .error refusal => .error (Flaw.at_ s refusal.cause (s.length - refusal.left))
    | .ok (v, rest) =>
      match skipSpace rest with
      | [] => .ok v
      | rest => .error (Flaw.at_ s .extra (s.length - rest.length))

end Value

end Lamella
