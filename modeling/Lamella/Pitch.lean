import Lamella.Value.Convert

/-!
# Pitch

Pitches are numbered in semitones, middle C being 60 and the tuning A 69. A pitch class is a number
from 0 (C) to 11 (B), an octave runs from C to B, and the octave of middle C is 4.

## Main definitions

- `Pitch.number`: the number of a pitch class in an octave.
- `Pitch.name`, `Pitch.nameOf`, `Pitch.ofName?`: names such as `C4`, `F#` or `Bb3`. An accidental
  carries across the octave boundary: `Cb4` is B in octave 3 and `B#3` is C in octave 4.
- `Pitch.frequency`, `Pitch.ofFrequency`: equal temperament around 440 Hz.
- `Pitch.cents`: the signed distance of two frequencies.
-/

namespace Lamella.Pitch

/-- The names of the pitch classes. -/
def classNames : List String := ["C", "C#", "D", "D#", "E", "F", "F#", "G", "G#", "A", "A#", "B"]

/-- The name of the pitch class of a number. -/
def className (n : Int) : String := classNames.getD (n % 12).toNat ""

/-- The octave of a pitch number. -/
def octave (n : Int) : Int := n / 12 - 1

/-- The number of a pitch class in an octave. -/
def number (pitchClass octave : Int) : Int := (octave + 1) * 12 + pitchClass

/-- The name of a pitch number, of however many digits. -/
def name (n : Int) : String := className n ++ toString (octave n)

/-- Names a pitch number, unless its octave has more digits than are written. -/
def nameOf (n : Int) : Except Fault String :=
  if (octave n).natAbs < Nat.pow 10 Decimal.digitLimit then .ok (name n) else .error .unwritable

/-! ## Reading names -/

/-- The pitch class of a letter without an accidental. -/
def letter? (c : Char) : Option Int :=
  match c.toUpper with
  | 'C' => some 0
  | 'D' => some 2
  | 'E' => some 4
  | 'F' => some 5
  | 'G' => some 7
  | 'A' => some 9
  | 'B' => some 11
  | _ => none

/-- The semitones an accidental in front of a text adds, and the rest. -/
def accidental : List Char → Int × List Char
  | '#' :: rest => (1, rest)
  | 'b' :: rest => (-1, rest)
  | rest => (0, rest)

/-- The octave a name may end with: nothing, or an integer with at most a minus sign. -/
def octaveOf? : List Char → Option (Option Int)
  | [] => some none
  | '-' :: ds => digits? true ds
  | ds => digits? false ds
where
  /-- One or more decimal digits of any script. -/
  digits? (negative : Bool) (ds : List Char) : Option (Option Int) :=
    if ds ≠ [] ∧ ds.all fun c => (Text.digitValue? c).isSome then
      let n : Int := Decimal.value (Decimal.plainDigits ds)
      some (some (if negative then -n else n))
    else none

/-- A note name taken apart: the semitones of its letter and accidental, and its own octave. -/
def parts? (s : List Char) : Option (Int × Option Int) :=
  match s with
  | [] => none
  | c :: rest => do
    let base ← letter? c
    let (shift, rest) := accidental rest
    let own ← octaveOf? rest
    return (base + shift, own)

/-- Reads a note name: its pitch class, and its octave where the name or the default gives one. -/
def ofName? (text : Text) (defaultOctave : Option Int) : Option (Int × Option Int) := do
  let (semitone, own) ← (Text.strip text).chars?.bind parts?
  match own.or defaultOctave with
  | none => return (semitone % 12, none)
  | some o =>
    let n := number semitone o
    return (n % 12, some (octave n))

/-- Reads a note name, or tells why it is none. All digits of a name are digits of its octave. -/
def ofName (text : Text) (defaultOctave : Option Int) : Except Fault (Int × Option Int) :=
  match ofName? text defaultOctave with
  | some p =>
    if Decimal.digitLimit < Text.digitCount text then .error (.tooManyDigits (Text.digitCount text))
    else .ok p
  | none => .error (.noteName text)

/-! ## Frequencies -/

section Frequency

variable {F : Type} [Analytic F]

/-- The frequency that lies octaves above the tuning A, unless it is beyond every scalar. -/
def frequencyAbove (octaves : F) : Except Fault F :=
  let factor := Analytic.exp2 octaves
  match Scalar.reading octaves, Scalar.reading factor with
  | .finite _, .infinite _ => .error .tooLarge
  | _, _ => .ok (440.0 * factor)

/-- The frequency of a pitch number. -/
def frequency (pitch : F) : Except Fault F := frequencyAbove ((pitch - Scalar.ofInt 69) / 12.0)

/-- The frequency of a whole pitch number. -/
def frequencyOfNumber (n : Int) : Except Fault F := do
  frequencyAbove ((← Value.scalarOfInt (n - 69)) / 12.0)

/-- The pitch number of a frequency; zero for a frequency that is not positive. -/
def ofFrequency (f : F) : F :=
  if f ≤ Scalar.ofInt 0 then Scalar.ofInt 0
  else Scalar.ofInt 69 + Scalar.ofInt 12 * Analytic.log2 (f / 440.0)

/-- The signed distance in cents from a reference to a frequency. -/
def cents (f reference : F) : Except Fault F := do
  return 1200.0 * Analytic.log2 (← Value.quotient f reference)

/-- The frequency of a named note. -/
def frequencyOfName (text : Text) (defaultOctave : Int) : Except Fault F := do
  let (pitchClass, octave) ← ofName text (some defaultOctave)
  frequencyOfNumber (number pitchClass (octave.getD defaultOctave))

/-- The name of the note nearest to a frequency. -/
def nearestName (f : F) : Except Fault String :=
  if f ≤ Scalar.ofInt 0 then .error (.frequency (Scalar.written f))
  else do
    nameOf (← (Scalar.round (ofFrequency f)).mapError Fault.ofGap)

end Frequency

end Lamella.Pitch
