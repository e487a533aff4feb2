import Lamella.Song.Basic
import Lamella.Value.Reader
import Lamella.Value.Writer

/-!
# Songs as data

A song is exchanged as an object whose fields have fixed names, alone or in a list. Reading is
lenient in what may be left out and in how numbers are written, and tells what is wrong otherwise.

## Main definitions

- `Song.toValue`, `Song.valueOf`, `Song.ofValue`: songs and their data.
- `Song.toText`, `Song.ofText`: songs and their text.
- `Song.libraryText`, `Song.libraryOfText`: several songs and their text.
-/

namespace Lamella.Song

variable {R : Type} [Scalar R]

/-- A field that is left out when it holds nothing. -/
def optionalField (name : String) (v : Value R) : List (String × Value R) :=
  if v.isNull then [] else [(name, v)]

/-- A song as data, of however many digits its metre is. -/
def toValue (s : Song R) : Value R :=
  .record ([
    ("id", .str s.id),
    ("title", .str s.title),
    ("artist", s.artist),
    ("bpm", s.tempo.toValue),
    ("timeSignature", .str s.metre.text),
    ("difficulty", .str s.difficulty.text),
    ("duration", s.duration),
    ("notes", .list (s.notes.map Note.toValue)),
    ("notation", s.tab),
    ("createdAt", s.created)] ++
    optionalField "authorTuning" s.tuning ++ optionalField "authorTineCount" s.tines)

/-- The data of a song, unless its metre has more digits than are written. -/
def valueOf (s : Song R) : Except Fault (Value R) :=
  if s.metre.numerator < Nat.pow 10 Decimal.digitLimit then .ok s.toValue else .error .unwritable

/-- Whether a required field is there: an empty list counts as given. -/
def isGiven (v : Value R) : Bool :=
  match v with
  | .list [] => true
  | v => !v.isEmptyish

/-- What a song is made of, from its data. -/
def draftOfValue (v : Value R) : Except Fault (Draft R) := do
  let .object fields := v | throw .notASong
  let field := Value.field fields
  for name in ["id", "title", "bpm", "notes"] do
    if !isGiven (field name) then throw (.fieldMissing name)
  let .list entries := field "notes" | throw .notesNoList
  let tempo ← (field "bpm").toScalar
  let grid ← Grid.make tempo (.value (field "timeSignature"))
  let notes ← entries.mapM fun entry => Note.ofValue entry (some grid.step)
  let difficulty ← Difficulty.ofValue (field "difficulty")
  return {
    id := some (field "id").text
    title := (field "title").text
    artist := (field "artist").orElse (.str "Unknown")
    tempo := .measured tempo
    metre := .metre grid.metre
    difficulty := .str difficulty.text
    duration := field "duration"
    notes
    tab := field "notation"
    tuning := field "authorTuning"
    tines := field "authorTineCount"
    created := field "createdAt" }

/-- A song from data. -/
def ofValue (v : Value R) : Work (Song R) := do make (← Work.of (draftOfValue v))

/-- A song as text. -/
def toText (s : Song R) : Text := s.toValue.toText

/-- Songs as text. -/
def libraryText (songs : List (Song R)) : Text := (Value.list (songs.map toValue)).toText

/-- The fault of a text that is no data. -/
def textFault (wrap : Flaw → Fault) (flaw : Flaw) : Fault :=
  match flaw.cause with
  | .digits count => .tooManyDigits count
  | .nesting => .nestedText
  | _ => wrap flaw

/-- A song from text. -/
def ofText (text : Text) : Work (Song R) := do
  ofValue (← Work.of ((Value.ofText text).mapError (textFault .songText)))

/-- Songs from text. -/
def libraryOfText (text : Text) : Work (List (Song R)) := do
  let data ← Work.of ((Value.ofText text).mapError (textFault .badJson))
  match data with
  | .list entries => entries.mapM ofValue
  | _ => throw .notALibrary

end Lamella.Song
