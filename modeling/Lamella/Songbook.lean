import Lamella.Song.Compose

/-!
# The songbook

Five songs that come with the library, as tablature.
-/

namespace Lamella.Songbook

/-- A song of the book. -/
structure Entry where
  id : String
  title : String
  artist : String
  tempo : Int
  difficulty : Difficulty
  lines : List String

/-- The songs of the book. -/
def entries : List Entry := [
  { id := "twinkle-twinkle", title := "Twinkle Twinkle", artist := "Traditional", tempo := 90
    difficulty := .easy
    lines := [
      "1 1 5 5 6 6 5",
      "4 4 3 3 2 2 1",
      "5 5 4 4 3 3 2",
      "5 5 4 4 3 3 2",
      "1 1 5 5 6 6 5",
      "4 4 3 3 2 2 1"] },
  { id := "frere-jacques", title := "Frère Jacques", artist := "Traditional", tempo := 100
    difficulty := .easy
    lines := [
      "1 2 3 1",
      "1 2 3 1",
      "3 4 5",
      "3 4 5",
      "5 6 5 4 3 1",
      "5 6 5 4 3 1",
      "1 5 1",
      "1 5 1"] },
  { id := "mary-had-a-little-lamb", title := "Mary Had a Little Lamb", artist := "Traditional"
    tempo := 100
    difficulty := .easy
    lines := [
      "3 2 1 2 3 3 3",
      "2 2 2",
      "3 5 5",
      "3 2 1 2 3 3 3",
      "3 2 2 3 2 1"] },
  { id := "fly-me-to-the-moon", title := "Fly Me to the Moon", artist := "Frank Sinatra"
    tempo := 85
    difficulty := .medium
    lines := [
      "1° 7 6 5 4",
      "5 6 1°",
      "7 6 5 4 3",
      "6 5 4 3 2",
      "3 4 6",
      "5 4 3 2 1",
      "2 6 6",
      "1° 7 5 1"] },
  { id := "scale-practice", title := "Scale Practice", artist := "Kalimba Hero", tempo := 100
    difficulty := .easy
    lines := [
      "1 2 3 4 5 6 7",
      "1° 2° 3° 4° 5° 6° 7°",
      "7° 6° 5° 4° 3° 2° 1°",
      "7 6 5 4 3 2 1"] }]

/-- The entry of an id. -/
def find? (id : Text) : Option Entry := entries.find? fun e => (e.id : Text) == id

variable {F R : Type} [Scalar R]

/-- The song of an entry on a layout. -/
def Entry.song (layout : Layout F) (e : Entry) : Work (Song R) :=
  Song.compose layout {
    tab := "\n".intercalate e.lines
    title := e.title
    tempo := .whole e.tempo
    artist := .str e.artist
    difficulty := .str e.difficulty.text
    id := some e.id }

/-- The song of an id on a layout. -/
def song (layout : Layout F) (id : Text) : Work (Song R) :=
  match find? id with
  | some e => e.song layout
  | none => throw .noEntry

/-- All songs of the book on a layout. -/
def songs (layout : Layout F) : Work (List (Song R)) := entries.mapM (Entry.song layout)

end Lamella.Songbook
