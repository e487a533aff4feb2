import Lamella.Layout.Preset
import Lamella.Song.Basic
import Lamella.Tab.Reading

/-!
# Songs from tablature

A tablature, read on the keys of a layout, becomes a song that keeps the text it was read from.
-/

namespace Lamella.Song

/-- What a song of a tablature is made of. -/
structure Sheet (R : Type) where
  tab : Text
  title : Text
  tempo : Quantity R
  metre : Metre.Source R := .metre .common
  artist : Value R := .str "Unknown"
  difficulty : Value R := .str "medium"
  tuning : Value R := .null
  id : Option Text := none

variable {F R : Type} [Scalar R]

/-- The song of a tablature on a layout. -/
def compose (layout : Layout F) (sheet : Sheet R) : Work (Song R) := do
  let grid ← Work.of (Grid.make sheet.tempo.scalar sheet.metre)
  let reading ← Tab.readWarning layout grid sheet.tab
  make {
    title := sheet.title
    notes := reading.notes
    tempo := sheet.tempo
    metre := .metre grid.metre
    artist := sheet.artist
    difficulty := sheet.difficulty
    tab := .str sheet.tab
    id := sheet.id.filter fun id => !id.isEmpty
    tuning := sheet.tuning
    tines := .int layout.size }

end Lamella.Song
