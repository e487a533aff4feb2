import Lamella.Fault
import Lamella.Label
import Lamella.Order

/-!
# Layouts

A layout is the row of keys of an instrument, from left to right, with the labels by which
tablature reaches them. The labels are read off the keys: of keys that display one label, those
whose own degree is the label's degree are preferred, and of equals the last one in the row.

## Main definitions

- `Key`, `Layout`: keys, and rows of keys whose indices count up from zero.
- `Layout.make`: the layout of keys given in any order.
- `Layout.lookup`, `Layout.resolve`, `Layout.labelFor`: labels to keys and back.
- `Layout.byPitch`, `Layout.range`: the keys in the order of pitch, and how far they reach.
-/

namespace Lamella

/-- A key: where it lies, how it sounds and what is engraved on it. A key outside the scale has
degree zero. -/
structure Key (F : Type) where
  index : Int
  frequency : F
  degree : Int
  markers : Int
  displayDegree : Text
  displayNote : Text
  noteName : Text
  octave : Int
deriving Inhabited

namespace Key

variable {F : Type}

/-- Whether a key sounds a raised note. -/
def isSharp (k : Key F) : Bool := k.noteName.contains (.char '#')

/-- The octave glyphs of a key. -/
def marker (k : Key F) : Except Fault Text := Label.glyphsInRoom k.markers

/-- The label a key displays, if it displays one. -/
def label? (k : Key F) : Option Label := Label.ofText? k.displayDegree

end Key

/-- A row of keys whose indices count up from zero. -/
structure Layout (F : Type) where
  keys : List (Key F)
  name : Text
  calibrated : Bool
  keys_ne : keys ≠ []
  indices_eq : keys.map Key.index = (List.range keys.length).map Int.ofNat

/-- Where a label leads: to a key, which has the label's degree or merely displays it. -/
structure Layout.Address where
  label : Label
  index : Int
  byDegree : Bool
deriving DecidableEq, Inhabited

namespace Layout

variable {F : Type}

/-- The keys in the order of their indices. -/
def inOrder (keys : List (Key F)) : List (Key F) :=
  keys.mergeSort fun a b => decide (a.index ≤ b.index)

/-- The layout of keys given in any order. -/
def make (keys : List (Key F)) (name : Text) (calibrated : Bool) : Except Fault (Layout F) :=
  let keys := inOrder keys
  if h : keys = [] then .error .noKeys
  else if h' : keys.map Key.index = (List.range keys.length).map Int.ofNat then
    .ok ⟨keys, name, calibrated, h, h'⟩
  else .error (.scattered (keys.map Key.index))

/-- The number of keys. -/
def size (l : Layout F) : Nat := l.keys.length

/-- The key at an index; a negative index counts from the end. -/
def at? (l : Layout F) (index : Int) : Option (Key F) :=
  if 0 ≤ index then l.keys[index.toNat]?
  else if -(l.size : Int) ≤ index then l.keys[(l.size + index).toNat]?
  else none

/-- The key at an index, which must be in range on either side. -/
def get (l : Layout F) (index : Int) : Except Fault (Key F) :=
  match l.at? index with
  | some k => .ok k
  | none => .error .outOfRange

/-- Whether an index is one of the row's. -/
def has (l : Layout F) (index : Int) : Prop := 0 ≤ index ∧ index < l.size

instance (l : Layout F) (index : Int) : Decidable (l.has index) :=
  inferInstanceAs (Decidable (_ ∧ _))

/-- How a layout names itself. -/
def shown (l : Layout F) : Text :=
  "Layout(name=" ++ Text.quoted l.name ++ ", keys=" ++ toString l.size ++ ")"

/-! ## Labels -/

/-- Enters a key into a table of addresses: it takes its label, unless a key of the label's degree
has it and this key is of another degree. -/
def enter (table : List Address) (k : Key F) : List Address :=
  match k.label? with
  | none => table
  | some label =>
    let new : Address := ⟨label, k.index, k.degree == label.degree⟩
    match table.find? (·.label == label) with
    | none => table ++ [new]
    | some old =>
      -- A key of the label's own degree gives way only to another such key
      if old.byDegree && !new.byDegree then table
      else table.map fun a => if a.label == label then new else a

/-- The addresses of a layout's keys. -/
def addresses (l : Layout F) : List Address := l.keys.foldl enter []

/-- The index of the key that a table of addresses gives a label. -/
def indexIn (table : List Address) (label : Label) : Option Int :=
  (table.find? (·.label == label)).map (·.index)

/-- The index of the key that a table of addresses gives a written label. -/
def resolveIn (table : List Address) (s : Text) : Option Int :=
  (Label.ofText? s).bind (indexIn table)

/-- The written label that a table of addresses gives a key. -/
def labelIn (table : List Address) (index : Int) : Option Text :=
  ((table.find? (·.index == index)).map (·.label)).map Label.text

/-- The index of the key of a label. -/
def lookup (l : Layout F) (label : Label) : Option Int := indexIn l.addresses label

/-- The index of the key of a written label. -/
def resolve (l : Layout F) (s : Text) : Option Int := resolveIn l.addresses s

/-- The written label that leads to a key. -/
def labelFor (l : Layout F) (index : Int) : Option Text := labelIn l.addresses index

/-- The written label that leads to a key, or what the key displays. -/
def caption (l : Layout F) (k : Key F) : Text := (l.labelFor k.index).getD k.displayDegree

/-- The keys with their captions. -/
def captions (l : Layout F) : List (Key F × Text) :=
  let table := l.addresses
  l.keys.map fun k => (k, (labelIn table k.index).getD k.displayDegree)

/-! ## Pitch -/

section Pitch

variable [Scalar F]

/-- The keys in the order of their frequencies. -/
def byPitch (l : Layout F) : List (Key F) :=
  Order.sortBy (fun a b => decide (a.frequency ≤ b.frequency)) l.keys

/-- The lowest and the highest frequency. -/
def range (l : Layout F) : F × F :=
  let fs := l.keys.map Key.frequency
  match fs with
  | [] => (Scalar.ofInt 0, Scalar.ofInt 0)
  | f :: rest => (rest.foldl Scalar.smaller f, rest.foldl Scalar.larger f)

end Pitch

end Layout

end Lamella
