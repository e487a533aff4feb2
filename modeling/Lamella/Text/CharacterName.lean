import Lamella.Text.Basic
import Lamella.Text.CharacterName.Table

/-!
# Named characters

Characters can be written by their names, in letters of either case. The ideographs are named by
their numbers and the Korean syllables by the letters that they are made of; all other names are
listed.

## Main definitions

- `Text.isCharacterName`: whether a text is the name of a character.
-/

namespace Lamella.Text

/-- The number that digits of base sixteen write. -/
def hexNumber (ds : List Char) : Nat :=
  ds.foldl (fun n c => 16 * n + (if c.isDigit then c.toNat - 48 else c.toLower.toNat - 87)) 0

/-- The ideographs that are named by their numbers, as ascending closed ranges. -/
def ideographs : Array (Nat × Nat) := #[
  (0x3400, 0x4dbf), (0x4e00, 0x9fff), (0x20000, 0x2a6df), (0x2a700, 0x2b738), (0x2b740, 0x2b81d),
  (0x2b820, 0x2cea1), (0x2ceb0, 0x2ebe0), (0x30000, 0x3134a)]

/-- Whether a text is the number of an ideograph: four or five digits. -/
def isIdeographNumber (ds : List Char) : Bool :=
  (ds.length == 4 || ds.length == 5) && ds.all (fun c => c.isDigit || ('A' ≤ c && c ≤ 'F')) &&
    inRanges ideographs (hexNumber ds)

/-- The letters that begin a syllable. -/
def initials : List String :=
  ["G", "GG", "N", "D", "DD", "R", "M", "B", "BB", "S", "SS", "", "J", "JJ", "C", "K", "T", "P",
    "H"]

/-- The vowels of a syllable. -/
def vowels : List String :=
  ["A", "AE", "YA", "YAE", "EO", "E", "YEO", "YE", "O", "WA", "WAE", "OE", "YO", "U", "WEO", "WE",
    "WI", "YU", "EU", "YI", "I"]

/-- The letters that end a syllable. -/
def finals : List String :=
  ["", "G", "GG", "GS", "N", "NJ", "NH", "D", "L", "LG", "LM", "LB", "LS", "LT", "LP", "LH", "M",
    "B", "BS", "S", "SS", "NG", "J", "C", "K", "T", "P", "H"]

/-- What follows the longest of some parts that a text begins with, if it begins with one. -/
def afterLongest? (parts : List String) (s : List Char) : Option (List Char) :=
  let found := (parts.map String.toList).filter (·.isPrefixOf s)
  match found with
  | [] => none
  | part :: rest => some (s.drop (rest.foldl (fun n p => max n p.length) part.length))

/-- Whether a text is the letters of a Korean syllable. -/
def isSyllable (s : List Char) : Bool :=
  (((afterLongest? initials s).bind (afterLongest? vowels)).bind (afterLongest? finals)).any
    List.isEmpty

/-- What follows a start that a text has. -/
def after? (start : String) (s : List Char) : Option (List Char) :=
  if start.toList.isPrefixOf s then some (s.drop start.length) else none

/-- How many characters small letters say that a name shares with the one before it. -/
def sharedCount (letters : List Char) : Nat := letters.foldl (fun n c => n + (c.toNat - 97)) 0

/-- Whether a name is among those of a table, after a name of it. Each step is on one name. -/
def isListedAfter (name before : List Char) : Nat → List Char → Bool
  | 0, _ => false
  | _, [] => false
  | fuel + 1, table =>
    let shared := sharedCount (table.takeWhile Char.isLower)
    let own := table.dropWhile Char.isLower
    let next := before.take shared ++ own.takeWhile (!·.isLower)
    next == name || isListedAfter name next fuel (own.dropWhile (!·.isLower))

/-- Whether a name, with underscores for its spaces, is among those of a part of the table. -/
def isListed (name : List Char) (part : String) : Bool :=
  let table := part.toList.filter (!·.isWhitespace)
  isListedAfter name [] table.length table

/-- Whether a text is the name of a character. -/
def isCharacterName (name : List Char) : Bool :=
  match after? "HANGUL SYLLABLE " name, after? "CJK UNIFIED IDEOGRAPH-" name with
  | some syllable, _ => isSyllable syllable
  | none, some number => isIdeographNumber number
  | none, none =>
    let listed := name.map fun c => if c = ' ' then '_' else c.toUpper
    !name.contains '_' && namesInParts.any (isListed listed)

end Lamella.Text
