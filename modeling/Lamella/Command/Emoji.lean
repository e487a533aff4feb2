import Lamella.Command.Emoji.Names
import Lamella.Text.Blank
import Lamella.Text.Case
import Lamella.Text.Width

/-!
# Pictures by name

In printed text a name between colons stands for a picture: `:heart:` for a heart. The name may end
with `-text` or `-emoji`, which asks for the plain or for the coloured form. What names no picture
stays as it is, with both of its colons.

## Main definitions

- `Emoji.find?`: the picture of a name.
- `Emoji.replace`: a text with pictures for names.
-/

namespace Lamella.Emoji

/-- The entries of the table of names. -/
def entries : List (List Char × List Char) :=
  (Text.tableEntries names).map fun entry =>
    let entry := entry.toList
    (entry.takeWhile (· ≠ ':'), (entry.dropWhile (· ≠ ':')).drop 1)

/-- What a name of the table stands for. -/
def listed? (name : List Char) : Option (List Char) := entries.lookup name

/-- The value of a digit of base sixteen. -/
def hexValue (c : Char) : Nat := if c.isDigit then c.toNat - 48 else c.toNat - 87

/-- The characters whose code points are written with hyphens between them. -/
def characters (codes : List Char) : List Char :=
  (Text.pieces (· = '-') codes).map fun ds =>
    Char.ofNat (ds.foldl (fun n c => 16 * n + hexValue c) 0)

/-- Whether an entry is a flag. -/
def isFlag (entry : List Char) : Bool := entry.any Char.isUpper

/-- The flag of two letters. -/
def flag (letters : List Char) : List Char :=
  letters.map fun c => Char.ofNat (0x1f1e6 + (c.toNat - 65))

/-- The picture of an entry. -/
def picture (entry : List Char) : List Char :=
  if isFlag entry then flag entry else characters (entry.filter (· ≠ '*'))

/-- The plain form of a picture is marked with this character after it. -/
def plainMark : Char := '\ufe0e'

/-- The tones of skin, and the characters that give them. -/
def tones : List (List Char × Char) := [
  ("light".toList, Char.ofNat 0x1f3fb), ("medium-light".toList, Char.ofNat 0x1f3fc),
  ("medium".toList, Char.ofNat 0x1f3fd), ("medium-dark".toList, Char.ofNat 0x1f3fe),
  ("dark".toList, Char.ofNat 0x1f3ff)]

/-- A picture with a tone after its first character, in place of a mark of colour. -/
def toned (tone : Char) : List Char → List Char
  | [] => []
  | c :: rest => c :: tone :: rest.dropWhile (· = Text.colourMark)

/-- A text without an ending, if it has the ending. -/
def dropEnding? {α : Type} [BEq α] (ending s : List α) : Option (List α) :=
  if ending.isSuffixOf s then some (s.take (s.length - ending.length)) else none

/-- The picture of a name that ends with a tone of skin. -/
def findToned? (name : List Char) : Option (List Char) :=
  tones.findSome? fun (tone, c) => do
    let entry ← listed? (← dropEnding? ('_' :: tone ++ "_skin_tone".toList) name)
    guard (entry.contains '*')
    return toned c (picture entry)

/-- The picture of a name that begins with the mark of flags. -/
def findFlag? (name : List Char) : Option (List Char) := do
  let start := "flag_for_".toList
  guard (start.isPrefixOf name)
  let entry ← listed? (name.drop start.length)
  guard (isFlag entry)
  return picture entry

/-- The picture of a name in letters of either case. -/
def find? (name : Text) : Option Text := do
  let name ← (Text.lower name).chars?
  let picture ← ((listed? name).map picture).or ((findToned? name).or (findFlag? name))
  return Text.ofChars picture

/-- What stands between a colon and the next one, without blanks, and what comes after. -/
def toColon? : Text → Option (Text × Text)
  | [] => none
  | c :: rest =>
    if c = ':' then some ([], rest)
    else if Text.isBlank c then none
    else (toColon? rest).map fun (name, rest) => (c :: name, rest)

theorem toColon?_length {s name rest : Text} (h : toColon? s = some (name, rest)) :
    rest.length < s.length := by
  induction s generalizing name rest with
  | nil => simp [toColon?] at h
  | cons c s ih =>
    rw [toColon?] at h
    split at h
    · obtain ⟨-, rfl⟩ := Prod.mk.inj (Option.some.inj h)
      simp
    · split at h
      · exact absurd h (by simp)
      · obtain ⟨⟨n, r⟩, hr, he⟩ := Option.map_eq_some_iff.1 h
        obtain ⟨-, rfl⟩ := Prod.mk.inj he
        exact Nat.lt_succ_of_lt (ih hr)

/-- The picture of what stands between two colons, in the form that is asked for. -/
def named? (code : Text) : Option Text :=
  match dropEnding? "-text" code, dropEnding? "-emoji" code with
  | some name, _ => (find? name).map (· ++ [↑plainMark])
  | _, some name => (find? name).map (· ++ [↑Text.colourMark])
  | none, none => find? code

/-- A text with pictures in place of their names. -/
def replace (s : Text) : Text :=
  match s with
  | [] => []
  | c :: rest =>
    if c = ':' then
      match h : toColon? rest with
      | some (code, after) =>
        have : after.length < rest.length := toColon?_length h
        (named? code).getD (":" ++ code ++ ":") ++ replace after
      | none => c :: replace rest
    else c :: replace rest
termination_by s.length

end Lamella.Emoji
