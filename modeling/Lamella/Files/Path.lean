import Lamella.Text.Blank
import Lamella.Text.Octet

/-!
# Paths

A path names a place by the folders on the way to it. It starts at the working folder or at the
root; empty names and single dots lead nowhere and are dropped, and `..` leads one folder out.

## Main definitions

- `Path`, `Path.ofText`, `Path.text`: paths, and how they are written.
- `Path.name`, `Path.stem`, `Path.suffix`: the last name, before its last dot and from it on.
- `Path.ending`: what follows the last dot, of names that begin with dots too.
- `Path.isSpelled`: whether a path can be written in bytes.
- `Path.withSuffix`, `Path.parent`: paths next to a path, and above it.
-/

namespace Lamella

/-- A path: how many slashes it starts with, and the names on the way. -/
structure Path where
  slashes : Nat := 0
  names : List Text := []
deriving DecidableEq, Inhabited

namespace Path

/-- How many slashes a path keeps of those it is written with: two stay two, more are one. -/
def keptSlashes (count : Nat) : Nat := if count ≤ 2 then count else 1

/-- The path that a text writes. -/
def ofText (s : Text) : Path where
  slashes := keptSlashes (s.takeWhile fun (c : Point) => c = '/').length
  names :=
    (Text.pieces (fun (c : Point) => c = '/') s).filter fun (n : Text) => n ≠ [] ∧ n ≠ "."

/-- The text of a path; a path without names from the working folder is a dot. -/
def text (p : Path) : Text :=
  if p.slashes = 0 ∧ p.names = [] then "."
  else List.replicate p.slashes (.char '/') ++ Text.join "/" p.names

/-- The last name of a path. -/
def name (p : Path) : Text := p.names.getLastD []

/-- A name cut before its last dot, unless the dot is the first or the last character. -/
def cutName (name : Text) : Text × Text :=
  let tail := (name.reverse.takeWhile fun (c : Point) => c ≠ '.').reverse
  let stem := name.take (name.length - tail.length - 1)
  if tail = [] ∨ stem = [] then (name, []) else (stem, "." ++ tail)

/-- The last name without its suffix. -/
def stem (p : Path) : Text := (cutName p.name).1

/-- The last dot of the last name and what follows it. -/
def suffix (p : Path) : Text := (cutName p.name).2

/-- What follows the last dot of the last name; dots that the name begins with do not count. -/
def ending (p : Path) : Text :=
  let name := p.name.dropWhile fun (c : Point) => c = '.'
  if !name.contains (.char '.') then []
  else (name.reverse.takeWhile fun (c : Point) => c ≠ '.').reverse

/-- Whether a path can be written in bytes, none of which is zero. -/
def isSpelled (p : Path) : Bool :=
  !p.text.any Point.isBodiless && !p.text.contains (.char '\x00')

/-- The folder that a path leads to the last name from. -/
def parent (p : Path) : Path := { p with names := p.names.dropLast }

/-- The paths on the way to a path, and the path itself. -/
def ways (p : Path) : List Path :=
  (List.range p.names.length).map fun n => { p with names := p.names.take (n + 1) }

/-- The path of a name in the folder of a path. -/
def child (p : Path) (name : Text) : Path := { p with names := p.names ++ [name] }

/-- A path with another suffix in place of its own; a path without a name has none to replace. -/
def withSuffix? (p : Path) (suffix : Text) : Option Path :=
  if p.names = [] then none else some (p.parent.child (p.stem ++ suffix))

end Path

end Lamella
