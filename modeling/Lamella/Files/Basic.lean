import Lamella.Fault
import Lamella.Files.Path
import Lamella.Midi.File
import Lamella.Recording

/-!
# Files

The files that songs, pieces and recordings are kept in, as a tree of folders. A place in the tree
is the list of names that leads to it from the working folder; places from the root begin with a
slash, and places outside of the working folder begin with `..` for each folder outward.

## Main definitions

- `Content`: what a file holds.
- `Files`: folders and files by place.
- `Path.check`: whether anything can be at a path.
- `Files.locate`: the place that a path leads to.
- `Files.contains`, `Files.read`, `Files.write`, `Files.makeFolder`: what can be done with a path.
- `Files.changes`: what work on files has changed.
-/

namespace Lamella

/-- What a file holds: text, a MIDI piece, a recording, or what cannot be read as one of them. -/
inductive Content (S : Type) where
  | text (s : Text)
  | midi (file : Midi.File)
  | sound (recording : Recording S)
  | other
deriving BEq, Inhabited

/-- What is at a place: a folder, or a file with its content. -/
inductive Entry (S : Type) where
  | folder
  | file (content : Content S)
deriving BEq, Inhabited

/-- A place in the tree. -/
abbrev Place := List Text

/-- Folders and files by place. The working folder, those outside of it and the root are always
there. -/
structure Files (S : Type) where
  entries : List (Place × Entry S) := []

/-- The most bytes that a path can be written in. -/
def Path.mostBytes : Nat := 4095

/-- The most bytes that a name can be written in. -/
def Path.mostNameBytes : Nat := 255

/-- Why nothing can be at a path: no bytes write it, or one of them is zero, or they are too
many. -/
def Path.check (p : Path) : Except Fault Unit :=
  match Text.firstRun? Point.isBodiless p.text with
  | some (place, count, unit) => .error (.halfCharacter place count unit)
  | none =>
    if !p.isSpelled then .error .zeroByte
    else if Path.mostBytes < p.text.byteCount then .error .longName
    else .ok ()

/-- Why nothing can have a name: it is too long. -/
def Path.checkName (name : Text) : Except Fault Unit :=
  if Path.mostNameBytes < name.byteCount then .error .longName else .ok ()

namespace Files

variable {S : Type}

instance : Inhabited (Files S) := ⟨{}⟩

/-- The place of the root. -/
def root : Place := [↑"/"]

/-- Whether a name leads one folder out. -/
def isOutward (name : Text) : Bool := name = ".."

/-- What is at a place. -/
def at? (files : Files S) (place : Place) : Option (Entry S) :=
  if place = root ∨ place.all isOutward then some .folder else files.entries.lookup place

/-- The tree with something at a place, in place of what was there. -/
def put (files : Files S) (place : Place) (entry : Entry S) : Files S :=
  ⟨(place, entry) :: files.entries.filter (·.1 ≠ place)⟩

/-- The place one folder out; there is nothing outside of the root. -/
def outward (place : Place) : Place :=
  if place = root then root
  else if place.all isOutward then ↑".." :: place
  else place.dropLast

/-- The place that a name leads to from a folder. -/
def step (place : Place) (name : Text) : Place :=
  if isOutward name then outward place else place ++ [name.settle]

/-- Where names lead to from a place: through folders only. A name is looked at when the folder is
reached that it is looked for in. -/
def walk (files : Files S) (place : Place) : List Text → Except Fault Place
  | [] => .ok place
  | name :: rest =>
    match files.at? place with
    | none => .error (.sourceFile name)
    | some (.file _) => .error .notAFolder
    | some .folder => do
      Path.checkName name
      files.walk (step place name) rest

/-- The place that paths of a kind start from. -/
def start (p : Path) : Place := if p.slashes = 0 then [] else root

/-- The place that a path leads to. -/
def locate (files : Files S) (p : Path) : Except Fault Place := do
  p.check
  files.walk (start p) p.names

/-- What a path leads to. A path that is too long leads nowhere for certain, and one that leads
through a file, or that no bytes write, leads to nothing. -/
def entry? (files : Files S) (p : Path) : Except Fault (Option (Entry S)) :=
  match files.locate p with
  | .ok place => .ok (files.at? place)
  | .error .longName => .error .longName
  | .error _ => .ok none

/-- Whether a path leads to something. -/
def contains (files : Files S) (p : Path) : Except Fault Bool := return (← files.entry? p).isSome

/-- Reads a file. -/
def read (files : Files S) (p : Path) : Except Fault (Content S) := do
  match ← files.entry? p with
  | some (.file content) => return content
  | some .folder => throw .isFolder
  | none => throw (.sourceFile p.text)

/-- Reads a file of text; every end of a line is read as a line feed. -/
def readText (files : Files S) (p : Path) : Except Fault Text := do
  match ← files.read p with
  | .text s => return Text.unifyLineEnds s
  | _ => throw .notText

/-- Writes a file, in place of one that was there. -/
def write (files : Files S) (p : Path) (content : Content S) : Except Fault (Files S) := do
  let place ← files.locate p
  match files.at? place with
  | some .folder => throw .isFolder
  | _ => return files.put place (.file content)

/-- Makes the folders that names lead through from a place, as far as they are not there. Those
that are made before a fault stay. -/
def makeFrom (files : Files S) (place : Place) : List Text → Except Fault Unit × Files S
  | [] => (.ok (), files)
  | name :: rest =>
    match Path.checkName name with
    | .error f => (.error f, files)
    | .ok _ =>
      let next := step place name
      match files.at? next with
      | some .folder => files.makeFrom next rest
      | some (.file _) => (.error (if rest = [] then .fileExists else .notAFolder), files)
      | none => (files.put next .folder).makeFrom next rest

/-- Makes the folder of a path and those on the way to it. -/
def makeFolder (files : Files S) (p : Path) : Except Fault Unit × Files S :=
  match p.check with
  | .error f => (.error f, files)
  | .ok _ => files.makeFrom (start p) p.names

/-- A tree of the files of some paths, with their folders; paths that lead nowhere are left out. -/
def ofList (contents : List (Path × Content S)) : Files S :=
  contents.foldl (fun files (p, content) =>
    let (_, files) := files.makeFolder p.parent
    ((files.write p content).toOption).getD files) {}

/-- The path of a place. -/
def pathOf (place : Place) : Path :=
  if place.take 1 = root then ⟨1, place.drop 1⟩ else ⟨0, place⟩

/-- What is in one tree and was not in another, in the order in which it was put there. -/
def changes [BEq S] (before after : Files S) : List (Path × Entry S) :=
  (after.entries.reverse.filter fun (place, entry) => before.at? place != some entry).map
    fun (place, entry) => (pathOf place, entry)

end Files

end Lamella
