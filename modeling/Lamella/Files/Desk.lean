import Lamella.Files.Basic
import Lamella.Journal

/-!
# The desk

Work on files is done at a desk, which has the files at hand and keeps the journal. Both outlive a
fault: what an attempt that failed has written stays written.

## Main definitions

- `Desk`: journal and files.
- `Task`: work at a desk.
- `Task.ofWork`: work that needs no files.
-/

namespace Lamella

/-- The journal, and the files at hand. -/
structure Desk (S : Type) where
  journal : Journal := {}
  files : Files S := {}

/-- A computation that keeps a journal, works on files and may fail. -/
abbrev Task (S α : Type) : Type := ExceptT Fault (StateM (Desk S)) α

namespace Task

variable {S α : Type}

/-- Work that needs no files. -/
def ofWork (work : Work α) : Task S α :=
  ExceptT.mk fun desk =>
    let (result, journal) := work.run desk.journal
    (result, { desk with journal })

/-- A pure result as a task. -/
def of (result : Except Fault α) : Task S α := ExceptT.mk (pure result)

/-- The files at hand. -/
def files : Task S (Files S) := return (← getThe (Desk S)).files

/-- Whether a path leads to something. -/
def contains (p : Path) : Task S Bool := do of ((← files).contains p)

/-- Makes the folder that a path leads to the last name from. -/
def makeRoom (p : Path) : Task S Unit :=
  ExceptT.mk fun desk =>
    let (made, files) := desk.files.makeFolder p.parent
    (made, { desk with files })

/-- Puts content into a file, in place of what was there. -/
def put (p : Path) (content : Content S) : Task S Unit := do
  let files ← of ((← files).write p content)
  modifyThe (Desk S) fun desk => { desk with files }

/-- Writes a file, in place of one that was there. Of a text that cannot be made bytes nothing is
written, and the file is left empty. -/
def write (p : Path) (content : Content S) : Task S Unit := do
  match content with
  | .text s =>
    match Text.firstRun? Point.isHalf s with
    | some (place, count, unit) =>
      put p (.text "")
      throw (.halfCharacter place count unit)
    | none => put p content
  | _ => put p content

/-- Writes a file, and makes the folder for it if there is none. -/
def save (p : Path) (content : Content S) : Task S Unit := do
  makeRoom p
  write p content

end Task

end Lamella
