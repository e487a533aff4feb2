import Lamella.Fault
import Lamella.Text.Quoted

/-!
# Work with a journal

Making songs draws fresh ids, looks at the time of day and may give warnings. A `Journal` holds all
three, and it outlives a fault: the ids and warnings of an attempt that failed stay in it.
-/

namespace Lamella

/-- The ids drawn so far, the time of day in milliseconds, and the warnings given, last first. -/
structure Journal where
  drawn : Nat := 0
  now : Int := 0
  given : List Warning := []
deriving Inhabited

/-- A computation that keeps a journal and may fail. -/
abbrev Work (α : Type) : Type := ExceptT Fault (StateM Journal) α

namespace Journal

/-- The warnings of a journal, in the order in which they were given. -/
def warnings (j : Journal) : List Warning := j.given.reverse

/-- The id drawn as the `n`-th. -/
def idText (n : Nat) : Text := Text.ofChars (Text.hex 12 n)

end Journal

namespace Work

/-- Draws an id that was not drawn before. -/
def freshId : Work Text := do
  let j ← getThe Journal
  set { j with drawn := j.drawn + 1 }
  return Journal.idText (j.drawn + 1)

/-- Gives a warning. -/
def warn (w : Warning) : Work Unit := modifyThe Journal fun j => { j with given := w :: j.given }

/-- Gives several warnings in order. -/
def warnAll (ws : List Warning) : Work Unit := ws.forM warn

/-- The time of day. -/
def now : Work Int := return (← getThe Journal).now

/-- A pure result as work. -/
def of {α : Type} (result : Except Fault α) : Work α := liftExcept result
where
  /-- A result without any change to the journal. -/
  liftExcept (result : Except Fault α) : Work α := ExceptT.mk (pure result)

end Work

end Lamella
