import Lamella.Command.Line
import Lamella.Command.Markup
import Lamella.Command.Perform

/-!
# A studio

The studio that commands are run in here: lines are read with options, the screen is a terminal,
songs sound as the engine renders them, and files are kept in the usual formats. Only the ear is
left open. What is proved of commands is proved of every lawful studio, of which this is one.

## Main definitions

- `Screen.terminal`: a screen of characters that reads markup.
- `Studio.ofDetector`: the studio of an ear.
-/

namespace Lamella

/-- The screen of a terminal, which shows markup and prints all characters. Halves of characters
have no bytes, and are not printed. -/
def Screen.terminal : Screen where
  escape := Markup.escape
  shown := Markup.shown
  accept p :=
    match Text.firstRun? Point.isHalf p.points with
    | some (place, count, unit) => .error (.halfCharacter place count unit)
    | none => .ok ()

/-- The studio of a detector whose voice is the engine. -/
def Studio.ofDetector {R S : Type} [Analytic R] [Scalar S] [Sample R S]
    (detector : Detector R R S) : Studio R R S where
  command? := Command.ofArguments?
  screen := .terminal
  detector := detector
  render layout song := do
    let e : Engine R := ⟨layout, Recording.standardRate, Engine.defaultGain⟩
    return ⟨← (e.song song (some [])).1, Recording.standardRate⟩
  formats := .usual

end Lamella
