import Lamella.Command.Emoji
import Lamella.Command.Markup.Literal
import Lamella.Command.Markup.Style
import Lamella.Command.Screen
import Lamella.Text.Word

/-!
# Markup

What is printed may carry tags in square brackets, such as `[red]` and `[/red]`, which say how it
looks and are not shown. A tag begins with a small letter, `#`, `/` or `@`, and ends at the next
closing bracket; a backslash in front of it makes it plain text, and two stand for one. In plain
text a name between colons stands for a picture.

## Main definitions

- `Markup.chunks`: a text cut into characters and tags.
- `Markup.Tag`, `Markup.Page`: tags, and what is seen and styled between them.
- `Markup.shown`: what is seen of a text. A closing tag must close one that is open.
- `Markup.escape`: a text written so that all of it is seen.
-/

namespace Lamella.Markup

/-- A part of a text: a character, a tag or the end of the text, each after a run of backslashes. -/
inductive Chunk where
  | plain (slashes : Nat) (c : Point)
  | tag (slashes : Nat) (name : Text)
  | final (slashes : Nat)
deriving DecidableEq, Inhabited

/-- The characters that a tag may begin with. -/
def beginsTag : Point → Bool
  | .char c => ('a' ≤ c && c ≤ 'z') || c == '#' || c == '/' || c == '@'
  | .half _ => false

/-- What comes before the next closing bracket, without an opening one, and what comes after. -/
def toBracket? : Text → Option (Text × Text)
  | [] => none
  | c :: rest =>
    if c = ']' then some ([], rest)
    else if c = '[' then none
    else (toBracket? rest).map fun (name, rest) => (c :: name, rest)

/-- The tag that begins after an opening bracket, and what comes after it. -/
def tag? : Text → Option (Text × Text)
  | [] => none
  | c :: rest =>
    if beginsTag c then (toBracket? rest).map fun (name, rest) => (c :: name, rest) else none

theorem toBracket?_length {s name rest : Text} (h : toBracket? s = some (name, rest)) :
    rest.length < s.length := by
  induction s generalizing name rest with
  | nil => simp [toBracket?] at h
  | cons c s ih =>
    rw [toBracket?] at h
    split at h
    · obtain ⟨-, rfl⟩ := Prod.mk.inj (Option.some.inj h)
      simp
    · split at h
      · exact absurd h (by simp)
      · obtain ⟨⟨n, r⟩, hr, he⟩ := Option.map_eq_some_iff.1 h
        obtain ⟨-, rfl⟩ := Prod.mk.inj he
        exact Nat.lt_succ_of_lt (ih hr)

theorem tag?_length {s name rest : Text} (h : tag? s = some (name, rest)) :
    rest.length < s.length := by
  cases s with
  | nil => simp [tag?] at h
  | cons c s =>
    rw [tag?] at h
    split at h
    · obtain ⟨⟨n, r⟩, hr, he⟩ := Option.map_eq_some_iff.1 h
      obtain ⟨-, rfl⟩ := Prod.mk.inj he
      exact Nat.lt_succ_of_lt (toBracket?_length hr)
    · exact absurd h (by simp)

/-- A text cut into characters and tags, after some backslashes. -/
def chunksAfter (slashes : Nat) (s : Text) : List Chunk :=
  match s with
  | [] => [.final slashes]
  | c :: rest =>
    if c = '\\' then chunksAfter (slashes + 1) rest
    else if c = '[' then
      match h : tag? rest with
      | some (name, after) =>
        have : after.length < rest.length := tag?_length h
        .tag slashes name :: chunksAfter 0 after
      | none => .plain slashes c :: chunksAfter 0 rest
    else .plain slashes c :: chunksAfter 0 rest
termination_by s.length

/-- A text cut into characters and tags. -/
def chunks (s : Text) : List Chunk := chunksAfter 0 s

/-- So many backslashes. -/
def backslashes (count : Nat) : Text := List.replicate count (.char '\\')

/-- A text written so that all of it is seen: tags are made plain, and a single backslash at the end
is doubled, so that it cannot make a tag plain that follows. -/
def escape (s : Text) : Text :=
  (chunks s).flatMap fun
    | .plain n c => backslashes n ++ [c]
    | .tag n name => backslashes (2 * n + 1) ++ "[" ++ name ++ "]"
    | .final n => backslashes (if n = 1 then 2 else n)

/-! ## Tags -/

/-- A tag: its name in normal form, and what is written after an equality sign. -/
structure Tag where
  name : Text
  parameters : Option Text
deriving DecidableEq, Inhabited

namespace Tag

/-- The tag that is written between brackets. -/
def ofText (s : Text) : Except Fault Tag := do
  let isName (c : Point) : Bool := c ≠ '='
  let name ← Style.normal (s.takeWhile isName)
  return ⟨name, (s.dropWhile isName).tail?⟩

/-- The style that a tag asks for: its parameters are words of it too. -/
def style (t : Tag) : Text := Text.join " " (t.name :: t.parameters.toList)

/-- Whether a tag reacts to a pointer. -/
def isReactive (t : Tag) : Bool := t.name.head? = some (.char '@')

/-- The literal that the parameters of a tag give: what is in parentheses after a name or without
one, nothing after a name alone, and else the parameters themselves. -/
def literalOf (parameters : Text) : Text :=
  let rest := parameters.dropWhile fun (c : Point) => Text.isWordPoint c || c = '.'
  if rest = [] then "()"
  else if rest.head? = some (.char '(') ∧ rest.getLast? = some (.char ')') ∧
      !rest.contains (.char '\n') then rest
  else parameters

/-- When a tag that reacts to a pointer is closed, its parameters must be a literal. -/
def close (t : Tag) : Except Fault Unit :=
  let parameters := t.parameters.getD []
  if !t.isReactive ∨ parameters = [] then .ok ()
  else if Literal.isLiteral (literalOf (Text.strip parameters)) then .ok ()
  else .error (.tagParameters parameters)

end Tag

/-- A part of a text that is seen, and the style that it is shown in. -/
structure Span where
  start : Nat
  stop : Nat
  style : Text
deriving DecidableEq, Inhabited

/-! ## Pages -/

/-- What is seen of a text so far, last point first, with the count of its points; the tags that are
open, last first, each with the count when it was opened; and the parts that were styled. -/
structure Page where
  seen : Text := []
  count : Nat := 0
  opened : List (Tag × Nat) := []
  spans : List Span := []
deriving Inhabited

namespace Page

/-- Adds text that is seen. -/
def write (p : Page) (s : Text) : Page :=
  { p with seen := s.reverse ++ p.seen, count := p.count + s.length }

/-- Opens a tag. -/
def openTag (p : Page) (t : Tag) : Page := { p with opened := (t, p.count) :: p.opened }

/-- The last open tag of a name, last first, and the others. -/
def take? (name : Text) : List (Tag × Nat) → Option ((Tag × Nat) × List (Tag × Nat))
  | [] => none
  | t :: rest =>
    if t.1.name = name then some (t, rest)
    else (take? name rest).map fun (found, rest) => (found, t :: rest)

/-- Closes the last open tag of a name, or of any name if none is given. -/
def closeTag (p : Page) (name : Text) : Except Fault Page := do
  let found := if name = [] then p.opened.head?.map (·, p.opened.drop 1) else take? name p.opened
  match found with
  | some ((t, start), opened) =>
    t.close
    let span : Span := ⟨start, p.count, t.style⟩
    return { p with opened, spans := if t.isReactive then p.spans else span :: p.spans }
  | none => throw (.unopenedTag name)

/-- Opens or closes a tag. -/
def follow (p : Page) (tag : Text) : Except Fault Page := do
  match tag with
  | .char '/' :: rest =>
    let name := Text.strip (rest.takeWhile fun (c : Point) => c ≠ '=')
    p.closeTag (← if name = [] then pure [] else Style.normal name)
  | tag => return p.openTag (← Tag.ofText tag)

/-- What is seen of a text. -/
def text (p : Page) : Text := p.seen.reverse

/-- The styled parts of a text; tags that are still open reach to its end. -/
def styled (p : Page) : List Span :=
  p.opened.map (fun (t, start) => ⟨start, p.count, t.style⟩) ++ p.spans

/-- The points of a text that are printed. -/
def printed (s : Text) : Text := s.filter (!Screen.isControl ·)

/-- Whether a text is printed in pieces: its lines, and what is between tabs. -/
def isCut (s : Text) : Bool := s.any fun (c : Point) => c = '\n' || c = '\t'

/-- Whether the style of a part is looked at: for every point but line ends, and for an empty part
of a text that is printed in one piece. -/
def needsStyle (p : Page) (s : Span) : Bool :=
  let part := printed ((p.text.drop s.start).take (s.stop - s.start))
  if part = [] then !isCut p.text else part.any fun (c : Point) => c ≠ '\n'

/-- Looks at the styles of a text; a colour of which a share is left out is a fault. -/
def checkStyles (p : Page) : Except Fault Unit :=
  p.styled.forM fun s => do if p.needsStyle s then discard (Style.ofText? s.style)

end Page

/-! ## What is seen -/

/-- A text with single backslashes in front of brackets left out. -/
def bare : Text → Text
  | .char '\\' :: .char '[' :: rest => .char '[' :: bare rest
  | c :: rest => c :: bare rest
  | [] => []

/-- What is seen of text without tags. -/
def seen (s : Text) : Text := Emoji.replace (bare s)

/-- The page of chunks, after some plain text, last point first. -/
def pageAfter (page : Page) (plain : Text) : List Chunk → Except Fault Page
  | [] => .ok (page.write (seen plain.reverse))
  | .plain n c :: rest => pageAfter page (c :: (backslashes n ++ plain)) rest
  | .tag n name :: rest => do
    let page := (page.write (seen plain.reverse)).write (backslashes (n / 2))
    if n % 2 = 1 then pageAfter (page.write (seen ("[" ++ name ++ "]"))) [] rest
    else pageAfter (← page.follow name) [] rest
  | .final n :: rest => pageAfter page (backslashes n ++ plain) rest

/-- What is seen of a text. -/
def shown (s : Text) : Except Fault Text := do
  let page ← pageAfter {} [] (chunks s)
  page.checkStyles
  return page.text

end Lamella.Markup
