import Lamella.Proofs.Command.Running
import Lamella.Proofs.Decimal.Spelling

/-!
# What can be said

How markup is read is left to the screen, and so is what it prints. What commands rely on is little:
text without marks is shown as it is, a warning can be shown whatever it names, since it is escaped,
and everything is printed that can be made bytes.

## Main definitions

- `Text.IsPlain`: text without marks.
- `Screen.Lawful`: what is relied on of screens.

## Main statements

- `Screen.Lawful.sayable_plain`: text without marks can be said.
- `Text.isPlain_counted`, `Text.isPlain_compiled`: what is said of notes is such text.
-/

namespace Lamella

/-! ## §1 Plain text -/

namespace Text

/-- A text of whole characters without brackets, backslashes and colons. -/
def IsPlain (s : Text) : Prop :=
  ∀ p ∈ s, p.isHalf = false ∧ p ≠ .char '[' ∧ p ≠ .char '\\' ∧ p ≠ .char ':'

theorem IsPlain.append {s t : Text} (hs : IsPlain s) (ht : IsPlain t) : IsPlain (s ++ t) :=
  List.forall_mem_append.mpr ⟨hs, ht⟩

theorem IsPlain.flatten {texts : List Text} (h : ∀ s ∈ texts, IsPlain s) : IsPlain texts.flatten := by
  intro p hp
  obtain ⟨s, hs, hp⟩ := List.mem_flatten.mp hp
  exact h s hs p hp

/-- Text of characters without a meaning is plain. -/
theorem isPlain_ofString {s : String}
    (h : (s.toList.all fun c => c ≠ '[' ∧ c ≠ '\\' ∧ c ≠ ':') = true) : IsPlain s := by
  refine List.forall_mem_map.mpr fun c hc => ?_
  obtain ⟨hopen, hslash, hcolon⟩ := of_decide_eq_true (List.all_eq_true.mp h c hc)
  exact ⟨rfl, fun heq => hopen (Point.char.inj heq), fun heq => hslash (Point.char.inj heq),
    fun heq => hcolon (Point.char.inj heq)⟩

/-! ## §2 Numbers -/

theorem ne_of_isDigit {c : Char} (hc : c.isDigit = true) : c ≠ '[' ∧ c ≠ '\\' ∧ c ≠ ':' := by
  refine ⟨?_, ?_, ?_⟩ <;>
  · rintro rfl
    cases hc

/-- Numbers are written as plain text. -/
theorem isPlain_toString (n : Nat) : IsPlain (toString n) := by
  refine isPlain_ofString (List.all_eq_true.mpr fun c hc => decide_eq_true ?_)
  rw [Nat.toString_eq_repr, Nat.toList_repr] at hc
  exact ne_of_isDigit (isDigits_toDigits _ _ hc)

/-- So are scalars, if finite ones are. -/
theorem isPlain_format {R : Type} [Scalar R] {write : Bool → Rat → List Char}
    (hwrite : ∀ negative q, ∀ c ∈ write negative q, c ≠ '[' ∧ c ≠ '\\' ∧ c ≠ ':') (x : R) :
    IsPlain (Scalar.format write x) := by
  unfold Scalar.format
  cases Scalar.reading x with
  | undefined => exact isPlain_ofString (s := "nan") (by decide)
  | infinite negative =>
    cases negative with
    | false => exact isPlain_ofString (s := "inf") (by decide)
    | true => exact isPlain_ofString (s := "-inf") (by decide)
  | finite q =>
    refine isPlain_ofString (List.all_eq_true.mpr fun c hc => decide_eq_true ?_)
    rw [String.toList_ofList] at hc
    exact hwrite _ q c hc

theorem isPlain_fixed {R : Type} [Scalar R] (places : Nat) (x : R) :
    IsPlain (Scalar.fixed places x) := by
  refine isPlain_format (fun negative q c hc => ?_) x
  rcases Decimal.mem_fixed hc with hc | rfl | rfl
  · exact ne_of_isDigit hc
  · decide
  · decide

theorem isPlain_general {R : Type} [Scalar R] (count : Nat) (x : R) :
    IsPlain (Scalar.format (Decimal.general count) x) := by
  refine isPlain_format (fun negative q c hc => ?_) x
  rcases Decimal.isNumeric_general _ _ _ c hc with hc | hc
  · exact ne_of_isDigit hc
  · simp only [List.mem_cons, List.not_mem_nil, or_false] at hc
    rcases hc with rfl | rfl | rfl | rfl <;> decide

/-- **How many notes there are is said in plain text**, after a plain word. -/
theorem isPlain_counted {what : Text} (hwhat : IsPlain what) (count : Nat) :
    IsPlain ("  " ++ what ++ " " ++ toString count ++ " notes") := by
  have hspaces : IsPlain (Text.ofString "  ") := isPlain_ofString (by decide)
  have hspace : IsPlain (Text.ofString " ") := isPlain_ofString (by decide)
  have hnotes : IsPlain (Text.ofString " notes") := isPlain_ofString (by decide)
  exact (((hspaces.append hwhat).append hspace).append (isPlain_toString count)).append hnotes

/-- So is how many notes were compiled, and how long they last. -/
theorem isPlain_compiled {R : Type} [Scalar R] (count : Nat) (seconds : R) :
    IsPlain ("  Compiled " ++ toString count ++ " notes, " ++ Scalar.fixed 2 seconds ++ "s") := by
  have hcompiled : IsPlain (Text.ofString "  Compiled ") := isPlain_ofString (by decide)
  have hnotes : IsPlain (Text.ofString " notes, ") := isPlain_ofString (by decide)
  have hunit : IsPlain (Text.ofString "s") := isPlain_ofString (by decide)
  exact (((hcompiled.append (isPlain_toString count)).append hnotes).append
    (isPlain_fixed 2 seconds)).append hunit

end Text

/-! ## §3 Screens -/

namespace Screen

/-- **What is relied on of a screen.** -/
structure Lawful (screen : Screen) : Prop where
  /-- All text is printed that can be made bytes. -/
  accept_text : ∀ s : Text, (∀ p ∈ s, p.isHalf = false) → screen.accept (.text s) = .ok ()
  /-- Tables of plain text are printed. -/
  accept_table : ∀ t : Table, (Printed.table t).points.IsPlain → screen.accept (.table t) = .ok ()
  /-- Plain text is shown as it is. -/
  shown_plain : ∀ s : Text, s.IsPlain → screen.shown s = .ok s
  /-- Text that was escaped can be said in the colour of warnings, if it can be made bytes. -/
  sayable_warning : ∀ s : Text, (∀ p ∈ s, p.isHalf = false) →
    screen.Sayable ("[yellow]Warning: " ++ screen.escape s ++ "[/yellow]")

variable {screen : Screen}

/-- Plain text can be said. -/
theorem Lawful.sayable_plain (h : screen.Lawful) {s : Text} (hs : s.IsPlain) : screen.Sayable s :=
  ⟨s, h.shown_plain s hs, h.accept_text s fun p hp => (hs p hp).1⟩

end Screen

end Lamella
