import Lamella.Proofs.Scalar.Steady
import Lamella.Song.Basic

/-!
# How long notes last

A duration is computed by going through the notes and keeping the latest of their ends. What is kept
is the end of a note that no other outlasts, if the ends are numbers, whatever the order of the notes.

## Main definitions

- `Song.Last`: how long notes last.

## Main statements

- `Song.last_durationOf`: what is computed is how long notes last.
-/

namespace Lamella.Song

variable {R : Type} [Scalar R]

/-- How long notes last: up to the latest of their ends and for the silence after it, or not at all if
there are none. -/
def Last (notes : List (Note R)) (duration : R) : Prop :=
  notes = [] ∧ duration = Scalar.ofInt 0 ∨
    ∃ last ∈ notes, (∀ n ∈ notes, n.finish ≤ last.finish) ∧ duration = last.finish + tail

/-- The latest end of notes, found by going through them. -/
theorem exists_latest [Scalar.Ranked R] {rest : List (Note R)} {first : Note R}
    (hfinish : ∀ n ∈ first :: rest, n.finish ≤ n.finish) :
    ∃ last ∈ first :: rest, (∀ n ∈ first :: rest, n.finish ≤ last.finish) ∧
      rest.foldl (fun longest m => Scalar.larger longest m.finish) first.finish = last.finish := by
  induction rest generalizing first with
  | nil => exact ⟨first, List.mem_cons_self, by simpa using hfinish, rfl⟩
  | cons next rest ih =>
    simp only [List.forall_mem_cons] at hfinish
    obtain ⟨hfirst, hnext, hrest⟩ := hfinish
    rw [List.foldl_cons, Scalar.larger]
    split
    · rename_i hlt
      obtain ⟨last, hlast, hleast, hfold⟩ := ih (List.forall_mem_cons.mpr ⟨hnext, hrest⟩)
      have hle := Scalar.le_of_lt hlt
      refine ⟨last, List.mem_cons_of_mem first hlast, List.forall_mem_cons.mpr ⟨?_, hleast⟩, hfold⟩
      exact Scalar.Orderly.le_trans hle (hleast next List.mem_cons_self)
    · rename_i hnot
      obtain ⟨last, hlast, hleast, hfold⟩ := ih (List.forall_mem_cons.mpr ⟨hfirst, hrest⟩)
      obtain ⟨hleastFirst, hleastRest⟩ := List.forall_mem_cons.mp hleast
      have hle : next.finish ≤ first.finish := Scalar.le_of_not_lt hnext hfirst hnot
      refine ⟨last, ?_, ?_, hfold⟩
      · rcases List.mem_cons.mp hlast with rfl | hlast
        · exact List.mem_cons_self
        · exact List.mem_cons_of_mem first (List.mem_cons_of_mem next hlast)
      · simp only [List.forall_mem_cons]
        exact ⟨hleastFirst, Scalar.Orderly.le_trans hle hleastFirst, hleastRest⟩

/-- **What is computed is how long notes last**, if their ends are numbers. -/
theorem last_durationOf [Scalar.Ranked R] {notes : List (Note R)}
    (hfinish : ∀ n ∈ notes, n.finish ≤ n.finish) : Last notes (durationOf notes) := by
  cases notes with
  | nil => exact .inl ⟨rfl, rfl⟩
  | cons first rest =>
    obtain ⟨last, hlast, hleast, hfold⟩ := exists_latest hfinish
    exact .inr ⟨last, hlast, hleast, congrArg (· + tail) hfold⟩

theorem map_finish_of_signature {notes owned : List (Note R)}
    (hsame : owned.map Note.signature = notes.map Note.signature) :
    owned.map Note.finish = notes.map Note.finish := by
  have hfinish : (Note.finish : Note R → R) = (fun s => s.2.1 + s.2.2) ∘ Note.signature := rfl
  rw [hfinish, ← List.map_map, ← List.map_map, hsame]

/-- How long notes last depends on nothing but when they end. -/
theorem Last.of_perm {notes owned : List (Note R)} {duration : R} (h : Last owned duration)
    (hperm : (owned.map Note.finish).Perm (notes.map Note.finish)) : Last notes duration := by
  rcases h with ⟨rfl, rfl⟩ | ⟨last, hlast, hleast, rfl⟩
  · exact .inl ⟨List.map_eq_nil_iff.mp hperm.symm.eq_nil, rfl⟩
  · obtain ⟨last', hlast', hsame⟩ :=
      List.mem_map.mp (hperm.mem_iff.mp (List.mem_map_of_mem hlast))
    refine .inr ⟨last', hlast', fun n hn => ?_, by rw [hsame]⟩
    obtain ⟨n', hn', hsame'⟩ := List.mem_map.mp (hperm.mem_iff.mpr (List.mem_map_of_mem hn))
    rw [hsame, ← hsame']
    exact hleast n' hn'

end Lamella.Song
