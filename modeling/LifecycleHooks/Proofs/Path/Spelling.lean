import Mathlib.Logic.Relation
import LifecycleHooks.Proofs.Path.Ancestors

/-!
Ways of writing a path that differ in slashes and dots only. Absolute paths have the same components
in all of them.
-/

namespace LifecycleHooks.Path

/-- One slash more, or one dot that stands for the directory it is in. -/
inductive Padded : List Char → List Char → Prop
  | slash (front back : List Char) : Padded (front ++ '/' :: back) (front ++ '/' :: '/' :: back)
  | dot (front back : List Char) :
      Padded (front ++ '/' :: back) (front ++ '/' :: '.' :: '/' :: back)
  | slashAtEnd (chars : List Char) (given : chars ≠ []) : Padded chars (chars ++ ['/'])
  | dotAtEnd (front : List Char) : Padded (front ++ ['/']) (front ++ ['/', '.'])

def Respelled (path other : Path) : Prop :=
  Relation.EqvGen Padded path.text.toList other.text.toList

theorem Padded.pieces {chars others : List Char} (padded : Padded chars others) :
    Path.pieces others = Path.pieces chars := by
  cases padded with
  | slash front back => rw [pieces_append_slash, pieces_append_slash, pieces_cons_slash]
  | dot front back =>
      have dot : '.' :: '/' :: back = ['.'] ++ '/' :: back := rfl
      rw [pieces_append_slash, dot, pieces_append_slash, pieces_append_slash, pieces_dot,
        List.nil_append]
  | slashAtEnd chars given => exact pieces_slash chars
  | dotAtEnd front => rw [pieces_append_slash, pieces_dot, pieces_append_slash, pieces_nil]

theorem Padded.head? {chars others : List Char} (padded : Padded chars others) :
    others.head? = chars.head? := by
  cases padded with
  | slash front back => simp
  | dot front back => simp
  | slashAtEnd chars given => rw [List.head?_append_of_ne_nil _ given]
  | dotAtEnd front => simp

theorem Respelled.symm {path other : Path} (spelled : Respelled path other) :
    Respelled other path := Relation.EqvGen.symm _ _ spelled

theorem pieces_head?_of_eqvGen {chars others : List Char}
    (spelled : Relation.EqvGen Padded chars others) :
    pieces others = pieces chars ∧ others.head? = chars.head? := by
  induction spelled with
  | rel chars others padded => exact ⟨padded.pieces, padded.head?⟩
  | refl chars => exact ⟨rfl, rfl⟩
  | symm chars others _ ih => exact ⟨ih.1.symm, ih.2.symm⟩
  | trans chars between others _ _ first second =>
      exact ⟨second.1.trans first.1, second.2.trans first.2⟩

theorem Respelled.isAbsolute {path other : Path} (spelled : Respelled path other) :
    other.isAbsolute = path.isAbsolute := by
  rw [Bool.eq_iff_iff, isAbsolute_iff, isAbsolute_iff, (pieces_head?_of_eqvGen spelled).2]

theorem Respelled.components {path other : Path} (spelled : Respelled path other)
    (absolute : path.isAbsolute = true) : other.components = path.components := by
  have rooted : other.isAbsolute = true := spelled.isAbsolute.trans absolute
  rw [components_of_absolute absolute, components_of_absolute rooted,
    (pieces_head?_of_eqvGen spelled).1]

end LifecycleHooks.Path
