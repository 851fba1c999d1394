import Mathlib.Data.List.Basic
import LifecycleHooks.Path

/-!
The components of paths: the root stands in front and nowhere else, and a path below another one has
the components of both.
-/

namespace LifecycleHooks.Path

/-- Made of names only, so it is relative and every step leads further down. -/
def IsPlain (path : Path) : Prop := ∀ component ∈ path.components, ∃ name, component = .name name

def pieces (chars : List Char) : List Component :=
  (Text.splitOnChar '/' chars).filterMap component?

theorem startsWith_iff (path base : Path) :
    path.startsWith base = true ↔ base.components <+: path.components := by
  rw [startsWith, List.isPrefixOf_iff_prefix]

theorem endsWith_iff (path tail : Path) :
    path.endsWith tail = true ↔ tail.components <:+ path.components := by
  rw [endsWith, List.isSuffixOf_iff_suffix]

theorem component?_ne_root (piece : List Char) : component? piece ≠ some .root := by
  rw [component?]
  split
  · simp
  · split <;> simp

theorem root_notMem_pieces (chars : List Char) : .root ∉ pieces chars := by
  simp [pieces, component?_ne_root]

theorem pieces_append_slash (front back : List Char) :
    pieces (front ++ '/' :: back) = pieces front ++ pieces back := by
  rw [pieces, Text.splitOnChar_append, List.filterMap_append]
  rfl

theorem pieces_append_of_slash {front : List Char} (ends : front.getLast? = some '/')
    (back : List Char) : pieces (front ++ back) = pieces front ++ pieces back := by
  obtain ⟨start, rfl⟩ := List.getLast?_eq_some_iff.mp ends
  have nothing : pieces [] = [] := rfl
  rw [List.append_assoc, List.singleton_append, pieces_append_slash, pieces_append_slash, nothing,
    List.append_nil]

theorem components_of_isAbsolute {path : Path} (absolute : path.isAbsolute = true) :
    ∃ rest, path.text.toList = '/' :: rest ∧ path.components = .root :: pieces rest := by
  simp only [isAbsolute] at absolute
  split at absolute
  · rename_i rest chars
    exact ⟨rest, chars, by rw [components, chars]; rfl⟩
  · contradiction

theorem components_of_isRelative {path : Path} (relative : path.isAbsolute = false) :
    path.components = pieces path.text.toList ∨
      ∃ texts : List (List Char), path.components = .current :: texts.filterMap component? := by
  simp only [isAbsolute] at relative
  simp only [components, componentsOf]
  split
  · rename_i rest chars
    rw [chars] at relative
    contradiction
  · split
    · rename_i texts split
      exact .inr ⟨texts, rfl⟩
    · exact .inl rfl

theorem root_mem_components_iff (path : Path) :
    .root ∈ path.components ↔ path.isAbsolute = true := by
  cases absolute : path.isAbsolute with
  | true =>
      obtain ⟨rest, -, parts⟩ := components_of_isAbsolute absolute
      simp [parts]
  | false =>
      rcases components_of_isRelative absolute with parts | ⟨texts, parts⟩
      · simp [parts, root_notMem_pieces]
      · simp [parts, component?_ne_root]

theorem IsPlain.isRelative {path : Path} (plain : path.IsPlain) : path.isAbsolute = false := by
  by_contra absolute
  have rooted := (root_mem_components_iff path).mpr (by simpa using absolute)
  obtain ⟨name, named⟩ := plain .root rooted
  contradiction

theorem IsPlain.components_eq {path : Path} (plain : path.IsPlain) :
    path.components = pieces path.text.toList := by
  rcases components_of_isRelative plain.isRelative with parts | ⟨texts, parts⟩
  · exact parts
  · obtain ⟨name, named⟩ := plain .current (parts ▸ List.mem_cons_self)
    contradiction

theorem components_join {base path : Path} (absolute : base.isAbsolute = true)
    (plain : path.IsPlain) : (base.join path).components = base.components ++ path.components := by
  obtain ⟨rest, chars, parts⟩ := components_of_isAbsolute absolute
  have nonempty : base.text.isEmpty = false := by
    rw [← Bool.not_eq_true, String.isEmpty_iff]
    rintro empty
    simp [empty] at chars
  have joined : ∃ inner, (base.join path).text.toList = '/' :: inner ∧
      pieces inner = pieces rest ++ pieces path.text.toList := by
    rw [join, plain.isRelative, nonempty, if_neg (by simp)]
    split
    · rename_i ends
      refine ⟨rest ++ path.text.toList, by simp [chars], ?_⟩
      cases rest with
      | nil => rfl
      | cons c others =>
          rw [chars, List.getLast?_cons_cons] at ends
          exact pieces_append_of_slash ends _
    · exact ⟨rest ++ '/' :: path.text.toList, by simp [chars], pieces_append_slash _ _⟩
  obtain ⟨inner, joinedChars, joinedPieces⟩ := joined
  rw [components, joinedChars, parts, plain.components_eq, List.cons_append, ← joinedPieces]
  rfl

end LifecycleHooks.Path
