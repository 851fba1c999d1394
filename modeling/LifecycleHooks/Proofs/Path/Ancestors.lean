import LifecycleHooks.Proofs.Path

/-!
The directories above a path, as they come by taking away what stands last in its text. For absolute
paths they are what the components say: those that are left when some are cut off from the end.
-/

namespace LifecycleHooks.Path

/-- A directory on the way to a path, but not its end: the parent, the parent of that, and so on. -/
inductive IsAbove : Path → Path → Prop
  | parent {above path : Path} (found : path.parent? = some above) : IsAbove above path
  | further {above parent path : Path} (found : path.parent? = some parent)
      (higher : IsAbove above parent) : IsAbove above path

/-! What an idle end is worth. Texts are given last character first, as `dropIdle` takes them. -/

theorem pieces_nil : pieces [] = [] := rfl

theorem pieces_dot : pieces ['.'] = [] := rfl

theorem pieces_cons_slash (back : List Char) : pieces ('/' :: back) = pieces back := by
  rw [← List.nil_append ('/' :: back), pieces_append_slash, pieces_nil, List.nil_append]

theorem pieces_slash (front : List Char) : pieces (front ++ ['/']) = pieces front := by
  rw [pieces_append_slash, pieces_nil, List.append_nil]

theorem pieces_dropIdle (chars : List Char) :
    pieces (dropIdle chars).reverse = pieces chars.reverse := by
  fun_induction dropIdle chars with
  | case1 c rest ih =>
      have turned : ('/' :: c :: rest).reverse = (c :: rest).reverse ++ ['/'] := List.reverse_cons
      rw [ih, turned, pieces_slash]
  | case2 rest ih =>
      have turned : ('.' :: '/' :: rest).reverse = rest.reverse ++ ['/', '.'] := by simp
      rw [ih, turned, List.reverse_cons, pieces_slash, pieces_append_slash, pieces_dot,
        List.append_nil]
  | case3 chars => rfl

theorem getLast?_dropIdle (chars : List Char) : (dropIdle chars).getLast? = chars.getLast? := by
  fun_induction dropIdle chars with
  | case1 c rest ih => rw [ih, List.getLast?_cons_cons]
  | case2 rest ih => rw [ih, List.getLast?_cons_cons]
  | case3 chars => rfl

theorem dropIdle_ne_slash (chars : List Char) (c : Char) (rest : List Char) :
    dropIdle chars ≠ '/' :: c :: rest := by
  fun_induction dropIdle chars with
  | case1 _ _ ih => exact ih
  | case2 _ ih => exact ih
  | case3 chars noSlash noDot => exact noSlash c rest

theorem dropIdle_ne_dot (chars : List Char) (rest : List Char) :
    dropIdle chars ≠ '.' :: '/' :: rest := by
  fun_induction dropIdle chars with
  | case1 _ _ ih => exact ih
  | case2 _ ih => exact ih
  | case3 chars noSlash noDot => exact noDot rest

theorem component?_eq_some {piece : List Char} (given : piece ≠ []) (noDot : piece ≠ ['.']) :
    ∃ component, component? piece = some component := by
  rw [component?, if_neg (by simp [given, noDot])]
  split
  · exact ⟨.parent, rfl⟩
  · exact ⟨.name (String.ofList piece), rfl⟩

theorem dropIdle_split {chars : List Char} (rooted : chars.getLast? = some '/')
    (more : dropIdle chars ≠ ['/']) :
    ∃ last front component, dropIdle chars = last ++ '/' :: front ∧ '/' ∉ last ∧
      component? last.reverse = some component := by
  have slash : '/' ∈ dropIdle chars := by
    rw [← getLast?_dropIdle] at rooted
    exact List.mem_of_getLast? rooted
  obtain ⟨last, front, split, noSlash⟩ := List.eq_append_cons_of_mem slash
  have given : last ≠ [] := by
    rintro rfl
    cases front with
    | nil => exact more split
    | cons c rest => exact dropIdle_ne_slash chars c rest split
  have noDot : last ≠ ['.'] := by
    rintro rfl
    exact dropIdle_ne_dot chars front split
  have givenPiece : last.reverse ≠ [] := by simpa using given
  have noDotPiece : last.reverse ≠ ['.'] := by simpa [List.reverse_eq_iff] using noDot
  obtain ⟨component, found⟩ := component?_eq_some givenPiece noDotPiece
  exact ⟨last, front, component, split, noSlash, found⟩

theorem pieces_of_noSlash {piece : List Char} (noSlash : '/' ∉ piece) :
    pieces piece = (component? piece).toList := by
  rw [pieces, Text.splitOnChar_of_notMem noSlash]
  cases found : component? piece with
  | none => simp [found]
  | some component => simp [found]

theorem isAbsolute_iff (path : Path) :
    path.isAbsolute = true ↔ path.text.toList.head? = some '/' := by
  rw [isAbsolute]
  split
  · rename_i chars
    simp [chars]
  · rename_i noSlash
    cases chars : path.text.toList with
    | nil => simp
    | cons c rest =>
        have other : c ≠ '/' := fun slash => noSlash rest (slash ▸ chars)
        simp [other]

theorem components_of_absolute {path : Path} (absolute : path.isAbsolute = true) :
    path.components = .root :: pieces path.text.toList := by
  obtain ⟨rest, chars, parts⟩ := components_of_isAbsolute absolute
  rw [parts, chars, pieces_cons_slash]

theorem parent?_of_split {path : Path} {last front : List Char}
    (split : dropIdle path.text.toList.reverse = last ++ '/' :: front) (noSlash : '/' ∉ last)
    (more : dropIdle path.text.toList.reverse ≠ ['/']) :
    path.parent? = some ⟨String.ofList (dropIdle ('/' :: front)).reverse⟩ := by
  have behind : (last ++ '/' :: front).dropWhile (· != '/') = '/' :: front := by
    rw [List.dropWhile_append_of_pos]
    · rfl
    · intro c member
      have other : c ≠ '/' := fun slash => noSlash (slash ▸ member)
      simpa using other
  rw [parent?]
  split
  · rename_i nothing
    rw [nothing] at split
    simp at split
  · exact absurd ‹_› more
  · rw [split, behind]

theorem parent?_cases {path : Path} (absolute : path.isAbsolute = true) :
    (path.parent? = none ∧ path.components = [.root]) ∨
      ∃ parent component, path.parent? = some parent ∧ parent.isAbsolute = true ∧
        path.components = parent.components ++ [component] := by
  have rooted : path.text.toList.reverse.getLast? = some '/' := by
    rw [List.getLast?_reverse]
    exact (isAbsolute_iff path).mp absolute
  have whole : pieces (dropIdle path.text.toList.reverse).reverse = pieces path.text.toList := by
    rw [pieces_dropIdle, List.reverse_reverse]
  by_cases alone : dropIdle path.text.toList.reverse = ['/']
  · refine .inl ⟨by rw [parent?, alone]; rfl, ?_⟩
    rw [components_of_absolute absolute, ← whole, alone]
    rfl
  · obtain ⟨last, front, component, split, noSlash, found⟩ := dropIdle_split rooted alone
    have above : path.parent? = some ⟨String.ofList (dropIdle ('/' :: front)).reverse⟩ :=
      parent?_of_split split noSlash alone
    have aboveRooted : (dropIdle ('/' :: front)).reverse.head? = some '/' := by
      rw [List.head?_reverse, getLast?_dropIdle]
      rwa [← getLast?_dropIdle, split, List.getLast?_append_of_ne_nil _ (List.cons_ne_nil _ _)]
        at rooted
    have aboveAbsolute : isAbsolute ⟨String.ofList (dropIdle ('/' :: front)).reverse⟩ = true := by
      rw [isAbsolute_iff, String.toList_ofList]
      exact aboveRooted
    refine .inr ⟨_, component, above, aboveAbsolute, ?_⟩
    have lastPiece : pieces last.reverse = [component] := by
      rw [pieces_of_noSlash (by simpa using noSlash), found]
      rfl
    rw [components_of_absolute absolute, components_of_absolute aboveAbsolute,
      String.toList_ofList, pieces_dropIdle, ← whole, split, List.reverse_append,
      List.reverse_cons, List.append_assoc, List.singleton_append, pieces_append_slash,
      pieces_slash, lastPiece, List.cons_append]

/-! Above a path. -/

theorem same_iff (path other : Path) :
    path.same other = true ↔ path.components = other.components := decide_eq_true_iff

theorem components_of_parent? {path parent : Path} (absolute : path.isAbsolute = true)
    (found : path.parent? = some parent) :
    parent.isAbsolute = true ∧
      ∃ component, path.components = parent.components ++ [component] := by
  rcases parent?_cases absolute with ⟨noParent, -⟩ | ⟨above, component, given, rooted, parts⟩
  · rw [noParent] at found
    contradiction
  · obtain rfl := Option.some.inj (found.symm.trans given)
    exact ⟨rooted, component, parts⟩

theorem exists_parent {path : Path} (absolute : path.isAbsolute = true) {front : List Component}
    {last : Component} (parts : path.components = front ++ [last]) (given : front ≠ []) :
    ∃ parent, path.parent? = some parent ∧ parent.components = front := by
  rcases parent?_cases absolute with ⟨-, alone⟩ | ⟨parent, component, found, -, whole⟩
  · rw [parts] at alone
    obtain ⟨nothing, -⟩ := List.append_inj' (alone.trans (List.nil_append _).symm) rfl
    contradiction
  · exact ⟨parent, found, (List.append_inj' (whole.symm.trans parts) rfl).1⟩

theorem isAbove_components {above path : Path} (higher : IsAbove above path)
    (absolute : path.isAbsolute = true) :
    above.isAbsolute = true ∧ ∃ below ≠ [], path.components = above.components ++ below := by
  induction higher with
  | parent found =>
      obtain ⟨rooted, component, parts⟩ := components_of_parent? absolute found
      exact ⟨rooted, [component], by simp, parts⟩
  | further found higher ih =>
      obtain ⟨parentRooted, component, parts⟩ := components_of_parent? absolute found
      obtain ⟨rooted, below, -, whole⟩ := ih parentRooted
      refine ⟨rooted, below ++ [component], by simp, ?_⟩
      rw [parts, whole, List.append_assoc]

theorem prefix_of_leads {entry path : Path} (leads : entry = path ∨ IsAbove entry path)
    (absolute : path.isAbsolute = true) :
    entry.isAbsolute = true ∧ entry.components <+: path.components := by
  rcases leads with rfl | higher
  · exact ⟨absolute, List.prefix_refl _⟩
  · obtain ⟨rooted, below, -, parts⟩ := isAbove_components higher absolute
    exact ⟨rooted, below, parts.symm⟩

/-- Each beginning of the components of an absolute path belongs to the path or to one above it. -/
theorem exists_leads {path : Path} {parts : List Component} (absolute : path.isAbsolute = true)
    (given : parts ≠ []) (starts : parts <+: path.components) :
    ∃ entry, (entry = path ∨ IsAbove entry path) ∧ entry.components = parts := by
  -- The induction is on how many components the path has, its parent having one less.
  induction size : path.components.length generalizing path with
  | zero =>
      rw [components_of_absolute absolute] at size
      contradiction
  | succ size ih =>
      rcases parent?_cases absolute with ⟨-, alone⟩ | ⟨parent, last, found, parentRooted, whole⟩
      · refine ⟨path, .inl rfl, ?_⟩
        rw [alone] at starts ⊢
        rcases List.prefix_cons_iff.mp starts with nothing | ⟨rest, same, more⟩
        · exact absurd nothing given
        · rw [same, List.prefix_nil.mp more]
      · rw [whole] at starts size
        rcases List.prefix_concat_iff.mp starts with same | higher
        · exact ⟨path, .inl rfl, whole.trans same.symm⟩
        · obtain ⟨entry, leads, same⟩ := ih parentRooted higher (by simpa using size)
          refine ⟨entry, .inr ?_, same⟩
          rcases leads with rfl | up
          · exact .parent found
          · exact .further found up

theorem components_ne_nil {path : Path} (absolute : path.isAbsolute = true) :
    path.components ≠ [] := by
  rw [components_of_absolute absolute]
  exact List.cons_ne_nil _ _

/-- The components of an absolute path begin with those of another one just if that is the path
itself or above it. -/
theorem prefix_iff {path other : Path} (absolute : path.isAbsolute = true)
    (rooted : other.isAbsolute = true) :
    other.components <+: path.components ↔
      other.same path = true ∨ ∃ above, IsAbove above path ∧ other.same above = true := by
  simp only [same_iff]
  constructor
  · intro starts
    obtain ⟨entry, leads, same⟩ := exists_leads absolute (components_ne_nil rooted) starts
    rcases leads with rfl | higher
    · exact .inl same.symm
    · exact .inr ⟨entry, higher, same.symm⟩
  · rintro (same | ⟨above, higher, same⟩)
    · exact ⟨[], by rw [List.append_nil, same]⟩
    · exact same ▸ (prefix_of_leads (.inr higher) absolute).2

end LifecycleHooks.Path
