import LifecycleHooks.FileTree.Route

/-!
Where paths lead in a tree, and over how many links. Steps that are taken in two parts lead to the
same place as in one, so a path below another one leads to where it leads from there.
-/

namespace LifecycleHooks

namespace Route

def names (chars : List Char) : List String :=
  ((Text.splitOnChar '/' chars).map String.ofList).filter (· != "")

theorem steps_eq (route : Route) :
    route.steps = names route.text.toList ++ if route.endsWithSlash then ["."] else [] := rfl

theorem names_append (front back : List Char) :
    names (front ++ '/' :: back) = names front ++ names back := by
  simp only [names, Text.splitOnChar_append, List.map_append, List.filter_append]

theorem isAbsolute_eq (route : Route) :
    route.isAbsolute = (route.text.toList.head? == some '/') := by
  unfold isAbsolute
  split
  · rename_i rest text
    rw [text]
    rfl
  · rename_i noSlash
    cases text : route.text.toList with
    | nil => rfl
    | cons c rest =>
        have different : c ≠ '/' := fun slash => noSlash rest (slash ▸ text)
        simp [different]

theorem names_ne_nil {c : Char} {rest : List Char} (noSlash : c ≠ '/') : names (c :: rest) ≠ [] := by
  have first : ∃ piece pieces, Text.splitOnChar '/' (c :: rest) = (c :: piece) :: pieces := by
    rw [Text.splitOnChar, if_neg noSlash]
    cases Text.splitOnChar '/' rest with
    | nil => exact ⟨[], [], rfl⟩
    | cons piece pieces => exact ⟨piece, pieces, rfl⟩
  obtain ⟨piece, pieces, split⟩ := first
  rw [names, split, List.map_cons, List.filter_cons_of_pos (by simp)]
  exact List.cons_ne_nil _ _

end Route

namespace FileTree

variable {tree : FileTree}

def start (base : Location) (route : Route) : Location := if route.isAbsolute then [] else base

/-- Steps from a place lead to another one, over so many links. -/
inductive Follows (tree : FileTree) : Location → List String → Nat → Location → Prop
  | here (place : Location) : Follows tree place [] 0 place
  | step {place next target : Location} {piece : String} {rest : List String} {links : Nat}
      (advanced : tree.advance place piece = .ok next) (noLink : tree.linkAt? next = none)
      (onward : Follows tree next rest links target) : Follows tree place (piece :: rest) links target
  | link {place next target : Location} {piece path : String} {rest : List String} {links : Nat}
      (advanced : tree.advance place piece = .ok next) (found : tree.linkAt? next = some path)
      (onward : Follows tree (start place ⟨path⟩) (Route.steps ⟨path⟩ ++ rest) links target) :
      Follows tree place (piece :: rest) (links + 1) target

theorem walk_eq_ok_iff {bound : Nat} {place target : Location} {steps : List String} :
    tree.walk true bound place steps = .ok target ↔
      ∃ links ≤ bound, Follows tree place steps links target := by
  constructor
  · intro walked
    fun_induction FileTree.walk tree true bound place steps with
    | case1 bound place =>
        obtain rfl := Except.ok.inj walked
        exact ⟨0, Nat.zero_le _, .here place⟩
    | case2 => contradiction
    | case3 bound place piece rest next advanced noLink ih =>
        obtain ⟨links, few, follows⟩ := ih walked
        exact ⟨links, few, .step advanced (by simpa using noLink) follows⟩
    | case4 => contradiction
    | case5 place piece rest next advanced path found links ih =>
        obtain ⟨used, few, follows⟩ := ih walked
        exact ⟨used + 1, Nat.succ_le_succ few, .link advanced (by simpa using found) follows⟩
  · rintro ⟨links, few, follows⟩
    induction follows generalizing bound with
    | here place => rw [FileTree.walk]
    | step advanced noLink onward ih =>
        rw [FileTree.walk, advanced]
        simp only [Bool.not_true, Bool.and_false, Bool.false_eq_true, ↓reduceIte, noLink]
        exact ih few
    | link advanced found onward ih =>
        obtain ⟨before, rfl⟩ : ∃ before, bound = before + 1 := ⟨bound - 1, by omega⟩
        rw [FileTree.walk, advanced]
        simp only [Bool.not_true, Bool.and_false, Bool.false_eq_true, ↓reduceIte, found]
        exact ih (Nat.le_of_succ_le_succ few)

theorem Follows.advanced {place target : Location} {piece : String} {rest : List String}
    {links : Nat} (follows : Follows tree place (piece :: rest) links target) :
    ∃ next, tree.advance place piece = .ok next := by
  cases follows with
  | step advanced => exact ⟨_, advanced⟩
  | link advanced => exact ⟨_, advanced⟩

theorem follows_step_iff {place next target : Location} {piece : String} {rest : List String}
    {links : Nat} (advanced : tree.advance place piece = .ok next)
    (noLink : tree.linkAt? next = none) :
    Follows tree place (piece :: rest) links target ↔ Follows tree next rest links target := by
  refine ⟨?_, .step advanced noLink⟩
  intro follows
  cases follows with
  | step advancedToo _ onward =>
      obtain rfl := Except.ok.inj (advanced.symm.trans advancedToo)
      exact onward
  | link advancedToo found onward =>
      obtain rfl := Except.ok.inj (advanced.symm.trans advancedToo)
      rw [noLink] at found
      contradiction

theorem Follows.unique {place first second : Location} {steps : List String} {m n : Nat}
    (one : Follows tree place steps m first) (other : Follows tree place steps n second) :
    first = second := by
  induction one generalizing n with
  | here place =>
      cases other
      rfl
  | step advanced noLink onward ih => exact ih ((follows_step_iff advanced noLink).mp other)
  | link advanced found onward ih =>
      cases other with
      | step advancedToo noLinkToo onwardToo =>
          obtain rfl := Except.ok.inj (advanced.symm.trans advancedToo)
          rw [found] at noLinkToo
          contradiction
      | link advancedToo foundToo onwardToo =>
          obtain rfl := Except.ok.inj (advanced.symm.trans advancedToo)
          obtain rfl := Option.some.inj (found.symm.trans foundToo)
          exact ih onwardToo

/-- Steps in two parts: the links on both parts are those on the whole. -/
theorem follows_append_iff {place target : Location} {front back : List String} {links : Nat} :
    Follows tree place (front ++ back) links target ↔
      ∃ between first second, first + second = links ∧ Follows tree place front first between ∧
        Follows tree between back second target := by
  constructor
  · intro whole
    -- A link puts its own steps in front, so the front changes along the way.
    generalize joined : front ++ back = steps at whole
    induction whole generalizing front with
    | here place =>
        obtain ⟨rfl, rfl⟩ := List.append_eq_nil_iff.mp joined
        exact ⟨place, 0, 0, rfl, .here place, .here place⟩
    | @step place next target piece rest links advanced noLink onward ih =>
        cases front with
        | nil =>
            subst joined
            exact ⟨place, 0, links, Nat.zero_add links, .here place, .step advanced noLink onward⟩
        | cons head others =>
            obtain ⟨rfl, rfl⟩ := List.cons.inj joined
            obtain ⟨between, first, second, sum, toBetween, fromBetween⟩ := ih rfl
            exact ⟨between, first, second, sum, .step advanced noLink toBetween, fromBetween⟩
    | @link place next target piece path rest links advanced found onward ih =>
        cases front with
        | nil =>
            subst joined
            exact ⟨place, 0, links + 1, Nat.zero_add _, .here place, .link advanced found onward⟩
        | cons head others =>
            obtain ⟨rfl, rfl⟩ := List.cons.inj joined
            obtain ⟨between, first, second, sum, toBetween, fromBetween⟩ :=
              ih (List.append_assoc (Route.steps ⟨path⟩) others back)
            exact ⟨between, first + 1, second, by omega, .link advanced found toBetween, fromBetween⟩
  · rintro ⟨between, first, second, sum, toBetween, fromBetween⟩
    induction toBetween generalizing links with
    | here place =>
        rw [Nat.zero_add] at sum
        exact sum ▸ fromBetween
    | step advanced noLink onward ih => exact .step advanced noLink (ih sum fromBetween)
    | @link place next target piece path rest before advanced found onward ih =>
        obtain rfl : links = (before + second) + 1 := by omega
        have joined := ih rfl fromBetween
        rw [List.append_assoc] at joined
        exact .link advanced found joined

theorem of_advance_stay {place next : Location} (advanced : tree.advance place "." = .ok next) :
    next = place ∧ tree.linkAt? place = none := by
  unfold FileTree.advance at advanced
  split at advanced
  · contradiction
  · rename_i directory
    obtain rfl := Except.ok.inj advanced
    refine ⟨rfl, ?_⟩
    rw [FileTree.linkAt?, directory]
  · contradiction

theorem advance_stay {place next : Location} {piece : String}
    (advanced : tree.advance place piece = .ok next) : tree.advance place "." = .ok place := by
  unfold FileTree.advance at advanced ⊢
  split at advanced
  · contradiction
  · exact if_pos rfl
  · contradiction

theorem Follows.stay {place target : Location} {steps : List String} {links : Nat}
    (stayed : Follows tree place ("." :: steps) links target) :
    Follows tree place steps links target := by
  obtain ⟨next, advanced⟩ := stayed.advanced
  obtain ⟨rfl, noLink⟩ := of_advance_stay advanced
  exact (follows_step_iff advanced noLink).mp stayed

theorem follows_stay_iff {place target : Location} {steps : List String} {links : Nat}
    (notEmpty : steps ≠ []) :
    Follows tree place ("." :: steps) links target ↔ Follows tree place steps links target := by
  refine ⟨Follows.stay, ?_⟩
  intro follows
  obtain ⟨piece, rest, rfl⟩ := List.exists_cons_of_ne_nil notEmpty
  obtain ⟨next, advanced⟩ := follows.advanced
  have stayed := advance_stay advanced
  exact .step stayed (of_advance_stay stayed).2 follows

def Leads (tree : FileTree) (base : Location) (route : Route) (links : Nat) (target : Location) :
    Prop :=
  Follows tree (start base route) route.steps links target

/-- A path leads to a place, however many links are on the way. -/
def Reaches (tree : FileTree) (base : Location) (route : Route) (target : Location) : Prop :=
  ∃ links, Leads tree base route links target

theorem Reaches.unique {base first second : Location} {route : Route}
    (one : Reaches tree base route first) (other : Reaches tree base route second) :
    first = second := by
  obtain ⟨m, oneLeads⟩ := one
  obtain ⟨n, otherLeads⟩ := other
  exact oneLeads.unique otherLeads

/-- A path that the system takes, wherever it may lead. -/
def Admitted (route : Route) : Prop :=
  route.text.isEmpty = false ∧ route.text.toList.contains (Char.ofNat 0) = false ∧
    route.text.length ≤ longestPath

instance (route : Route) : Decidable (Admitted route) := inferInstanceAs (Decidable (_ ∧ _ ∧ _))

theorem locate_eq_ok_iff {base target : Location} {route : Route} :
    tree.locate base route = .ok target ↔
      Admitted route ∧ ∃ links ≤ longestChain, Leads tree base route links target := by
  simp only [Admitted, Leads, ← walk_eq_ok_iff, FileTree.locate, FileTree.lead, start]
  constructor
  · intro found
    split at found
    · contradiction
    rename_i given
    split at found
    · contradiction
    rename_i noNul
    split at found
    · contradiction
    · rename_i short
      exact ⟨⟨Bool.eq_false_iff.mpr given, Bool.eq_false_iff.mpr noNul, Nat.le_of_not_lt short⟩,
        found⟩
  · rintro ⟨⟨given, noNul, short⟩, walked⟩
    simp only [given, noNul, Nat.not_lt.mpr short, Bool.false_eq_true, ↓reduceIte, walked]

theorem reaches_of_locate {base target : Location} {route : Route}
    (found : tree.locate base route = .ok target) : Reaches tree base route target := by
  obtain ⟨-, links, -, leads⟩ := locate_eq_ok_iff.mp found
  exact ⟨links, leads⟩

theorem stat_eq_ok_iff {base place : Location} {route : Route} {node : Node} :
    tree.stat base route = .ok (place, node) ↔
      tree.locate base route = .ok place ∧ tree.find? place = some node := by
  unfold FileTree.stat FileTree.present
  cases tree.locate base route with
  | error e => simp [Except.bind]
  | ok located => cases found : tree.find? located <;> grind [Except.bind]

theorem reaches_absolute {base other target : Location} {route : Route}
    (absolute : route.isAbsolute = true) :
    Reaches tree base route target ↔ Reaches tree other route target := by
  simp only [Reaches, Leads, start, absolute, ↓reduceIte]

/-! Paths below other paths. -/

variable {outer inner : Route}

/-- A path is split where another one was joined to it; a slash between them is added or was there. -/
theorem toList_join (given : outer.text ≠ "") (relative : inner.isAbsolute = false) :
    (outer.endsWithSlash = false ∧
      (outer.join inner).text.toList = outer.text.toList ++ '/' :: inner.text.toList) ∨
    (outer.endsWithSlash = true ∧ ∃ front, outer.text.toList = front ++ ['/'] ∧
      (outer.join inner).text.toList = front ++ '/' :: inner.text.toList) := by
  have below : ¬ (inner.isAbsolute = true ∨ outer.text.isEmpty = true) := by
    simp [relative, given]
  rw [Route.join, if_neg below]
  split
  · rename_i slash
    have last : outer.text.toList.getLast? = some '/' := eq_of_beq slash
    obtain ⟨front, split⟩ := List.getLast?_eq_some_iff.mp last
    refine .inr ⟨slash, front, split, ?_⟩
    rw [String.toList_append, split, List.append_assoc, List.singleton_append]
  · rename_i noSlash
    refine .inl ⟨Bool.eq_false_iff.mpr noSlash, ?_⟩
    rw [String.toList_append, String.toList_append, List.append_assoc]
    rfl

theorem start_join (base : Location) (given : outer.text ≠ "")
    (relative : inner.isAbsolute = false) : start base (outer.join inner) = start base outer := by
  have same : (outer.join inner).isAbsolute = outer.isAbsolute := by
    rw [Route.isAbsolute_eq, Route.isAbsolute_eq]
    rcases toList_join given relative with ⟨-, joined⟩ | ⟨-, front, split, joined⟩
    · rw [joined]
      cases chars : outer.text.toList with
      | nil => exact absurd (String.toList_eq_nil_iff.mp chars) given
      | cons c rest => rfl
    · rw [joined, split]
      cases front <;> rfl
  rw [start, start, same]

theorem start_relative (base : Location) (relative : inner.isAbsolute = false) :
    start base inner = base := by
  rw [start, relative]
  rfl

theorem steps_ne_nil (given : inner.text ≠ "") (relative : inner.isAbsolute = false) :
    inner.steps ≠ [] := by
  cases chars : inner.text.toList with
  | nil => exact absurd (String.toList_eq_nil_iff.mp chars) given
  | cons c rest =>
      have noSlash : c ≠ '/' := by
        rintro rfl
        rw [Route.isAbsolute_eq, chars] at relative
        contradiction
      rw [Route.steps_eq, chars]
      exact List.append_ne_nil_of_left_ne_nil (Route.names_ne_nil noSlash) _

theorem endsWithSlash_join (outerGiven : outer.text ≠ "") (innerGiven : inner.text ≠ "")
    (relative : inner.isAbsolute = false) :
    (outer.join inner).endsWithSlash = inner.endsWithSlash := by
  have last (front : List Char) :
      (front ++ '/' :: inner.text.toList).getLast? = inner.text.toList.getLast? := by
    have innerLast := List.getLast?_eq_some_getLast (mt String.toList_eq_nil_iff.mp innerGiven)
    rw [List.append_cons, List.getLast?_append, innerLast, Option.some_or]
  unfold Route.endsWithSlash
  rcases toList_join outerGiven relative with ⟨-, joined⟩ | ⟨-, front, -, joined⟩
  · rw [joined, last]
  · rw [joined, last]

theorem steps_join (outerGiven : outer.text ≠ "") (innerGiven : inner.text ≠ "")
    (relative : inner.isAbsolute = false) :
    (outer.join inner).steps = outer.steps ++ inner.steps ∨
      ∃ front, outer.steps = front ++ ["."] ∧ (outer.join inner).steps = front ++ inner.steps := by
  have ends := endsWithSlash_join outerGiven innerGiven relative
  rcases toList_join outerGiven relative with ⟨noEnd, joined⟩ | ⟨slash, front, split, joined⟩
  · left
    rw [Route.steps_eq, Route.steps_eq outer, Route.steps_eq inner, joined, Route.names_append, ends,
      noEnd, List.append_assoc, List.append_assoc]
    rfl
  · refine .inr ⟨Route.names front, ?_, ?_⟩
    · rw [Route.steps_eq, split, Route.names_append, slash]
      exact congrArg (· ++ ["."]) (List.append_nil _)
    · rw [Route.steps_eq, Route.steps_eq inner, joined, Route.names_append, ends, List.append_assoc]

theorem leads_join_iff {base target : Location} {links : Nat} (outerGiven : outer.text ≠ "")
    (innerGiven : inner.text ≠ "") (relative : inner.isAbsolute = false) :
    Leads tree base (outer.join inner) links target ↔
      ∃ place first second, first + second = links ∧ Leads tree base outer first place ∧
        Leads tree place inner second target := by
  simp only [Leads, start_join base outerGiven relative, start_relative _ relative]
  rw [← follows_append_iff]
  rcases steps_join outerGiven innerGiven relative with same | ⟨front, outerSteps, joinedSteps⟩
  · rw [same]
  · rw [outerSteps, joinedSteps, List.append_assoc, List.singleton_append, follows_append_iff,
      follows_append_iff]
    simp only [follows_stay_iff (steps_ne_nil innerGiven relative)]

/-- A path below another one is found where it leads from there, if both parts together are short
enough and take few enough links. -/
theorem locate_join_iff {base target : Location} (outerGiven : outer.text ≠ "")
    (innerGiven : inner.text ≠ "") (relative : inner.isAbsolute = false) :
    tree.locate base (outer.join inner) = .ok target ↔
      Admitted (outer.join inner) ∧ ∃ place first second, first + second ≤ longestChain ∧
        Leads tree base outer first place ∧ Leads tree place inner second target := by
  simp only [locate_eq_ok_iff, leads_join_iff outerGiven innerGiven relative]
  constructor
  · rintro ⟨admitted, links, few, place, first, second, rfl, toPlace, onward⟩
    exact ⟨admitted, place, first, second, few, toPlace, onward⟩
  · rintro ⟨admitted, place, first, second, few, toPlace, onward⟩
    exact ⟨admitted, first + second, few, place, first, second, rfl, toPlace, onward⟩

theorem steps_join_empty (given : outer.text ≠ "") :
    (outer.join ⟨""⟩).steps = outer.steps ∨ (outer.join ⟨""⟩).steps = outer.steps ++ ["."] := by
  have relative : Route.isAbsolute ⟨""⟩ = false := rfl
  rcases toList_join given relative with ⟨noEnd, joined⟩ | ⟨-, front, split, joined⟩
  · right
    have ends : (outer.join ⟨""⟩).endsWithSlash = true := by
      rw [Route.endsWithSlash, joined]
      exact beq_iff_eq.mpr List.getLast?_concat
    rw [Route.steps_eq, Route.steps_eq outer, joined, Route.names_append, ends, noEnd]
    rfl
  · left
    rw [Route.steps_eq, Route.steps_eq outer, Route.endsWithSlash, Route.endsWithSlash, joined, split]
    rfl

theorem reaches_of_join {base target : Location} (given : outer.text ≠ "")
    (relative : inner.isAbsolute = false) (reaches : Reaches tree base (outer.join inner) target) :
    ∃ place, Reaches tree base outer place ∧ Reaches tree place inner target := by
  obtain ⟨links, leads⟩ := reaches
  by_cases innerGiven : inner.text = ""
  · obtain rfl : inner = ⟨""⟩ := congrArg Route.mk innerGiven
    have nothing : Reaches tree target ⟨""⟩ target := ⟨0, .here target⟩
    rw [Leads, start_join base given rfl] at leads
    rcases steps_join_empty given with same | stays
    · rw [same] at leads
      exact ⟨target, ⟨links, leads⟩, nothing⟩
    · rw [stays, follows_append_iff] at leads
      obtain ⟨place, first, second, -, toPlace, onward⟩ := leads
      obtain rfl := onward.stay.unique (.here place)
      exact ⟨_, ⟨first, toPlace⟩, nothing⟩
  · obtain ⟨place, first, second, -, toPlace, onward⟩ :=
      (leads_join_iff given innerGiven relative).mp leads
    exact ⟨place, ⟨first, toPlace⟩, second, onward⟩

end FileTree

end LifecycleHooks
