import Mathlib.Data.List.Basic
import LifecycleHooks.HookMap

/-!
What operations on lists of hooks by event type do to the list of each of them. No event type has
two lists, so an event type has one in a map without empty lists exactly if it has hooks.
-/

namespace LifecycleHooks.HookMap

theorem find_eq_nil {event : EventType} {lists : List (EventType × List Hook)}
    (absent : ∀ entry ∈ lists, entry.1 ≠ event) : find event lists = [] := by
  induction lists with
  | nil => rfl
  | cons first rest ih =>
      rw [find, if_neg (absent first List.mem_cons_self)]
      exact ih fun entry member => absent entry (List.mem_cons_of_mem _ member)

theorem ne_of_mem_sorted {first : EventType × List Hook} {rest : List (EventType × List Hook)}
    (below : ∀ entry ∈ rest, first.1.index < entry.1.index) :
    ∀ entry ∈ rest, entry.1 ≠ first.1 := by
  intro entry member same
  have smaller := below entry member
  rw [same] at smaller
  exact Nat.lt_irrefl _ smaller

theorem find_extendLists (event extended : EventType) (more : List Hook)
    {lists : List (EventType × List Hook)}
    (sorted : lists.Pairwise fun a b => a.1.index < b.1.index) :
    find event (extendLists extended more lists) =
      find event lists ++ if extended = event then more else [] := by
  induction lists with
  | nil => simp [extendLists, find]
  | cons first rest ih =>
      obtain ⟨below, restSorted⟩ := List.pairwise_cons.mp sorted
      simp only [extendLists]
      split
      · rename_i same
        subst same
        by_cases here : first.1 = event
        · simp [find, here]
        · simp [find, here]
      · rename_i different
        split
        · rename_i smaller
          by_cases here : extended = event
          · -- The other lists are those of later event types.
            have absent : ∀ entry ∈ first :: rest, entry.1 ≠ event := by
              intro entry member same
              have later : extended.index < entry.1.index := by
                rcases List.mem_cons.mp member with rfl | behind
                · exact smaller
                · exact Nat.lt_trans smaller (below entry behind)
              rw [here, same] at later
              exact Nat.lt_irrefl _ later
            rw [find_eq_nil absent]
            simp [find, here]
          · simp [find, here]
        · by_cases here : first.1 = event
          · have other : extended ≠ event := fun same => different (here.trans same.symm)
            simp [find, here, other]
          · simp [find, here, ih restSorted]

@[simp] theorem get_empty (event : EventType) : empty.get event = [] := rfl

theorem get_extend (map : HookMap) (event extended : EventType) (more : List Hook) :
    (map.extend extended more).get event =
      map.get event ++ if extended = event then more else [] :=
  find_extendLists event extended more map.sorted

theorem get_foldl_extend (event : EventType) {lists : List (EventType × List Hook)}
    (sorted : lists.Pairwise fun a b => a.1.index < b.1.index) (map : HookMap) :
    (lists.foldl (fun result entry => result.extend entry.1 entry.2) map).get event =
      map.get event ++ find event lists := by
  induction lists generalizing map with
  | nil => simp [find]
  | cons first rest ih =>
      obtain ⟨below, restSorted⟩ := List.pairwise_cons.mp sorted
      rw [List.foldl_cons, ih restSorted, get_extend, find]
      split
      · rename_i same
        rw [find_eq_nil (same ▸ ne_of_mem_sorted below), List.append_nil]
      · rw [List.append_nil]

theorem get_extendAll (map more : HookMap) (event : EventType) :
    (map.extendAll more).get event = map.get event ++ more.get event :=
  get_foldl_extend event more.sorted map

/-! Maps without empty lists. -/

theorem find_dropEmpty (event : EventType) {lists : List (EventType × List Hook)}
    (sorted : lists.Pairwise fun a b => a.1.index < b.1.index) :
    find event (lists.filter fun entry => !entry.2.isEmpty) = find event lists := by
  induction lists with
  | nil => rfl
  | cons first rest ih =>
      obtain ⟨below, restSorted⟩ := List.pairwise_cons.mp sorted
      rw [List.filter_cons]
      split
      · rw [find, find, ih restSorted]
      · rename_i dropped
        rw [ih restSorted, find]
        split
        · rename_i same
          rw [find_eq_nil (same ▸ ne_of_mem_sorted below)]
          simpa using dropped
        · rfl

theorem get_dropEmpty (map : HookMap) (event : EventType) :
    map.dropEmpty.get event = map.get event :=
  find_dropEmpty event map.sorted

theorem find_of_mem {lists : List (EventType × List Hook)}
    (sorted : lists.Pairwise fun a b => a.1.index < b.1.index) {entry : EventType × List Hook}
    (member : entry ∈ lists) : find entry.1 lists = entry.2 := by
  induction lists with
  | nil => exact absurd member List.not_mem_nil
  | cons first rest ih =>
      obtain ⟨below, restSorted⟩ := List.pairwise_cons.mp sorted
      rcases List.mem_cons.mp member with rfl | behind
      · rw [find, if_pos rfl]
      · rw [find, if_neg (ne_of_mem_sorted below entry behind).symm, ih restSorted behind]

theorem mem_of_find_ne_nil {event : EventType} {lists : List (EventType × List Hook)}
    (nonempty : find event lists ≠ []) : (event, find event lists) ∈ lists := by
  induction lists with
  | nil => simp [find] at nonempty
  | cons first rest ih =>
      rw [find] at nonempty ⊢
      split
      · rename_i same
        exact same ▸ List.mem_cons_self
      · rename_i different
        rw [if_neg different] at nonempty
        exact List.mem_cons_of_mem _ (ih nonempty)

theorem mem_dropEmpty_iff (map : HookMap) (event : EventType) (hooks : List Hook) :
    (event, hooks) ∈ map.dropEmpty.lists ↔ map.get event = hooks ∧ hooks ≠ [] := by
  constructor
  · intro member
    obtain ⟨inside, nonempty⟩ := List.mem_filter.mp member
    exact ⟨find_of_mem map.sorted inside, by simpa using nonempty⟩
  · rintro ⟨rfl, nonempty⟩
    exact List.mem_filter.mpr ⟨mem_of_find_ne_nil nonempty, by simpa using nonempty⟩

theorem mem_keys_dropEmpty_iff (map : HookMap) (event : EventType) :
    event ∈ map.dropEmpty.keys ↔ map.get event ≠ [] := by
  simp [keys, mem_dropEmpty_iff]

/-! Counts. -/

theorem nodup_map_fst_counts (map : HookMap) : (map.counts.map Prod.fst).Nodup := by
  rw [counts, List.map_map, List.Nodup, List.pairwise_map]
  exact map.sorted.imp fun below same => Nat.ne_of_lt below (congrArg EventType.index same)

theorem mem_counts_dropEmpty_iff (map : HookMap) (event : EventType) (count : Nat) :
    (event, count) ∈ map.dropEmpty.counts ↔
      count = (map.dropEmpty.get event).length ∧ count ≠ 0 := by
  rw [get_dropEmpty]
  constructor
  · intro member
    obtain ⟨⟨other, hooks⟩, inside, same⟩ := List.mem_map.mp member
    obtain ⟨rfl, rfl⟩ := Prod.mk.inj same
    obtain ⟨own, nonempty⟩ := (mem_dropEmpty_iff map other hooks).mp inside
    exact ⟨by rw [own], fun zero => nonempty (List.length_eq_zero_iff.mp zero)⟩
  · rintro ⟨rfl, nonzero⟩
    refine List.mem_map.mpr ⟨(event, map.get event), ?_, rfl⟩
    refine (mem_dropEmpty_iff map event _).mpr ⟨rfl, ?_⟩
    exact fun empty => nonzero (List.length_eq_zero_iff.mpr empty)

end LifecycleHooks.HookMap
