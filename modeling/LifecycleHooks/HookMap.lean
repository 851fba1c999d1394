import LifecycleHooks.EventType
import LifecycleHooks.Hook.Declaration

/-!
Lists of hooks by event type, in the order in which event types are listed. No event type occurs
twice.
-/

namespace LifecycleHooks

structure HookMap where
  lists : List (EventType × List Hook)
  sorted : lists.Pairwise fun a b => a.1.index < b.1.index
  deriving DecidableEq

namespace HookMap

def empty : HookMap := ⟨[], .nil⟩

def find (event : EventType) : List (EventType × List Hook) → List Hook
  | [] => []
  | (e, hooks) :: rest => if e = event then hooks else find event rest

def get (map : HookMap) (event : EventType) : List Hook := find event map.lists

def keys (map : HookMap) : List EventType := map.lists.map Prod.fst

def extendLists (event : EventType) (more : List Hook) :
    List (EventType × List Hook) → List (EventType × List Hook)
  | [] => [(event, more)]
  | (e, hooks) :: rest =>
      if e = event then (e, hooks ++ more) :: rest
      else if event.index < e.index then (event, more) :: (e, hooks) :: rest
      else (e, hooks) :: extendLists event more rest

theorem mem_extendLists {event : EventType} {more : List Hook} {entry : EventType × List Hook}
    {lists : List (EventType × List Hook)} (found : entry ∈ extendLists event more lists) :
    entry.1 = event ∨ ∃ old ∈ lists, entry.1 = old.1 := by
  induction lists with
  | nil => exact Or.inl (congrArg Prod.fst (List.mem_singleton.mp found))
  | cons first rest ih =>
      simp only [extendLists] at found
      split at found
      · rename_i same
        rcases List.mem_cons.mp found with rfl | later
        · exact Or.inl same
        · exact Or.inr ⟨entry, List.mem_cons_of_mem _ later, rfl⟩
      · split at found
        · rcases List.mem_cons.mp found with rfl | later
          · exact Or.inl rfl
          · exact Or.inr ⟨entry, later, rfl⟩
        · rcases List.mem_cons.mp found with rfl | later
          · exact Or.inr ⟨_, List.mem_cons_self, rfl⟩
          · rcases ih later with same | ⟨old, member, same⟩
            · exact Or.inl same
            · exact Or.inr ⟨old, List.mem_cons_of_mem _ member, same⟩

theorem sorted_extendLists {event : EventType} {more : List Hook}
    {lists : List (EventType × List Hook)}
    (sorted : lists.Pairwise fun a b => a.1.index < b.1.index) :
    (extendLists event more lists).Pairwise fun a b => a.1.index < b.1.index := by
  induction lists with
  | nil => simp [extendLists]
  | cons first rest ih =>
      obtain ⟨below, restSorted⟩ := List.pairwise_cons.mp sorted
      simp only [extendLists]
      split
      · exact List.pairwise_cons.mpr ⟨below, restSorted⟩
      · rename_i different
        split
        · rename_i smaller
          refine List.pairwise_cons.mpr ⟨?_, sorted⟩
          intro entry member
          rcases List.mem_cons.mp member with same | later
          · simpa [same] using smaller
          · exact Nat.lt_trans smaller (below entry later)
        · rename_i notSmaller
          refine List.pairwise_cons.mpr ⟨?_, ih restSorted⟩
          intro entry member
          rcases mem_extendLists member with same | ⟨old, oldMember, same⟩
          · have distinct : first.1.index ≠ event.index :=
              fun equal => different (EventType.index_injective equal)
            simp only [same]
            omega
          · simpa [same] using below old oldMember

def extend (map : HookMap) (event : EventType) (more : List Hook) : HookMap :=
  ⟨extendLists event more map.lists, sorted_extendLists map.sorted⟩

def extendAll (map more : HookMap) : HookMap :=
  more.lists.foldl (fun result entry => result.extend entry.1 entry.2) map

def dropEmpty (map : HookMap) : HookMap :=
  ⟨map.lists.filter fun entry => !entry.2.isEmpty, map.sorted.filter _⟩

def counts (map : HookMap) : List (EventType × Nat) :=
  map.lists.map fun entry => (entry.1, entry.2.length)

end HookMap

end LifecycleHooks
