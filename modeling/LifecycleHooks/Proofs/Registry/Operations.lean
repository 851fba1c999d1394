import Mathlib.Algebra.GroupWithZero.Nat
import Mathlib.Data.List.Basic
import Mathlib.Data.List.Nodup
import LifecycleHooks.Registry.Basic

/-!
What can be done with a registry, operation by operation: which instances an event type has
afterwards, and that instances and handles keep belonging together by their numbers.
-/

namespace LifecycleHooks.Registry

/-- What owners of a registry and holders of its handles do. Handles go by the order in which they
were issued, from zero. -/
inductive Operation
  | register (event : EventType) (hook : Hook)
  | dispose (handle : Nat)
  | clear (event : EventType)
  | replaceAll (map : HookMap)
  deriving DecidableEq

namespace Operation

def made : Operation → Nat
  | register _ _ => 1
  | replaceAll map => (map.lists.map fun entry => entry.2.length).sum
  | _ => 0

def issued : Operation → Nat
  | register _ _ => 1
  | _ => 0

/-- Whether the earlier hooks of an event type are gone after an operation, whatever they were. -/
def resets (event : EventType) : Operation → Bool
  | clear cleared => cleared == event
  | replaceAll _ => true
  | _ => false

end Operation

structure Ledger where
  registry : Registry
  handles : List Instance

namespace Ledger

def empty : Ledger := ⟨Registry.empty, []⟩

def apply (ledger : Ledger) : Operation → Ledger
  | .register event hook =>
      let (handle, registry) := ledger.registry.register event hook
      ⟨registry, ledger.handles ++ [handle]⟩
  | .dispose handle =>
      match ledger.handles[handle]? with
      | some entry => { ledger with registry := ledger.registry.dispose entry }
      | none => ledger
  | .clear event => { ledger with registry := ledger.registry.clear event }
  | .replaceAll map => { ledger with registry := ledger.registry.replaceAll map }

def after (history : List Operation) : Ledger := history.foldl apply empty

end Ledger

/-! Instances that take the place of all others. -/

/-- How many hooks stand in front of those of an event type. -/
def ahead (event : EventType) : List (EventType × List Hook) → Nat
  | [] => 0
  | (e, hooks) :: rest => if e = event then 0 else hooks.length + ahead event rest

/-- The given hooks of an event type in their order, as new instances with numbers from `first`
on. -/
def fresh (event : EventType) (first : Nat) (map : HookMap) : List Instance :=
  ((map.get event).zipIdx (first + ahead event map.lists)).map fun entry =>
    ⟨entry.2, event, entry.1⟩

theorem number_append (first : Nat) (front back : List (EventType × Hook)) :
    number first (front ++ back) = number first front ++ number (first + front.length) back := by
  induction front generalizing first with
  | nil => rfl
  | cons pair rest ih =>
      simp only [List.cons_append, number, ih, List.length_cons]
      rw [Nat.add_assoc, Nat.add_comm 1]

theorem number_map (first : Nat) (event : EventType) (hooks : List Hook) :
    number first (hooks.map fun hook => (event, hook)) =
      (hooks.zipIdx first).map fun entry => ⟨entry.2, event, entry.1⟩ := by
  induction hooks generalizing first with
  | nil => rfl
  | cons hook hooks ih => simp [number, ih]

theorem map_id_number (first : Nat) (hooks : List (EventType × Hook)) :
    (number first hooks).map Instance.id = List.range' first hooks.length := by
  induction hooks generalizing first with
  | nil => rfl
  | cons pair rest ih => simp [number, ih, List.range'_succ]

theorem bounds_of_mem_number {first : Nat} {hooks : List (EventType × Hook)} {entry : Instance}
    (member : entry ∈ number first hooks) : first ≤ entry.id ∧ entry.id < first + hooks.length := by
  have numbered := List.mem_map_of_mem (f := Instance.id) member
  rwa [map_id_number, List.mem_range'_1] at numbered

theorem event_of_mem_number {first : Nat} {hooks : List (EventType × Hook)} {entry : Instance}
    (member : entry ∈ number first hooks) : ∃ pair ∈ hooks, entry.event = pair.1 := by
  induction hooks generalizing first with
  | nil => simp [number] at member
  | cons pair rest ih =>
      rcases List.mem_cons.mp member with same | later
      · exact ⟨pair, List.mem_cons_self, by rw [same]⟩
      · obtain ⟨other, otherMember, same⟩ := ih later
        exact ⟨other, List.mem_cons_of_mem _ otherMember, same⟩

theorem length_pairs (map : HookMap) :
    (pairs map).length = (map.lists.map fun entry => entry.2.length).sum := by
  simp [pairs, List.length_flatMap]

theorem filter_number_of_all {event : EventType} (first : Nat) {hooks : List (EventType × Hook)}
    (all : ∀ pair ∈ hooks, pair.1 = event) :
    (number first hooks).filter (fun entry => entry.event == event) = number first hooks := by
  rw [List.filter_eq_self]
  intro entry member
  obtain ⟨pair, pairMember, same⟩ := event_of_mem_number member
  simp [same, all pair pairMember]

theorem filter_number_of_none {event : EventType} (first : Nat) {hooks : List (EventType × Hook)}
    (noneOf : ∀ pair ∈ hooks, pair.1 ≠ event) :
    (number first hooks).filter (fun entry => entry.event == event) = [] := by
  rw [List.filter_eq_nil_iff]
  intro entry member
  obtain ⟨pair, pairMember, same⟩ := event_of_mem_number member
  simp [same, noneOf pair pairMember]

theorem filter_number_pairs (event : EventType) (first : Nat)
    (lists : List (EventType × List Hook))
    (sorted : lists.Pairwise fun a b => a.1.index < b.1.index) :
    (number first (lists.flatMap fun entry => entry.2.map fun hook => (entry.1, hook))).filter
        (fun entry => entry.event == event) =
      ((HookMap.find event lists).zipIdx (first + ahead event lists)).map fun entry =>
        ⟨entry.2, event, entry.1⟩ := by
  induction lists generalizing first with
  | nil => rfl
  | cons head rest ih =>
      obtain ⟨e, hooks⟩ := head
      obtain ⟨below, restSorted⟩ := List.pairwise_cons.mp sorted
      rw [List.flatMap_cons, number_append, List.filter_append, List.length_map, HookMap.find,
        ahead]
      by_cases same : e = event
      · subst e
        -- The lists are sorted, so the event type has no other list behind this one.
        have apart : ∀ pair ∈ rest.flatMap fun entry => entry.2.map fun hook => (entry.1, hook),
            pair.1 ≠ event := by
          intro pair member equal
          simp only [List.mem_flatMap, List.mem_map] at member
          obtain ⟨list, listMember, hook, _, rfl⟩ := member
          have behind := below list listMember
          rw [equal] at behind
          exact Nat.lt_irrefl _ behind
        rw [filter_number_of_all _ (by simp), filter_number_of_none _ apart, number_map,
          if_pos rfl, if_pos rfl, List.append_nil, Nat.add_zero]
      · rw [filter_number_of_none _ (by simpa using fun _ _ => same), ih _ restSorted,
          if_neg same, if_neg same, List.nil_append, Nat.add_assoc]

/-! What each operation leaves for an event type. -/

theorem listInstances_register (registry : Registry) (event registered : EventType) (hook : Hook) :
    (registry.register registered hook).2.listInstances event =
      registry.listInstances event ++
        if registered = event then [⟨registry.nextId, registered, hook⟩] else [] := by
  simp only [register, listInstances, List.filter_append]
  by_cases same : registered = event
  · simp [same]
  · simp [same]

theorem listInstances_dispose (registry : Registry) (event : EventType) (handle : Instance) :
    (registry.dispose handle).listInstances event =
      (registry.listInstances event).filter fun entry => entry.id != handle.id := by
  simp only [dispose, listInstances, List.filter_filter, Bool.and_comm]

theorem listInstances_clear (registry : Registry) (event cleared : EventType) :
    (registry.clear cleared).listInstances event =
      if cleared = event then [] else registry.listInstances event := by
  simp only [clear, listInstances, List.filter_filter]
  split
  · rename_i same
    simp [same]
  · rename_i different
    apply List.filter_congr
    intro entry _
    by_cases listed : entry.event = event
    · simp [listed, Ne.symm different]
    · simp [listed]

theorem listInstances_replaceAll (registry : Registry) (event : EventType) (map : HookMap) :
    (registry.replaceAll map).listInstances event = fresh event registry.nextId map :=
  filter_number_pairs event registry.nextId map.lists map.sorted

theorem nextId_apply (ledger : Ledger) (operation : Operation) :
    (ledger.apply operation).registry.nextId = ledger.registry.nextId + operation.made := by
  cases operation with
  | register event hook => rfl
  | dispose handle =>
      simp only [Ledger.apply, Operation.made]
      split <;> rfl
  | clear event => rfl
  | replaceAll map => exact congrArg _ (length_pairs map)

theorem length_handles_apply (ledger : Ledger) (operation : Operation) :
    (ledger.apply operation).handles.length = ledger.handles.length + operation.issued := by
  cases operation with
  | register event hook => simp [Ledger.apply, Operation.issued]
  | dispose handle =>
      simp only [Ledger.apply, Operation.issued]
      split <;> rfl
  | clear event => rfl
  | replaceAll map => rfl

/-! Numbers tell instances apart. -/

/-- No two instances have the same number, no number was given out yet that is still to come, and an
instance with the number of a handle is the one that the handle was issued for. -/
structure Ledger.Sound (ledger : Ledger) : Prop where
  distinct : (ledger.registry.instances.map Instance.id).Nodup
  entryBelow : ∀ entry ∈ ledger.registry.instances, entry.id < ledger.registry.nextId
  handleBelow : ∀ handle ∈ ledger.handles, handle.id < ledger.registry.nextId
  matching : ∀ handle ∈ ledger.handles, ∀ entry ∈ ledger.registry.instances,
    entry.id = handle.id → entry = handle

theorem Ledger.sound_empty : Ledger.empty.Sound where
  distinct := List.nodup_nil
  entryBelow _ member := absurd member List.not_mem_nil
  handleBelow _ member := absurd member List.not_mem_nil
  matching _ member := absurd member List.not_mem_nil

theorem Ledger.Sound.filter {ledger : Ledger} (sound : ledger.Sound) (keep : Instance → Bool) :
    Ledger.Sound ⟨⟨ledger.registry.nextId, ledger.registry.instances.filter keep⟩,
      ledger.handles⟩ where
  distinct := sound.distinct.sublist (List.filter_sublist.map Instance.id)
  entryBelow entry member := sound.entryBelow entry (List.mem_of_mem_filter member)
  handleBelow := sound.handleBelow
  matching handle issued entry member :=
    sound.matching handle issued entry (List.mem_of_mem_filter member)

theorem Ledger.Sound.register {ledger : Ledger} (sound : ledger.Sound) (event : EventType)
    (hook : Hook) : (ledger.apply (.register event hook)).Sound where
  distinct := by
    simp only [Ledger.apply, Registry.register, List.map_append, List.map_cons, List.map_nil]
    rw [List.nodup_append]
    refine ⟨sound.distinct, List.nodup_singleton _, ?_⟩
    intro id member other otherMember
    obtain ⟨entry, entryMember, rfl⟩ := List.mem_map.mp member
    obtain rfl := List.mem_singleton.mp otherMember
    exact Nat.ne_of_lt (sound.entryBelow entry entryMember)
  entryBelow := by
    intro entry member
    simp only [Ledger.apply, Registry.register, List.mem_append, List.mem_singleton] at member ⊢
    rcases member with old | rfl
    · exact Nat.lt_succ_of_lt (sound.entryBelow entry old)
    · exact Nat.lt_succ_self _
  handleBelow := by
    intro handle member
    simp only [Ledger.apply, Registry.register, List.mem_append, List.mem_singleton] at member ⊢
    rcases member with old | rfl
    · exact Nat.lt_succ_of_lt (sound.handleBelow handle old)
    · exact Nat.lt_succ_self _
  matching := by
    intro handle issued entry member same
    simp only [Ledger.apply, Registry.register, List.mem_append, List.mem_singleton]
      at issued member
    rcases issued with issued | rfl <;> rcases member with member | rfl
    · exact sound.matching handle issued entry member same
    · exact absurd same.symm (Nat.ne_of_lt (sound.handleBelow handle issued))
    · exact absurd same (Nat.ne_of_lt (sound.entryBelow entry member))
    · rfl

theorem Ledger.Sound.replaceAll {ledger : Ledger} (sound : ledger.Sound) (map : HookMap) :
    (ledger.apply (.replaceAll map)).Sound := by
  constructor
  · change ((number ledger.registry.nextId (pairs map)).map Instance.id).Nodup
    rw [map_id_number]
    exact List.nodup_range'
  · exact fun entry member => (bounds_of_mem_number member).2
  · exact fun handle issued =>
      Nat.lt_of_lt_of_le (sound.handleBelow handle issued) (Nat.le_add_right _ _)
  · intro handle issued entry member same
    have older := sound.handleBelow handle issued
    have newer := (bounds_of_mem_number member).1
    omega

theorem Ledger.Sound.apply {ledger : Ledger} (sound : ledger.Sound) (operation : Operation) :
    (ledger.apply operation).Sound := by
  cases operation with
  | register event hook => exact sound.register event hook
  | dispose handle =>
      simp only [Ledger.apply]
      split
      · exact sound.filter _
      · exact sound
  | clear event => exact sound.filter _
  | replaceAll map => exact sound.replaceAll map

theorem Ledger.Sound.foldl {ledger : Ledger} (sound : ledger.Sound) (history : List Operation) :
    (history.foldl Ledger.apply ledger).Sound := by
  induction history generalizing ledger with
  | nil => exact sound
  | cons operation later ih => exact ih (sound.apply operation)

theorem Ledger.sound_after (history : List Operation) : (Ledger.after history).Sound :=
  Ledger.sound_empty.foldl history

end LifecycleHooks.Registry
