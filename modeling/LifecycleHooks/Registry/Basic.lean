import LifecycleHooks.HookMap

/-!
Registered hooks. Every registration is an instance of its own with a number that is never used
again, so equal hooks are told apart and a handle that outlived its instance removes nothing.
-/

namespace LifecycleHooks

structure Instance where
  id : Nat
  event : EventType
  hook : Hook
  deriving DecidableEq

structure Registry where
  nextId : Nat
  instances : List Instance
  deriving DecidableEq

namespace Registry

def empty : Registry := ⟨0, []⟩

def listInstances (registry : Registry) (event : EventType) : List Instance :=
  registry.instances.filter fun entry => entry.event == event

def list (registry : Registry) (event : EventType) : List Hook :=
  (registry.listInstances event).map Instance.hook

def count (registry : Registry) (event : EventType) : Nat := (registry.list event).length

def has (registry : Registry) (event : EventType) : Bool := !(registry.list event).isEmpty

/-- Adds a hook behind the others of its event type; the instance is the handle to remove it by. -/
def register (registry : Registry) (event : EventType) (hook : Hook) : Instance × Registry :=
  let entry : Instance := ⟨registry.nextId, event, hook⟩
  (entry, ⟨registry.nextId + 1, registry.instances ++ [entry]⟩)

/-- Removes the instance of a handle; nothing happens if it is gone already. -/
def dispose (registry : Registry) (handle : Instance) : Registry :=
  { registry with instances := registry.instances.filter fun entry => entry.id != handle.id }

def clear (registry : Registry) (event : EventType) : Registry :=
  { registry with instances := registry.instances.filter fun entry => entry.event != event }

def number (first : Nat) : List (EventType × Hook) → List Instance
  | [] => []
  | (event, hook) :: rest => ⟨first, event, hook⟩ :: number (first + 1) rest

def pairs (map : HookMap) : List (EventType × Hook) :=
  map.lists.flatMap fun entry => entry.2.map fun hook => (entry.1, hook)

/-- Takes fresh instances of the given hooks in the place of all there are. -/
def replaceAll (registry : Registry) (map : HookMap) : Registry :=
  let fresh := pairs map
  ⟨registry.nextId + fresh.length, number registry.nextId fresh⟩

def counts (registry : Registry) : List (EventType × Nat) :=
  (EventType.all.map fun event => (event, registry.count event)).filter fun entry => entry.2 != 0

end Registry

end LifecycleHooks
