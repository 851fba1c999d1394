/-!
Subscribers in the order in which they subscribed. Each has a number that no other one gets, so
removing one by its number never removes another.
-/

namespace LifecycleHooks

/-- Subscribers keep a callback each, which is a value here and is run by whoever publishes. -/
structure Bus (Callback : Type) where
  nextId : Nat
  subscribers : List (Nat × Callback)
  deriving Repr

namespace Bus

variable {Callback : Type}

def empty : Bus Callback := ⟨0, []⟩

def subscribe (bus : Bus Callback) (callback : Callback) : Nat × Bus Callback :=
  (bus.nextId, ⟨bus.nextId + 1, bus.subscribers ++ [(bus.nextId, callback)]⟩)

def unsubscribe (bus : Bus Callback) (id : Nat) : Bus Callback :=
  { bus with subscribers := bus.subscribers.filter fun subscriber => subscriber.1 != id }

def count (bus : Bus Callback) : Nat := bus.subscribers.length

def ids (bus : Bus Callback) : List Nat := bus.subscribers.map Prod.fst

/-- Runs the callbacks of those who are subscribed now, in order; what the callbacks do to the bus
does not change who is reached. -/
def publish {State : Type} (bus : Bus Callback) (run : Nat → Callback → State → State)
    (state : State) : State :=
  bus.subscribers.foldl (fun state subscriber => run subscriber.1 subscriber.2 state) state

theorem ids_subscribe (bus : Bus Callback) (callback : Callback) :
    (bus.subscribe callback).2.ids = bus.ids ++ [bus.nextId] := by
  simp [subscribe, ids]

theorem ids_unsubscribe (bus : Bus Callback) (id : Nat) :
    (bus.unsubscribe id).ids = bus.ids.filter (· != id) := by
  simp only [unsubscribe, ids, List.filter_map]
  rfl

end Bus

end LifecycleHooks
