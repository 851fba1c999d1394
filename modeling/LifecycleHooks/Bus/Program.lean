import LifecycleHooks.Bus.Basic

/-!
Programs over a bus, whose callbacks are programs themselves: they subscribe, unsubscribe and publish
while an event is being delivered.
-/

namespace LifecycleHooks.Bus

inductive Step (Event : Type)
  | subscribe (name : String) (actions : List (Option Event × Step Event))
  | unsubscribe (name : String)
  | forget (name : String)
  | publish (event : Event)
  | dropBus
  | count

/-- A step in a callback, taken for every event or for one only. -/
abbrev Action (Event : Type) := Option Event × Step Event

structure Callback (Event : Type) where
  name : String
  actions : List (Action Event)

structure Delivery (Event : Type) where
  call : Nat
  subscriber : Nat
  name : String
  event : Event

inductive Refusal
  | noSubscription
  | dropped
  deriving DecidableEq

def Refusal.message : Refusal → String
  | noSubscription => "no such subscription"
  | dropped => "bus dropped"

structure Host (Event : Type) where
  bus : Option (Bus (Callback Event))
  handles : List (String × Nat)
  calls : Nat
  delivered : List (Delivery Event)

namespace Host

variable {Event : Type}

def start : Host Event := ⟨some Bus.empty, [], 0, []⟩

def handle? (host : Host Event) (name : String) : Option Nat :=
  (host.handles.find? fun entry => entry.1 == name).map Prod.snd

def record (host : Host Event) (delivery : Delivery Event) : Host Event :=
  { host with delivered := host.delivered ++ [delivery] }

def act (publish : Event → Host Event → Host Event) (step : Step Event) (host : Host Event) :
    Except Refusal Unit × Host Event :=
  match step with
  | .subscribe name actions =>
      match host.bus with
      | none => (.error .dropped, host)
      | some bus =>
          let (id, bus) := bus.subscribe ⟨name, actions⟩
          (.ok (), { host with bus := some bus, handles := (name, id) :: host.handles })
  | .unsubscribe name =>
      match host.handle? name with
      | none => (.error .noSubscription, host)
      | some id => (.ok (), { host with bus := host.bus.map (·.unsubscribe id) })
  | .forget name =>
      (.ok (), { host with handles := host.handles.filter fun entry => entry.1 != name })
  | .publish event => (.ok (), publish event host)
  | .dropBus => (.ok (), { host with bus := none })
  | .count => (.ok (), host)

def runActions (equal : Event → Event → Bool) (publish : Event → Host Event → Host Event)
    (event : Event) (actions : List (Action Event)) (host : Host Event) : Host Event :=
  actions.foldl (fun host action =>
    if action.1.all (equal event) then (act publish action.2 host).2 else host) host

/-- Delivers an event to those who are subscribed when the call begins. Calls nested deeper than
`depth` reach nobody. -/
def publish (equal : Event → Event → Bool) : Nat → Event → Host Event → Host Event
  | 0, _, host => host
  | depth + 1, event, host =>
      match host.bus with
      | none => host
      | some bus =>
          let call := host.calls
          bus.publish (fun id callback host =>
            runActions equal (publish equal depth) event callback.actions
              (host.record ⟨call, id, callback.name, event⟩))
            { host with calls := call + 1 }

def depthLimit : Nat := 1000

def step (equal : Event → Event → Bool) (step : Step Event) (host : Host Event) :
    Except Refusal Unit × Host Event :=
  act (publish equal depthLimit) step host

end Host

end LifecycleHooks.Bus
