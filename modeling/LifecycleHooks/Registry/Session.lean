import LifecycleHooks.Registry.Basic

/-!
A registry shared between owners. It lives as long as an owner is left; handles do not keep it
alive, and disposing one afterwards does nothing. Handles and snapshots are kept by name.
-/

namespace LifecycleHooks.Registry

/-- The owner at work may have let go of the registry while clones of it are still kept. -/
structure Session where
  registry : Registry
  held : Bool
  clones : Nat
  handles : List (String × Instance)
  snapshots : List (String × List Instance)

inductive Refusal
  | noHandle
  | noSnapshot
  | dropped
  deriving DecidableEq

def Refusal.message : Refusal → String
  | noHandle => "no such handle"
  | noSnapshot => "no such snapshot"
  | dropped => "registry dropped"

namespace Session

def start : Session := ⟨Registry.empty, true, 0, [], []⟩

def lookup {α : Type} (name : String) (entries : List (String × α)) : Option α :=
  (entries.find? fun entry => entry.1 == name).map Prod.snd

def held? (session : Session) : Except Refusal Registry :=
  if session.held then .ok session.registry else .error .dropped

/-- Whether anybody owns the registry. -/
def alive (session : Session) : Bool := session.held || session.clones != 0

def visible (session : Session) : List Instance :=
  if session.held then session.registry.instances else []

def handle (session : Session) (name : String) : Except Refusal Instance :=
  match lookup name session.handles with
  | some handle => .ok handle
  | none => .error .noHandle

def snapshot (session : Session) (name : String) : Except Refusal (List Instance) :=
  match lookup name session.snapshots with
  | some entries => .ok entries
  | none => .error .noSnapshot

def register (session : Session) (name : String) (event : EventType) (hook : Hook) :
    Instance × Session :=
  let (handle, registry) := session.registry.register event hook
  (handle, { session with registry := registry, handles := (name, handle) :: session.handles })

def dispose (session : Session) (handle : Instance) : Session :=
  if session.alive then { session with registry := session.registry.dispose handle } else session

def forget (session : Session) (name : String) : Session :=
  { session with handles := session.handles.filter fun entry => entry.1 != name }

def keepSnapshot (session : Session) (name : String) (event : EventType) : Session :=
  { session with
    snapshots := (name, session.registry.listInstances event) :: session.snapshots }

def change (session : Session) (f : Registry → Registry) : Session :=
  { session with registry := f session.registry }

def clone (session : Session) : Session := { session with clones := session.clones + 1 }

def drop (session : Session) : Session := { session with held := false }

/-- Goes on with the clone taken last; without one nothing is held. -/
def useClone (session : Session) : Session :=
  { session with held := session.clones != 0, clones := session.clones - 1 }

end Session

end LifecycleHooks.Registry
