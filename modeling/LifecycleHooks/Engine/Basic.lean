import LifecycleHooks.Bus.Basic
import LifecycleHooks.Decision
import LifecycleHooks.Invocation
import LifecycleHooks.Loading
import LifecycleHooks.Registry.Basic
import LifecycleHooks.SystemError

/-!
The engine runs the hooks of an event one after the other, tells its subscribers about each of them,
and loads hooks anew. Runner and subscribers may change whatever the engine keeps while they are
called, so all of them are functions on the state of the engine.
-/

namespace LifecycleHooks

inductive RunFailure
  | launch (program : String) (cause : SystemError)
  | timeout (milliseconds : Nat)
  | cancelled
  | wait (cause : SystemError)
  deriving DecidableEq

def RunFailure.message : RunFailure → String
  | launch program cause => "failed to launch '" ++ program ++ "': " ++ cause.message
  | timeout milliseconds => "hook timed out after " ++ toString milliseconds ++ "ms"
  | cancelled => "hook was cancelled"
  | wait cause => "hook wait failed: " ++ cause.message

structure Output where
  exitCode : Int
  stdout : String
  stderr : String
  deriving DecidableEq

structure Outcome where
  ending : Except RunFailure Output
  elapsedMicros : Nat

def Outcome.result (outcome : Outcome) : Result :=
  match outcome.ending with
  | .ok output => .completed output.exitCode output.stdout output.stderr outcome.elapsedMicros
  | .error failure => .failed failure.message outcome.elapsedMicros

namespace Engine

structure Execution where
  eventType : EventType
  hook : Hook
  result : Result
  context : Context

structure Summary where
  hooksPerType : List (EventType × Nat)
  total : Nat
  deriving DecidableEq

def Summary.ofMap (map : HookMap) : Summary :=
  ⟨map.counts, map.counts.foldl (fun total entry => total + entry.2) 0⟩

/-- The execution is asked for under another event type than that of its context. -/
structure Mismatch where
  requested : EventType
  context : EventType
  deriving DecidableEq

def Mismatch.message (mismatch : Mismatch) : String :=
  "context is for " ++ mismatch.context.name ++ " but execution was requested for " ++
    mismatch.requested.name

/-- What the engine keeps, beside what its runner and its subscribers keep for themselves. -/
structure State (Callback Rest : Type) where
  registry : Registry
  executions : Bus Callback
  reloads : Bus Callback
  warnings : List Warning
  rest : Rest

namespace State

variable {Callback Rest : Type}

def warn (state : State Callback Rest) (warning : Warning) : State Callback Rest :=
  { state with warnings := state.warnings ++ [warning] }

def warnAll (state : State Callback Rest) (warnings : List Warning) : State Callback Rest :=
  { state with warnings := state.warnings ++ warnings }

def edit (state : State Callback Rest) (f : Rest → Rest) : State Callback Rest :=
  { state with rest := f state.rest }

def requiresAwait (state : State Callback Rest) (event : EventType) : Bool :=
  (state.registry.list event).any fun hook => !hook.runAsync

end State

structure Host (Callback Rest : Type) where
  /-- Runs one invocation. -/
  run : Invocation → State Callback Rest → Outcome × State Callback Rest
  /-- Whether the execution in progress was cancelled. -/
  isCancelled : State Callback Rest → Bool
  /-- Tells one subscriber about a hook that was run. -/
  notify : Callback → Execution → State Callback Rest → State Callback Rest

variable {Callback Rest : Type}

/-- Loads hooks in the place of those registered and tells the subscribers, who may register others
at once. -/
def reload (sources : Sources) (notify : Callback → Summary → State Callback Rest →
    State Callback Rest) (state : State Callback Rest) : Summary × State Callback Rest :=
  let (map, warnings) := Loading.load sources
  let summary := Summary.ofMap map
  let state := { state.warnAll warnings with registry := state.registry.replaceAll map }
  (summary, state.reloads.publish (fun _ callback state => notify callback summary state) state)

def launch (host : Host Callback Rest) (context : Context) (hook : Hook)
    (state : State Callback Rest) : Result × State Callback Rest :=
  let (outcome, state) := host.run (Invocation.ofHook hook context) state
  let result := outcome.result
  if result.success then (result, state)
  else
    (result, state.warn
      (.failedHook hook.label context.eventType result.exitCode result.stderr))

def announce (host : Host Callback Rest) (context : Context) (hook : Hook) (result : Result)
    (state : State Callback Rest) : State Callback Rest :=
  let execution : Execution := ⟨context.eventType, hook, result, context⟩
  state.executions.publish (fun _ callback state => host.notify callback execution state) state

def aborts (hook : Hook) (result : Result) : Bool := !result.success && hook.abortOnFailure

/-- Runs hooks until none is left, one aborts the chain, or the execution is cancelled. -/
def runHooks (host : Host Callback Rest) (context : Context) :
    List Hook → State Callback Rest → List Result × State Callback Rest
  | [], state => ([], state)
  | hook :: hooks, state =>
      if host.isCancelled state then ([], state)
      else
        let (result, state) := launch host context hook state
        let state := announce host context hook result state
        if aborts hook result then ([result], state)
        else
          let (results, state) := runHooks host context hooks state
          (result :: results, state)

/-- Runs the hooks that are registered for an event when the call begins. -/
def execute (host : Host Callback Rest) (event : EventType) (context : Context)
    (state : State Callback Rest) :
    Except Mismatch (List Result) × State Callback Rest :=
  if context.eventType = event then
    let (results, state) := runHooks host context (state.registry.list event) state
    (.ok results, state)
  else (.error ⟨event, context.eventType⟩, state)

end Engine

end LifecycleHooks
