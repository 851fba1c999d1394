import LifecycleHooks.Engine.Basic

/-!
Programs over an engine with a scripted runner: a table says how each program ends and what is done
while it runs. Subscribers write notes and do things of their own.
-/

namespace LifecycleHooks.Engine

inductive Ending
  | exit (output : Output)
  | timeout
  | cancelled
  | launch (number : Int)
  | wait (number : Int)

mutual

inductive Action
  | register (event : EventType) (name : String) (hook : Hook)
  | dispose (name : String)
  | clear (event : EventType)
  | list (event : EventType)
  | has (event : EventType)
  | requiresAwait (event : EventType)
  | cancel
  | subscribe (name : String) (actions : List Action)
  | onReload (name : String) (actions : List Action)
  | unsubscribe (name : String)
  | setSettings (settings : String → Option Json)
  | setReader (readText : Path → Except ReadError String)
  | setOutcomes (table : List (String × Scripted))

/-- A scripted program: what is done while it runs, whether it gives way to a cancellation, how it
ends and how long it takes. -/
inductive Scripted
  | mk (during : List During) (givesWay : Bool) (ending : Ending) (elapsedMicros : Nat)

inductive During
  | cancel
  | reload
  | act (action : Action)

end

structure Listener where
  name : String
  actions : List Action

inductive Note
  | execution (name : String) (execution : Execution)
  | reload (name : String) (summary : Summary)

inductive Subscription
  | executions (id : Nat)
  | reloads (id : Nat)

inductive Refusal
  | noHandle
  | noSubscription
  deriving DecidableEq

def Refusal.message : Refusal → String
  | noHandle => "no such handle"
  | noSubscription => "no such subscription"

/-- What a program keeps: where hooks are loaded from, the outcomes, its handles and subscriptions by
name, whether the execution in progress was cancelled and can be from outside, and what was noted
and run so far. A runner call that failed is marked. -/
structure Desk where
  sources : Sources
  outcomes : List (String × Scripted)
  handles : List (String × Instance)
  subscriptions : List (String × Subscription)
  cancelled : Bool
  cancellable : Bool
  notes : List Note
  calls : List (Invocation × Bool)

abbrev Machine := State Listener Desk

inductive Answer
  | nothing
  | hooks (hooks : List Hook)
  | flag (value : Bool)

namespace Machine

def start (sources : Sources) (outcomes : List (String × Scripted)) : Machine :=
  ⟨Registry.empty, Bus.empty, Bus.empty, [], ⟨sources, outcomes, [], [], false, false, [], []⟩⟩

def lookup {α : Type} (name : String) (entries : List (String × α)) : Option α :=
  (entries.find? fun entry => entry.1 == name).map Prod.snd

def note (machine : Machine) (entry : Note) : Machine :=
  machine.edit fun desk => { desk with notes := desk.notes ++ [entry] }

def cancelOwn (machine : Machine) : Machine :=
  machine.edit fun desk => { desk with cancelled := true }

/-- Cancels the execution in progress if it was given a way to be cancelled. -/
def cancelShared (machine : Machine) : Machine :=
  if machine.rest.cancellable then machine.cancelOwn else machine

def act (machine : Machine) : Action → Except Refusal Answer × Machine
  | .register event name hook =>
      let (handle, registry) := machine.registry.register event hook
      (.ok .nothing, { machine with registry := registry }.edit fun desk =>
        { desk with handles := (name, handle) :: desk.handles })
  | .dispose name =>
      match lookup name machine.rest.handles with
      | some handle =>
          (.ok .nothing, { machine with registry := machine.registry.dispose handle })
      | none => (.error .noHandle, machine)
  | .clear event => (.ok .nothing, { machine with registry := machine.registry.clear event })
  | .list event => (.ok (.hooks (machine.registry.list event)), machine)
  | .has event => (.ok (.flag (machine.registry.has event)), machine)
  | .requiresAwait event => (.ok (.flag (machine.requiresAwait event)), machine)
  | .cancel => (.ok .nothing, machine.cancelShared)
  | .subscribe name actions =>
      let (id, bus) := machine.executions.subscribe ⟨name, actions⟩
      (.ok .nothing, { machine with executions := bus }.edit fun desk =>
        { desk with subscriptions := (name, .executions id) :: desk.subscriptions })
  | .onReload name actions =>
      let (id, bus) := machine.reloads.subscribe ⟨name, actions⟩
      (.ok .nothing, { machine with reloads := bus }.edit fun desk =>
        { desk with subscriptions := (name, .reloads id) :: desk.subscriptions })
  | .unsubscribe name =>
      match lookup name machine.rest.subscriptions with
      | some (.executions id) =>
          (.ok .nothing, { machine with executions := machine.executions.unsubscribe id })
      | some (.reloads id) =>
          (.ok .nothing, { machine with reloads := machine.reloads.unsubscribe id })
      | none => (.error .noSubscription, machine)
  | .setSettings settings =>
      (.ok .nothing, machine.edit fun desk =>
        { desk with sources := { desk.sources with settings := settings } })
  | .setReader readText =>
      (.ok .nothing, machine.edit fun desk =>
        { desk with sources := { desk.sources with readText := readText } })
  | .setOutcomes table => (.ok .nothing, machine.edit fun desk => { desk with outcomes := table })

def actAll (machine : Machine) (actions : List Action) : Machine :=
  actions.foldl (fun machine action => (machine.act action).2) machine

def notifyReload (listener : Listener) (summary : Summary) (machine : Machine) : Machine :=
  (machine.note (.reload listener.name summary)).actAll listener.actions

def notifyExecution (listener : Listener) (execution : Execution) (machine : Machine) : Machine :=
  (machine.note (.execution listener.name execution)).actAll listener.actions

def reload (machine : Machine) : Summary × Machine :=
  Engine.reload machine.rest.sources notifyReload machine

def during (machine : Machine) : During → Machine
  | .cancel => machine.cancelOwn
  | .reload => machine.reload.2
  | .act action => (machine.act action).2

def key : Program → String
  | .script path => path.text
  | .command command _ => command

def silent : Scripted := .mk [] false (.exit ⟨0, "", ""⟩) 0

def ending (invocation : Invocation) : Ending → Except RunFailure Output
  | .exit output => .ok output
  | .timeout => .error (.timeout invocation.timeout)
  | .cancelled => .error .cancelled
  | .launch number => .error (.launch (key invocation.program) (.number number))
  | .wait number => .error (.wait (.number number))

def run (invocation : Invocation) (machine : Machine) : Outcome × Machine :=
  match (lookup (key invocation.program) machine.rest.outcomes).getD silent with
  | .mk actions givesWay end' elapsed =>
      let machine := actions.foldl during machine
      let ending : Except RunFailure Output :=
        if givesWay ∧ machine.rest.cancelled then .error .cancelled else ending invocation end'
      let failed := match ending with
        | .ok _ => false
        | .error _ => true
      (⟨ending, elapsed⟩,
        machine.edit fun desk => { desk with calls := desk.calls ++ [(invocation, failed)] })

def host : Host Listener Desk where
  run := run
  isCancelled := fun machine => machine.rest.cancelled
  notify := notifyExecution

/-- Executes the hooks of an event; `cancelled` says whether the execution is cancelled before it
begins, and `cancellable` whether it can be from outside. -/
def execute (machine : Machine) (event : EventType) (context : Context)
    (cancelled cancellable : Bool) : Except Mismatch (List Result) × Machine :=
  let machine := machine.edit fun desk =>
    { desk with cancelled := cancelled && cancellable, cancellable := cancellable }
  Engine.execute host event context machine

def fresh (machine : Machine) : Machine :=
  { machine with warnings := [] }.edit fun desk => { desk with notes := [], calls := [] }

end Machine

end LifecycleHooks.Engine
