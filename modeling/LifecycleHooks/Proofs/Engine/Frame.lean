import LifecycleHooks.Engine.Program
import LifecycleHooks.Proofs.Engine.Gating

/-!
An execution changes nothing of its own. Whatever runner and subscribers do with the registry and
the subscriptions while it is going on, in whatever order, is all that happens to them.
-/

namespace LifecycleHooks.Engine

variable {Callback Rest : Type}

/-- What can be done with the registry, the subscribers of executions and those of reloads. -/
inductive Deed (Callback : Type)
  | register (event : EventType) (hook : Hook)
  | dispose (handle : Instance)
  | clear (event : EventType)
  | replaceAll (map : HookMap)
  | subscribe (callback : Callback)
  | unsubscribe (id : Nat)
  | onReload (callback : Callback)
  | offReload (id : Nat)

structure Holdings (Callback : Type) where
  registry : Registry
  executions : Bus Callback
  reloads : Bus Callback

namespace Holdings

def perform (holdings : Holdings Callback) : Deed Callback → Holdings Callback
  | .register event hook =>
      { holdings with registry := (holdings.registry.register event hook).2 }
  | .dispose handle => { holdings with registry := holdings.registry.dispose handle }
  | .clear event => { holdings with registry := holdings.registry.clear event }
  | .replaceAll map => { holdings with registry := holdings.registry.replaceAll map }
  | .subscribe callback =>
      { holdings with executions := (holdings.executions.subscribe callback).2 }
  | .unsubscribe id => { holdings with executions := holdings.executions.unsubscribe id }
  | .onReload callback => { holdings with reloads := (holdings.reloads.subscribe callback).2 }
  | .offReload id => { holdings with reloads := holdings.reloads.unsubscribe id }

def performAll (holdings : Holdings Callback) (deeds : List (Deed Callback)) : Holdings Callback :=
  deeds.foldl perform holdings

@[simp] theorem performAll_append (holdings : Holdings Callback) (first rest : List (Deed Callback)) :
    holdings.performAll (first ++ rest) = (holdings.performAll first).performAll rest :=
  List.foldl_append

end Holdings

namespace State

def holdings (state : State Callback Rest) : Holdings Callback :=
  ⟨state.registry, state.executions, state.reloads⟩

def noted (state : State Callback Rest) (deeds : List (Deed Callback)) :
    State Callback (Rest × List (Deed Callback)) :=
  state.withRest (state.rest, deeds)

def unnoted (state : State Callback (Rest × List (Deed Callback))) : State Callback Rest :=
  state.withRest state.rest.1

end State

/-- What the runner and the subscribers of a host do when they are called, one thing after the
other. They keep things of their own besides, but have no other way to the holdings of the engine. -/
structure Conduct (host : Host Callback Rest) where
  ofRun : Invocation → State Callback Rest → List (Deed Callback)
  ofNotify : Callback → Execution → State Callback Rest → List (Deed Callback)
  run : ∀ invocation state, (host.run invocation state).2.holdings =
    state.holdings.performAll (ofRun invocation state)
  notify : ∀ callback execution state, (host.notify callback execution state).holdings =
    state.holdings.performAll (ofNotify callback execution state)

/-- A host that does what another one does and writes down what is done when it is done. -/
def Conduct.recording {host : Host Callback Rest} (conduct : Conduct host) :
    Host Callback (Rest × List (Deed Callback)) where
  run invocation state :=
    let answer := host.run invocation state.unnoted
    (answer.1, answer.2.noted (state.rest.2 ++ conduct.ofRun invocation state.unnoted))
  isCancelled state := host.isCancelled state.unnoted
  notify callback execution state :=
    (host.notify callback execution state.unnoted).noted
      (state.rest.2 ++ conduct.ofNotify callback execution state.unnoted)

/-- The second state is the first one with what was done since some beginning, and doing just that
leads from the holdings at the beginning to those there are now. -/
def Recorded (start : Holdings Callback) (state : State Callback Rest)
    (noted : State Callback (Rest × List (Deed Callback))) : Prop :=
  ∃ deeds, noted = state.noted deeds ∧ state.holdings = start.performAll deeds

variable {host : Host Callback Rest} {start : Holdings Callback} {state : State Callback Rest}
  {noted : State Callback (Rest × List (Deed Callback))}

/-! Both hosts in step. -/

theorem Recorded.registry (recorded : Recorded start state noted) :
    noted.registry = state.registry := by
  obtain ⟨deeds, rfl, -⟩ := recorded
  rfl

theorem Recorded.subscribers (recorded : Recorded start state noted) :
    noted.executions.subscribers = state.executions.subscribers := by
  obtain ⟨deeds, rfl, -⟩ := recorded
  rfl

theorem Recorded.isCancelled (conduct : Conduct host) (recorded : Recorded start state noted) :
    conduct.recording.isCancelled noted = host.isCancelled state := by
  obtain ⟨deeds, rfl, -⟩ := recorded
  rfl

theorem Recorded.warn (recorded : Recorded start state noted) (warning : Warning) :
    Recorded start (state.warn warning) (noted.warn warning) := by
  obtain ⟨deeds, rfl, done⟩ := recorded
  exact ⟨deeds, rfl, done⟩

theorem Recorded.run (conduct : Conduct host) (recorded : Recorded start state noted)
    (invocation : Invocation) :
    (conduct.recording.run invocation noted).1 = (host.run invocation state).1 ∧
      Recorded start (host.run invocation state).2 (conduct.recording.run invocation noted).2 := by
  obtain ⟨deeds, rfl, done⟩ := recorded
  refine ⟨rfl, deeds ++ conduct.ofRun invocation state, rfl, ?_⟩
  rw [conduct.run, done, Holdings.performAll_append]

theorem Recorded.notify (conduct : Conduct host) (recorded : Recorded start state noted)
    (callback : Callback) (execution : Execution) :
    Recorded start (host.notify callback execution state)
      (conduct.recording.notify callback execution noted) := by
  obtain ⟨deeds, rfl, done⟩ := recorded
  refine ⟨deeds ++ conduct.ofNotify callback execution state, rfl, ?_⟩
  rw [conduct.notify, done, Holdings.performAll_append]

theorem Recorded.launch (conduct : Conduct host) (recorded : Recorded start state noted)
    (context : Context) (hook : Hook) :
    (Engine.launch conduct.recording context hook noted).1 =
        (Engine.launch host context hook state).1 ∧
      Recorded start (Engine.launch host context hook state).2
        (Engine.launch conduct.recording context hook noted).2 := by
  obtain ⟨same, ran⟩ := recorded.run conduct (Invocation.ofHook hook context)
  simp only [Engine.launch, same]
  split
  · exact ⟨rfl, ran⟩
  · exact ⟨rfl, ran.warn _⟩

theorem Recorded.announce (conduct : Conduct host) (recorded : Recorded start state noted)
    (context : Context) (hook : Hook) (result : Result) :
    Recorded start (Engine.announce host context hook result state)
      (Engine.announce conduct.recording context hook result noted) := by
  simp only [Engine.announce, Bus.publish, recorded.subscribers]
  -- Who is told is settled; what the subscribers do to the bus plays no part any more.
  generalize state.executions.subscribers = subscribers
  induction subscribers generalizing state noted with
  | nil => exact recorded
  | cons subscriber rest ih => exact ih (recorded.notify conduct subscriber.2 _)

theorem Recorded.runHooks (conduct : Conduct host) (recorded : Recorded start state noted)
    (context : Context) (hooks : List Hook) :
    (Engine.runHooks conduct.recording context hooks noted).1 =
        (Engine.runHooks host context hooks state).1 ∧
      Recorded start (Engine.runHooks host context hooks state).2
        (Engine.runHooks conduct.recording context hooks noted).2 := by
  induction hooks generalizing state noted with
  | nil => exact ⟨rfl, recorded⟩
  | cons hook hooks ih =>
      obtain ⟨same, launched⟩ := recorded.launch conduct context hook
      have told := launched.announce conduct context hook (Engine.launch host context hook state).1
      simp only [Engine.runHooks, recorded.isCancelled conduct, same]
      split
      · exact ⟨rfl, recorded⟩
      · split
        · exact ⟨rfl, told⟩
        · obtain ⟨others, rest⟩ := ih told
          exact ⟨congrArg _ others, rest⟩

theorem Recorded.execute (conduct : Conduct host) (recorded : Recorded start state noted)
    (event : EventType) (context : Context) :
    (Engine.execute conduct.recording event context noted).1 =
        (Engine.execute host event context state).1 ∧
      Recorded start (Engine.execute host event context state).2
        (Engine.execute conduct.recording event context noted).2 := by
  simp only [Engine.execute, recorded.registry]
  split
  · obtain ⟨same, ran⟩ := recorded.runHooks conduct context (state.registry.list event)
    exact ⟨congrArg _ same, ran⟩
  · exact ⟨rfl, recorded⟩

/-- An execution is refused exactly if it is asked for under another event type than that of its
context, and then nobody is called and nothing changes. Otherwise it gives results. In both cases
the registry and the subscribers are what the deeds of those who were called make of them. -/
theorem execute_frame (conduct : Conduct host) (event : EventType) (context : Context)
    (state : State Callback Rest) :
    let run := execute host event context state
    ((∃ mismatch, run.1 = .error mismatch) ↔ context.eventType ≠ event) ∧
    (context.eventType ≠ event → run = (.error ⟨event, context.eventType⟩, state) ∧
      execute host.logging event context (state.logged []) =
        (.error ⟨event, context.eventType⟩, state.logged [])) ∧
    (context.eventType = event → ∃ results, run.1 = .ok results) ∧
    ∃ deeds, execute conduct.recording event context (state.noted []) =
        (run.1, run.2.noted deeds) ∧
      run.2.holdings = state.holdings.performAll deeds := by
  intro run
  refine ⟨?_, ?_, ?_, ?_⟩
  · by_cases matching : context.eventType = event
    · simp [run, execute, matching]
    · simp [run, execute, matching]
  · intro differs
    simp only [run, execute, if_neg differs, and_self]
  · intro matching
    exact ⟨(runHooks host context (state.registry.list event) state).1,
      by simp only [run, execute, if_pos matching]⟩
  · have begun : Recorded state.holdings state (state.noted []) := ⟨[], rfl, rfl⟩
    obtain ⟨same, deeds, noted, done⟩ := begun.execute conduct event context
    exact ⟨deeds, Prod.ext same noted, done⟩

/-! Scripted programs do nothing else either. -/

namespace Machine

def along {Step : Type} (step : Machine → Step → Machine)
    (deeds : Machine → Step → List (Deed Listener)) : Machine → List Step → List (Deed Listener)
  | _, [] => []
  | machine, next :: steps => deeds machine next ++ along step deeds (step machine next) steps

theorem holdings_foldl {Step : Type} {step : Machine → Step → Machine}
    {deeds : Machine → Step → List (Deed Listener)}
    (accounted : ∀ machine next, (step machine next).holdings =
      machine.holdings.performAll (deeds machine next))
    (steps : List Step) (machine : Machine) :
    (steps.foldl step machine).holdings =
      machine.holdings.performAll (along step deeds machine steps) := by
  induction steps generalizing machine with
  | nil => rfl
  | cons next steps ih =>
      rw [List.foldl_cons, ih, accounted, along, Holdings.performAll_append]

def deeds (machine : Machine) : Action → List (Deed Listener)
  | .register event _ hook => [.register event hook]
  | .dispose name => ((lookup name machine.rest.handles).map Deed.dispose).toList
  | .clear event => [.clear event]
  | .subscribe name actions => [.subscribe ⟨name, actions⟩]
  | .onReload name actions => [.onReload ⟨name, actions⟩]
  | .unsubscribe name =>
      match lookup name machine.rest.subscriptions with
      | some (.executions id) => [.unsubscribe id]
      | some (.reloads id) => [.offReload id]
      | none => []
  | _ => []

theorem holdings_act (machine : Machine) (action : Action) :
    (machine.act action).2.holdings = machine.holdings.performAll (machine.deeds action) := by
  cases action with
  | dispose name =>
      simp only [act, deeds]
      cases lookup name machine.rest.handles with
      | none => rfl
      | some handle => rfl
  | unsubscribe name =>
      simp only [act, deeds]
      cases lookup name machine.rest.subscriptions with
      | none => rfl
      | some subscription =>
          cases subscription with
          | executions id => rfl
          | reloads id => rfl
  | cancel =>
      simp only [act, cancelShared]
      split
      · rfl
      · rfl
  | _ => rfl

def deedsOfAll (machine : Machine) (actions : List Action) : List (Deed Listener) :=
  along (fun machine action => (machine.act action).2) deeds machine actions

theorem holdings_actAll (machine : Machine) (actions : List Action) :
    (machine.actAll actions).holdings =
      machine.holdings.performAll (machine.deedsOfAll actions) :=
  holdings_foldl holdings_act actions machine

def deedsOfNote (machine : Machine) (entry : Note) (listener : Listener) : List (Deed Listener) :=
  (machine.note entry).deedsOfAll listener.actions

theorem holdings_notifyReload (summary : Summary) (machine : Machine)
    (subscriber : Nat × Listener) :
    (notifyReload subscriber.2 summary machine).holdings = machine.holdings.performAll
      (machine.deedsOfNote (.reload subscriber.2.name summary) subscriber.2) :=
  holdings_actAll _ _

def deedsOfReload (machine : Machine) : List (Deed Listener) :=
  let (map, warnings) := Loading.load machine.rest.sources
  let summary := Summary.ofMap map
  .replaceAll map :: along (fun machine subscriber => notifyReload subscriber.2 summary machine)
    (fun machine subscriber =>
      machine.deedsOfNote (.reload subscriber.2.name summary) subscriber.2)
    { machine.warnAll warnings with registry := machine.registry.replaceAll map }
    machine.reloads.subscribers

theorem holdings_reload (machine : Machine) :
    machine.reload.2.holdings = machine.holdings.performAll machine.deedsOfReload := by
  simp only [reload, Engine.reload, Bus.publish]
  exact holdings_foldl (holdings_notifyReload _) _ _

def deedsOfDuring (machine : Machine) : During → List (Deed Listener)
  | .cancel => []
  | .reload => machine.deedsOfReload
  | .act action => machine.deeds action

theorem holdings_during (machine : Machine) (step : During) :
    (machine.during step).holdings = machine.holdings.performAll (machine.deedsOfDuring step) := by
  cases step with
  | cancel => rfl
  | reload => exact holdings_reload machine
  | act action => exact holdings_act machine action

def steps (invocation : Invocation) (machine : Machine) : List During :=
  match (lookup (key invocation.program) machine.rest.outcomes).getD silent with
  | .mk actions _ _ _ => actions

theorem holdings_run (invocation : Invocation) (machine : Machine) :
    (machine.run invocation).2.holdings = machine.holdings.performAll
      (along during deedsOfDuring machine (steps invocation machine)) := by
  rw [← holdings_foldl holdings_during, run, steps]
  cases (lookup (key invocation.program) machine.rest.outcomes).getD silent
  rfl

def conduct : Conduct Machine.host where
  ofRun invocation machine := along during deedsOfDuring machine (steps invocation machine)
  ofNotify listener execution machine :=
    deedsOfNote machine (.execution listener.name execution) listener
  run := holdings_run
  notify _ _ _ := holdings_actAll _ _

end Machine

/-- The only hook takes all hooks of its own event away, registers another one and cannot be
launched; the subscriber removes that one and itself. -/
def meddling : Machine :=
  let sources : Sources := ⟨fun _ => none, fun path => .error (.notFound path), none⟩
  let outcomes : List (String × Scripted) :=
    [("lint", .mk [.act (.clear .preCommit), .act (.register .preCommit "b" (plainCommand "build"))]
      false (.launch 2) 0)]
  (Machine.start sources outcomes).actAll
    [.register .preCommit "a" (plainCommand "lint"),
      .subscribe "s" [.dispose "b", .unsubscribe "s"]]

theorem execute_frame_meddling :
    let run := execute Machine.host .preCommit (Context.bare .preCommit) meddling
    (∃ results, run.1 = .ok results) ∧
    run.2.holdings = meddling.holdings.performAll
      [.clear .preCommit, .register .preCommit (plainCommand "build"),
        .dispose ⟨1, .preCommit, plainCommand "build"⟩, .unsubscribe 0] := by
  intro run
  obtain ⟨_, _, succeeds, deeds, noted, done⟩ :=
    execute_frame Machine.conduct .preCommit (Context.bare .preCommit) meddling
  have given : deeds = [.clear .preCommit, .register .preCommit (plainCommand "build"),
      .dispose ⟨1, .preCommit, plainCommand "build"⟩, .unsubscribe 0] :=
    congrArg (fun recorded => recorded.2.rest.2) noted.symm
  rw [given] at done
  exact ⟨succeeds rfl, done⟩

end LifecycleHooks.Engine
