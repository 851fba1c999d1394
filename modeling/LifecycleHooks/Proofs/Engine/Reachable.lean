import LifecycleHooks.Engine.Program
import LifecycleHooks.Proofs.Registry.Operations

/-!
The states that an engine comes to, those in the middle of an execution included. In all of them the
numbers of instances and handles are those that were given out so far, so a number still to come
belongs to none of them.
-/

namespace LifecycleHooks.Engine.Machine

open Registry (Ledger)

/-- What subscribers of reloads do, given the summary and the hooks that are registered when they
are called. -/
abbrev Behaviour := Listener → Summary → (EventType → List Hook) → List Action

def answering (behave : Behaviour) (listener : Listener) (summary : Summary)
    (machine : Machine) : Machine :=
  (machine.note (.reload listener.name summary)).actAll
    (behave listener summary machine.registry.list)

/-- The subscribers of a program do what is written down for them. -/
theorem notifyReload_eq : notifyReload = answering fun listener _ _ => listener.actions := rfl

inductive Reachable : Machine → Prop
  | start (sources : Sources) (outcomes : List (String × Scripted)) :
      Reachable (start sources outcomes)
  | during {machine : Machine} (step : During) :
      Reachable machine → Reachable (machine.during step)
  | reload {machine : Machine} (sources : Sources) (behave : Behaviour) :
      Reachable machine → Reachable (Engine.reload sources (answering behave) machine).2
  | begin {machine : Machine} (cancelled cancellable : Bool) :
      Reachable machine → Reachable (machine.edit fun desk =>
        { desk with cancelled := cancelled && cancellable, cancellable := cancellable })
  | launch {machine : Machine} (context : Context) (hook : Hook) :
      Reachable machine → Reachable (Engine.launch host context hook machine).2
  | announce {machine : Machine} (context : Context) (hook : Hook) (result : Result) :
      Reachable machine → Reachable (Engine.announce host context hook result machine)
  | fresh {machine : Machine} : Reachable machine → Reachable machine.fresh

theorem Reachable.act {machine : Machine} (reachable : Reachable machine) (action : Action) :
    Reachable (machine.act action).2 :=
  reachable.during (.act action)

theorem Reachable.runHooks {machine : Machine} (reachable : Reachable machine) (context : Context)
    (hooks : List Hook) : Reachable (Engine.runHooks host context hooks machine).2 := by
  induction hooks generalizing machine with
  | nil => exact reachable
  | cons hook hooks ih =>
      have told := (reachable.launch context hook).announce context hook
        (Engine.launch host context hook machine).1
      simp only [Engine.runHooks]
      split
      · exact reachable
      · split
        · exact told
        · exact ih told

/-- An execution leads from one such state to another. -/
theorem Reachable.execute {machine : Machine} (reachable : Reachable machine) (event : EventType)
    (context : Context) (cancelled cancellable : Bool) :
    Reachable (machine.execute event context cancelled cancellable).2 := by
  have begun := reachable.begin cancelled cancellable
  simp only [Machine.execute, Engine.execute]
  split
  · exact begun.runHooks context _
  · exact begun

/-! Numbers. -/

def ledger (machine : Machine) : Ledger :=
  ⟨machine.registry, (machine.rest.handles.map Prod.snd).reverse⟩

def Sound (machine : Machine) : Prop := machine.ledger.Sound

theorem Sound.handle_lt {machine : Machine} (sound : machine.Sound)
    {handle : String × Instance} (member : handle ∈ machine.rest.handles) :
    handle.2.id < machine.registry.nextId :=
  sound.handleBelow handle.2 (List.mem_reverse.mpr (List.mem_map_of_mem member))

theorem Sound.act {machine : Machine} (sound : machine.Sound) (action : Action) :
    (machine.act action).2.Sound := by
  cases action with
  | register event name hook =>
      have registered := Ledger.Sound.register sound event hook
      simpa [Sound, ledger, Machine.act, State.edit, Ledger.apply, Registry.register]
        using registered
  | dispose name =>
      simp only [Machine.act]
      split
      · exact Ledger.Sound.filter sound _
      · exact sound
  | clear event => exact Ledger.Sound.filter sound _
  | cancel =>
      simp only [Machine.act, cancelShared]
      split
      · exact sound
      · exact sound
  | unsubscribe name =>
      simp only [Machine.act]
      split
      · exact sound
      · exact sound
      · exact sound
  | _ => exact sound

theorem Sound.actAll {machine : Machine} (sound : machine.Sound) (actions : List Action) :
    (machine.actAll actions).Sound := by
  induction actions generalizing machine with
  | nil => exact sound
  | cons action actions ih => exact ih (sound.act action)

theorem Sound.answering {machine : Machine} (sound : machine.Sound) (behave : Behaviour)
    (listener : Listener) (summary : Summary) :
    (Machine.answering behave listener summary machine).Sound := by
  have noted : (machine.note (.reload listener.name summary)).Sound := sound
  exact noted.actAll _

theorem Sound.replaceAll {machine : Machine} (sound : machine.Sound) (map : HookMap) :
    Sound { machine with registry := machine.registry.replaceAll map } :=
  Ledger.Sound.replaceAll sound map

theorem Sound.reload {machine : Machine} (sound : machine.Sound) (sources : Sources)
    (behave : Behaviour) : Sound (Engine.reload sources (Machine.answering behave) machine).2 := by
  have loaded : ∀ warnings map,
      Sound { machine.warnAll warnings with registry := machine.registry.replaceAll map } :=
    fun _ map => sound.replaceAll map
  simp only [Engine.reload, Bus.publish]
  refine List.foldlRecOn _ _ (loaded _ _) fun (state : Machine) sound subscriber _ => ?_
  exact sound.answering behave subscriber.2 _

theorem Sound.during {machine : Machine} (sound : machine.Sound) (step : During) :
    (machine.during step).Sound := by
  cases step with
  | cancel => exact sound
  | reload =>
      simp only [Machine.during, Machine.reload, notifyReload_eq]
      exact sound.reload machine.rest.sources _
  | act action => exact sound.act action

theorem Sound.run {machine : Machine} (sound : machine.Sound) (invocation : Invocation) :
    (machine.run invocation).2.Sound := by
  simp only [Machine.run]
  split
  rename_i actions _ _ _ _
  have during : (actions.foldl Machine.during machine).Sound :=
    List.foldlRecOn _ _ sound fun state sound step _ => sound.during step
  exact during

theorem Sound.launch {machine : Machine} (sound : machine.Sound) (context : Context)
    (hook : Hook) : Sound (Engine.launch host context hook machine).2 := by
  have ran := sound.run (Invocation.ofHook hook context)
  simp only [Engine.launch]
  split
  · exact ran
  · exact ran

theorem Sound.announce {machine : Machine} (sound : machine.Sound) (context : Context)
    (hook : Hook) (result : Result) :
    Sound (Engine.announce host context hook result machine) := by
  simp only [Engine.announce, Bus.publish]
  refine List.foldlRecOn _ _ sound fun (state : Machine) sound subscriber _ => ?_
  have noted : (state.note (.execution subscriber.2.name
    ⟨context.eventType, hook, result, context⟩)).Sound := sound
  exact noted.actAll subscriber.2.actions

theorem Reachable.sound {machine : Machine} (reachable : Reachable machine) : machine.Sound := by
  induction reachable with
  | start sources outcomes => exact Ledger.sound_empty
  | during step _ ih => exact ih.during step
  | reload sources behave _ ih => exact ih.reload sources behave
  | begin cancelled cancellable _ ih => exact ih
  | launch context hook _ ih => exact ih.launch context hook
  | announce context hook result _ ih => exact ih.announce context hook result
  | fresh _ ih => exact ih

end LifecycleHooks.Engine.Machine
