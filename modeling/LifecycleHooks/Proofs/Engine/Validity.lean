import LifecycleHooks.Proofs.Engine.Concurrent
import LifecycleHooks.Proofs.Engine.Reload
import LifecycleHooks.Proofs.Hook.RoundTrip
import LifecycleHooks.Proofs.Json.Relaxed
import LifecycleHooks.Proofs.Loading

/-!
What the runner is called with. Hooks come into an engine by being registered or by being loaded from
texts, and in both ways only hooks that can be run; so every invocation has a time limit and a program.
-/

namespace LifecycleHooks

theorem eq_ok_of_toOption {ε α : Type} {outcome : Except ε α} {a : α}
    (given : outcome.toOption = some a) : outcome = .ok a := by
  cases outcome with
  | error e => contradiction
  | ok other => exact congrArg Except.ok (Option.some.inj given)

/-- Sources whose settings are what texts say, be it another text for every key. -/
def Sources.FromTexts (sources : Sources) : Prop :=
  ∀ key value, sources.settings key = some value →
    ∃ text settings, Settings.ofText text = .ok settings ∧ settings.get? key = some value

theorem Sources.fromTexts_ofText (text : String) (readText : Path → Except ReadError String)
    (workspace : Option Path) :
    FromTexts ⟨fun key => (Settings.ofText text).toOption.bind (·.get? key), readText, workspace⟩ := by
  intro key value found
  obtain ⟨settings, read, given⟩ := Option.bind_eq_some_iff.mp found
  exact ⟨text, settings, eq_ok_of_toOption read, given⟩

namespace Loading

theorem ofJson_of_declared? {value : Json} {hook : Hook} (found : declared? value = some hook) :
    Hook.ofJson value = .ok hook := by
  obtain ⟨declaration, read, made⟩ := Option.bind_eq_some_iff.mp found
  rw [Hook.ofJson, eq_ok_of_toOption read]
  exact eq_ok_of_toOption made

theorem obtainable_of_mem_filterMap {items : List Json} (wellFormed : ∀ item ∈ items, item.WellFormed) :
    ∀ hook ∈ items.filterMap declared?, hook.Obtainable := by
  intro hook member
  obtain ⟨item, inside, found⟩ := List.mem_filterMap.mp member
  exact .accepted (wellFormed item inside) (ofJson_of_declared? found)

theorem obtainable_of_mem_declared {given : Option Json}
    (wellFormed : ∀ value, given = some value → value.WellFormed) :
    ∀ hook ∈ declared given, hook.Obtainable := by
  cases given with
  | none => exact List.forall_mem_nil _
  | some value =>
      cases value with
      | array items => exact obtainable_of_mem_filterMap (wellFormed _ rfl).of_mem
      | object fields =>
          exact obtainable_of_mem_filterMap (List.forall_mem_singleton.mpr (wellFormed _ rfl))
      | _ => exact List.forall_mem_nil _

theorem wellFormed_inSettings {sources : Sources} (fromTexts : sources.FromTexts)
    {event : EventType} {value : Json} (found : inSettings sources event = some value) :
    value.WellFormed := by
  obtain ⟨text, settings, read, given⟩ := fromTexts _ value found
  exact Settings.wellFormed_get? read given

theorem wellFormed_inWorkspace {sources : Sources} {event : EventType} {value : Json}
    (found : inWorkspace sources event = some value) : value.WellFormed := by
  obtain ⟨hooks, inside, here⟩ := Option.bind_eq_some_iff.mp found
  obtain ⟨workspace, -, inside⟩ := Option.bind_eq_some_iff.mp inside
  obtain ⟨text, -, inside⟩ := Option.bind_eq_some_iff.mp inside
  obtain ⟨document, parsed, inside⟩ := Option.bind_eq_some_iff.mp inside
  have wellFormed : document.WellFormed := Json.wellFormed_parse (eq_ok_of_toOption parsed)
  exact (wellFormed.of_field? inside).of_field? here

theorem obtainable_of_mem_load {sources : Sources} (fromTexts : sources.FromTexts)
    (event : EventType) : ∀ hook ∈ (load sources).1.get event, hook.Obtainable := by
  rw [get_load]
  intro hook member
  rcases List.mem_append.mp member with global | here
  · exact obtainable_of_mem_declared (fun _ => wellFormed_inSettings fromTexts) hook global
  · exact obtainable_of_mem_declared (fun _ => wellFormed_inWorkspace) hook here

end Loading

namespace Registry

/-- Registries that come about by registering hooks, loading hooks, and removing them. -/
inductive Filled : Registry → Prop
  | empty : Filled .empty
  | register {registry : Registry} (before : Filled registry) (event : EventType) {hook : Hook}
      (obtainable : hook.Obtainable) : Filled (registry.register event hook).2
  | dispose {registry : Registry} (before : Filled registry) (handle : Instance) :
      Filled (registry.dispose handle)
  | clear {registry : Registry} (before : Filled registry) (event : EventType) :
      Filled (registry.clear event)
  | load {registry : Registry} (before : Filled registry) {sources : Sources}
      (fromTexts : sources.FromTexts) : Filled (registry.replaceAll (Loading.load sources).1)

theorem Filled.obtainable {registry : Registry} (filled : Filled registry) (event : EventType) :
    ∀ hook ∈ registry.list event, hook.Obtainable := by
  induction filled with
  | empty => exact List.forall_mem_nil _
  | register before registered obtainable ih =>
      rw [list, listInstances_register, List.map_append, List.forall_mem_append]
      refine ⟨ih, ?_⟩
      split
      · exact List.forall_mem_singleton.mpr obtainable
      · exact List.forall_mem_nil _
  | dispose before handle ih =>
      rw [list, listInstances_dispose]
      intro hook member
      exact ih hook ((List.filter_sublist.map Instance.hook).subset member)
  | clear before cleared ih =>
      rw [list, listInstances_clear]
      split
      · exact List.forall_mem_nil _
      · exact ih
  | load before fromTexts ih =>
      rw [Engine.Machine.list_replaceAll]
      exact Loading.obtainable_of_mem_load fromTexts event

end Registry

theorem Path.join_text_ne_empty (base : Path) {path : Path} (given : path.text ≠ "") :
    (base.join path).text ≠ "" := by
  unfold join
  split
  · exact given
  · split <;> simp [given]

namespace Invocation

/-- An invocation that can be run: it has a time limit of 64 bits, and a script or a command. -/
structure Valid (invocation : Invocation) : Prop where
  positive : 1 ≤ invocation.timeout
  fits : invocation.timeout ≤ 2 ^ 64 - 1
  runnable : match invocation.program with
    | .script path => path.text ≠ ""
    | .command command _ => ∃ c ∈ command.toList, Text.isBlank c = false

theorem resolve_text_ne_empty (workspace : Option Path) {path : Path} (given : path.text ≠ "") :
    (resolve workspace path).text ≠ "" := by
  cases workspace with
  | none => exact given
  | some base =>
      simp only [resolve]
      split
      · exact base.join_text_ne_empty given
      · exact given

theorem valid_ofHook {hook : Hook} (sound : hook.Sound) (context : Context) :
    (ofHook hook context).Valid where
  positive := Nat.one_le_iff_ne_zero.mpr sound.positive
  fits := sound.fits
  runnable := by
    have runnable := sound.runnable
    simp only [ofHook]
    cases action : hook.action with
    | script path =>
        rw [action, Hook.Declaration.check_script_eq_ok_iff] at runnable
        exact resolve_text_ne_empty context.workspace runnable
    | command command args =>
        rw [action, Hook.Declaration.check_command_eq_ok_iff] at runnable
        exact runnable

end Invocation

namespace Engine

variable {Callback Rest : Type} {host : Host Callback Rest} {reloading : Reloading Callback Rest}
  {state : State Callback Rest}

/-- What one step of running can come to: nothing, the end of the chain, or the turn of a hook. -/
theorem Progress.run_cases (host : Host Callback Rest) (progress : Progress)
    (state : State Callback Rest) :
    progress.run host state = (progress, state) ∨
    progress.run host state = ({ progress with waiting := [] }, state) ∨
    ∃ hook waiting, progress.waiting = hook :: waiting ∧
      progress.run host state =
        ({ progress with
            waiting := waiting
            untold := some (hook, (turn host progress.context hook state).result)
            invocations := progress.invocations ++ [Invocation.ofHook hook progress.context] },
          (turn host progress.context hook state).ran) := by
  by_cases free : progress.untold = none
  · by_cases stopped : progress.waiting = [] ∨ host.isCancelled state = true
    · exact .inr (.inl (Progress.run_of_stopped host free stopped))
    · obtain ⟨left, calm⟩ := not_or.mp stopped
      obtain ⟨hook, waiting, next⟩ := List.exists_cons_of_ne_nil left
      have ran := Progress.run_eq host state free next (Bool.not_eq_true _ ▸ calm)
      exact .inr (.inr ⟨hook, waiting, next, ran⟩)
  · obtain ⟨run, untold⟩ := Option.ne_none_iff_exists'.mp free
    exact .inl (by simp only [Progress.run, untold])

/-! The hooks of an execution. -/

/-- What an execution has still to run, and what it called the runner with, belongs to given hooks. -/
structure Progress.Within (hooks : List Hook) (context : Context) (progress : Progress) : Prop where
  same : progress.context = context
  waiting : ∀ hook ∈ progress.waiting, hook ∈ hooks
  invocations : ∀ invocation ∈ progress.invocations,
    ∃ hook ∈ hooks, invocation = Invocation.ofHook hook context

variable {hooks : List Hook} {context : Context} {progress : Progress}

theorem Progress.within_start (event : EventType) (context : Context) (registry : Registry) :
    (Progress.start event context registry).Within (registry.list event) context where
  same := Progress.context_start event context registry
  waiting _ member := (Progress.waiting_start_isPrefix event context registry).subset member
  invocations := by
    have notBegun : (Progress.start event context registry).invocations = [] := by
      unfold Progress.start
      split <;> rfl
    rw [notBegun]
    exact List.forall_mem_nil _

theorem Progress.Within.run (within : progress.Within hooks context)
    (state : State Callback Rest) : (progress.run host state).1.Within hooks context := by
  rcases progress.run_cases host state with idle | stopped | ⟨hook, waiting, next, ran⟩
  · rwa [idle]
  · rw [stopped]
    exact { within with waiting := List.forall_mem_nil _ }
  · have inside := within.waiting
    rw [next] at inside
    obtain ⟨here, later⟩ := List.forall_mem_cons.mp inside
    rw [ran]
    refine ⟨within.same, later, ?_⟩
    rw [List.forall_mem_append]
    refine ⟨within.invocations, List.forall_mem_singleton.mpr ⟨hook, here, ?_⟩⟩
    rw [within.same]

theorem Progress.Within.tell (within : progress.Within hooks context) (hook : Hook)
    (result : Result) : (progress.tell hook result).Within hooks context where
  same := within.same
  waiting := by
    simp only [Progress.tell]
    split
    · exact List.forall_mem_nil _
    · exact within.waiting
  invocations := within.invocations

theorem within_after {system : System Callback Rest} {call : Nat} (steps : List (Step Callback))
    (found : system.calls[call]? = some progress) (within : progress.Within hooks context) :
    ∃ next, (system.after host reloading steps).calls[call]? = some next ∧
      next.Within hooks context := by
  induction steps generalizing system progress with
  | nil => exact ⟨progress, found, within⟩
  | cons step steps ih =>
      obtain ⟨next, news, foundNext, -, moves⟩ := moves_advance host reloading step found
      refine ih foundNext ?_
      cases moves with
      | rests => exact within
      | runs state => exact within.run state
      | tells hook result => exact within.tell hook result

theorem exists_begun {steps : List (Step Callback)}
    (member : progress ∈ (reached host reloading state steps).calls) {invocation : Invocation}
    (called : invocation ∈ progress.invocations) :
    ∃ before event, before ++ [.begin event progress.context] <+: steps ∧
      ∃ hook ∈ (reached host reloading state before).state.registry.list event,
        invocation = Invocation.ofHook hook progress.context := by
  obtain ⟨call, below, found⟩ := List.mem_iff_getElem.mp member
  obtain ⟨before, event, context, ⟨later, rfl⟩, rfl⟩ :=
    begun_of_lt reloading state steps call below
  obtain ⟨next, foundNext, within⟩ := within_after later
    (getElem?_begin host reloading state before event context)
    (Progress.within_start event context (reached host reloading state before).state.registry)
  rw [← reached_append] at foundNext
  obtain rfl : progress = next :=
    Option.some.inj ((List.getElem?_eq_some_iff.mpr ⟨below, found⟩).symm.trans foundNext)
  obtain ⟨hook, registered, same⟩ := within.invocations invocation called
  rw [within.same]
  exact ⟨before, event, List.prefix_append _ _, hook, registered, same⟩

theorem exists_registered {event : EventType} {invocation : Invocation}
    (called : invocation ∈ runs (execute host.logging event context (state.logged [])).2.calls) :
    ∃ hook ∈ state.registry.list event, invocation = Invocation.ofHook hook context := by
  unfold execute at called
  split at called
  · simp only [runHooks_logging, State.calls_logged, List.nil_append, runs_flatMap_calls] at called
    obtain ⟨turn, took, rfl⟩ := List.mem_map.mp called
    have member := List.mem_map_of_mem (f := Turn.hook) ((taken_isPrefix host _).subset took)
    rw [map_hook_turns] at member
    exact ⟨turn.hook, member, rfl⟩
  · contradiction

/-! The registry of an engine. -/

/-- A runner and subscribers that do nothing with the registry but register hooks, load them, and
remove them. -/
structure Proper (host : Host Callback Rest) (reloading : Reloading Callback Rest) : Prop where
  run : ∀ invocation state, state.registry.Filled → (host.run invocation state).2.registry.Filled
  notify : ∀ callback execution state, state.registry.Filled →
    (host.notify callback execution state).registry.Filled
  reloading : ∀ callback summary state, state.registry.Filled →
    (reloading callback summary state).registry.Filled

/-- A step that registers a hook registers one that was made or accepted, and one that reloads reads
texts. -/
def Step.Permitted : Step Callback → Prop
  | .change (.register _ hook) => hook.Obtainable
  | .change (.reload sources) => sources.FromTexts
  | _ => True

theorem filled_publish {bus : Bus Callback}
    {tell : Nat → Callback → State Callback Rest → State Callback Rest}
    (keeps : ∀ id callback state, state.registry.Filled → (tell id callback state).registry.Filled)
    (filled : state.registry.Filled) : (bus.publish tell state).registry.Filled := by
  rw [Bus.publish]
  induction bus.subscribers generalizing state with
  | nil => exact filled
  | cons subscriber rest ih => exact ih (keeps subscriber.1 subscriber.2 state filled)

theorem filled_reload (proper : Proper host reloading) (filled : state.registry.Filled)
    {sources : Sources} (fromTexts : sources.FromTexts) :
    (Engine.reload sources reloading state).2.registry.Filled := by
  have loaded : (state.registry.replaceAll (Loading.load sources).1).Filled := filled.load fromTexts
  simp only [Engine.reload]
  exact filled_publish (fun _ callback => proper.reloading callback _) loaded

theorem filled_run (proper : Proper host reloading) (filled : state.registry.Filled) :
    (progress.run host state).2.registry.Filled := by
  rcases progress.run_cases host state with idle | stopped | ⟨hook, waiting, -, ran⟩
  · rwa [idle]
  · rwa [stopped]
  · have answered := proper.run (Invocation.ofHook hook progress.context) state filled
    rw [ran]
    simp only [turn]
    split
    · exact answered
    · exact answered

theorem filled_announce (proper : Proper host reloading) (filled : state.registry.Filled)
    (context : Context) (hook : Hook) (result : Result) :
    (announce host context hook result state).registry.Filled := by
  simp only [announce]
  exact filled_publish (fun _ callback => proper.notify callback _) filled

theorem filled_advance (proper : Proper host reloading) {system : System Callback Rest}
    (filled : system.state.registry.Filled) {step : Step Callback} (permitted : step.Permitted) :
    (system.advance host reloading step).state.registry.Filled := by
  cases step with
  | begin event context => exact filled
  | run call =>
      rw [System.advance]
      cases found : system.calls[call]? with
      | none =>
          rw [System.run_of_absent found]
          exact filled
      | some progress =>
          rw [System.run_of_found found]
          exact filled_run proper filled
  | tell call =>
      rw [System.advance]
      cases found : system.calls[call]? with
      | none =>
          rw [System.tell_of_absent found]
          exact filled
      | some progress =>
          cases untold : progress.untold with
          | none =>
              rw [System.tell_of_free found untold]
              exact filled
          | some run =>
              rw [System.tell_of_untold found untold]
              exact filled_announce proper filled progress.context run.1 run.2
  | change change =>
      cases change with
      | register event hook => exact filled.register event permitted
      | dispose handle => exact filled.dispose handle
      | clear event => exact filled.clear event
      | reload sources => exact filled_reload proper filled permitted
      | subscribe callback => exact filled
      | unsubscribe id => exact filled

theorem filled_reached (proper : Proper host reloading) (filled : state.registry.Filled)
    {steps : List (Step Callback)} (permitted : ∀ step ∈ steps, step.Permitted) :
    (reached host reloading state steps).state.registry.Filled := by
  induction steps using List.reverseRecOn with
  | nil => exact filled
  | append_singleton steps step ih =>
      obtain ⟨earlier, last⟩ := List.forall_mem_append.mp permitted
      rw [reached_append]
      exact filled_advance proper (ih earlier) (List.forall_mem_singleton.mp last)

/-- However hooks are registered, loaded, removed and executed, the runner is called with valid
invocations only. Each of them is that of a hook that was registered when its execution was begun, and
has its time limit. The same holds of an execution in one go, whatever was done before it. -/
theorem invocations_valid (host : Host Callback Rest) (reloading : Reloading Callback Rest)
    (proper : Proper host reloading) (state : State Callback Rest) (filled : state.registry.Filled)
    (steps : List (Step Callback)) (permitted : ∀ step ∈ steps, step.Permitted) :
    let system := reached host reloading state steps
    (∀ progress ∈ system.calls, ∀ invocation ∈ progress.invocations, invocation.Valid ∧
      ∃ before event, before ++ [.begin event progress.context] <+: steps ∧
        ∃ hook ∈ (reached host reloading state before).state.registry.list event,
          invocation = Invocation.ofHook hook progress.context ∧
          invocation.timeout = hook.timeout) ∧
    ∀ event context, ∀ invocation ∈
        runs (execute host.logging event context (system.state.logged [])).2.calls,
      invocation.Valid ∧ ∃ hook ∈ system.state.registry.list event,
        invocation = Invocation.ofHook hook context ∧ invocation.timeout = hook.timeout := by
  intro system
  constructor
  · intro progress member invocation called
    obtain ⟨before, event, begun, hook, registered, rfl⟩ := exists_begun member called
    have earlier : ∀ step ∈ before, step.Permitted := fun step inside =>
      permitted step (begun.subset (List.mem_append_left _ inside))
    have obtainable := (filled_reached proper filled earlier).obtainable event hook registered
    exact ⟨Invocation.valid_ofHook obtainable.sound progress.context, before, event, begun, hook,
      registered, rfl, rfl⟩
  · intro event context invocation called
    obtain ⟨hook, registered, rfl⟩ := exists_registered called
    have obtainable := (filled_reached proper filled permitted).obtainable event hook registered
    exact ⟨Invocation.valid_ofHook obtainable.sound context, hook, registered, rfl, rfl⟩

/-- A hook is registered and executed, then others are loaded in its place and executed as well. -/
theorem invocations_valid_reloaded :
    let host := steadyHost lintFails
    let reloading : Reloading Unit Unit := fun _ _ state => state
    let state := stateOf .preCommit [] ()
    let context := Context.bare .preCommit
    let sources : Sources :=
      ⟨fun key =>
          (Settings.ofText "\x7b hooks: \x7b preCommit: \x7b command: 'build' \x7d \x7d \x7d").toOption.bind
            (·.get? key),
        fun path => .error (.notFound path), none⟩
    let steps : List (Step Unit) :=
      [.change (.register .preCommit (plainCommand "lint")), .begin .preCommit context, .run 0,
        .tell 0, .change (.reload sources), .begin .preCommit context, .run 1, .tell 1]
    Proper host reloading ∧ state.registry.Filled ∧ (∀ step ∈ steps, step.Permitted) ∧
    (reached host reloading state (steps.take 3)).calls.map Progress.invocations =
      [[Invocation.ofHook (plainCommand "lint") context]] ∧
    ∀ progress ∈ (reached host reloading state steps).calls,
      ∀ invocation ∈ progress.invocations, invocation.Valid := by
  intro host reloading state context sources steps
  have proper : Proper host reloading :=
    ⟨fun _ _ filled => filled, fun _ _ _ filled => filled, fun _ _ _ filled => filled⟩
  have filled : state.registry.Filled := .empty
  have made : Hook.command "lint" [] = .ok (plainCommand "lint") := rfl
  have permitted : ∀ step ∈ steps, step.Permitted := by
    simp only [steps, List.forall_mem_cons]
    exact ⟨.command made, trivial, trivial, trivial, Sources.fromTexts_ofText _ _ _, trivial, trivial,
      trivial, List.forall_mem_nil _⟩
  refine ⟨proper, filled, permitted, rfl, ?_⟩
  intro progress member invocation called
  exact ((invocations_valid host reloading proper state filled steps permitted).1 progress member
    invocation called).1

end Engine

end LifecycleHooks
