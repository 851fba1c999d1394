import LifecycleHooks.Proofs.Engine.Turns

/-!
Many executions on one engine, step by step. An execution takes its snapshot when it is begun; then
it runs one hook at a time and tells the subscribers of each. Between two steps of one execution
come those of others, and whatever else is done to the engine. Alone, the steps of an execution come
to what it does in one go.
-/

namespace LifecycleHooks.Engine

variable {Callback Rest : Type}

def executionOf (context : Context) (run : Hook × Result) : Execution :=
  ⟨context.eventType, run.1, run.2, context⟩

def runs (calls : List (Call Callback)) : List Invocation :=
  calls.filterMap fun
    | .run invocation _ => some invocation
    | .notify _ _ => none

/-- An execution that was begun: the hooks it has still to run, those it ran and told of, the one it
ran and has still to tell of, and what it called the runner with. -/
structure Progress where
  context : Context
  waiting : List Hook
  told : List (Hook × Result)
  untold : Option (Hook × Result)
  invocations : List Invocation
  refusal : Option Mismatch

namespace Progress

def start (event : EventType) (context : Context) (registry : Registry) : Progress :=
  if context.eventType = event then ⟨context, registry.list event, [], none, [], none⟩
  else ⟨context, [], [], none, [], some ⟨event, context.eventType⟩⟩

def Finished (progress : Progress) : Prop := progress.waiting = [] ∧ progress.untold = none

def ran (progress : Progress) : List (Hook × Result) := progress.told ++ progress.untold.toList

def results (progress : Progress) : List Result := progress.ran.map Prod.snd

def answer (progress : Progress) : Except Mismatch (List Result) :=
  match progress.refusal with
  | some mismatch => .error mismatch
  | none => .ok progress.results

def run (host : Host Callback Rest) (state : State Callback Rest) (progress : Progress) :
    Progress × State Callback Rest :=
  match progress.untold, progress.waiting with
  | none, hook :: waiting =>
      if host.isCancelled state then ({ progress with waiting := [] }, state)
      else
        let (result, logged) := launch host.logging progress.context hook (state.logged [])
        ({ progress with
            waiting := waiting
            untold := some (hook, result)
            invocations := progress.invocations ++ runs logged.calls }, logged.plain)
  | _, _ => (progress, state)

def tell (hook : Hook) (result : Result) (progress : Progress) : Progress :=
  { progress with
    waiting := if aborts hook result then [] else progress.waiting
    told := progress.told ++ [(hook, result)]
    untold := none }

/-- An execution after it ran a hook and told of it. -/
def turned (hook : Hook) (result : Result) (waiting : List Hook) (progress : Progress) :
    Progress :=
  { progress with
    waiting := if aborts hook result then [] else waiting
    told := progress.told ++ [(hook, result)]
    untold := none
    invocations := progress.invocations ++ [Invocation.ofHook hook progress.context] }

end Progress

structure Told where
  call : Nat
  subscriber : Nat
  execution : Execution

/-- An engine, the executions that were begun, by their numbers, and what subscribers were told. -/
structure System (Callback Rest : Type) where
  state : State Callback Rest
  calls : List Progress
  told : List Told

inductive Change (Callback : Type)
  | register (event : EventType) (hook : Hook)
  | dispose (handle : Instance)
  | clear (event : EventType)
  | reload (sources : Sources)
  | subscribe (callback : Callback)
  | unsubscribe (id : Nat)

abbrev Reloading (Callback Rest : Type) :=
  Callback → Summary → State Callback Rest → State Callback Rest

def Change.apply (reloading : Reloading Callback Rest) (state : State Callback Rest) :
    Change Callback → State Callback Rest
  | .register event hook => { state with registry := (state.registry.register event hook).2 }
  | .dispose handle => { state with registry := state.registry.dispose handle }
  | .clear event => { state with registry := state.registry.clear event }
  | .reload sources => (Engine.reload sources reloading state).2
  | .subscribe callback => { state with executions := (state.executions.subscribe callback).2 }
  | .unsubscribe id => { state with executions := state.executions.unsubscribe id }

/-- One step of an execution, or what somebody else does. -/
inductive Step (Callback : Type)
  | begin (event : EventType) (context : Context)
  | run (call : Nat)
  | tell (call : Nat)
  | change (change : Change Callback)

def announceAll (host : Host Callback Rest) (call : Nat) (execution : Execution)
    (state : State Callback Rest) (told : List Told) : State Callback Rest × List Told :=
  state.executions.publish (fun id callback (state, told) =>
    (host.notify callback execution state, told ++ [⟨call, id, execution⟩])) (state, told)

namespace System

def start (state : State Callback Rest) : System Callback Rest := ⟨state, [], []⟩

def run (host : Host Callback Rest) (call : Nat) (system : System Callback Rest) :
    System Callback Rest :=
  match system.calls[call]? with
  | none => system
  | some progress =>
      let (progress, state) := progress.run host system.state
      { system with state := state, calls := system.calls.set call progress }

def tell (host : Host Callback Rest) (call : Nat) (system : System Callback Rest) :
    System Callback Rest :=
  match system.calls[call]? with
  | none => system
  | some progress =>
      match progress.untold with
      | none => system
      | some (hook, result) =>
          let (state, told) := announceAll host call (executionOf progress.context (hook, result))
            system.state system.told
          ⟨state, system.calls.set call (progress.tell hook result), told⟩

def advance (host : Host Callback Rest) (reloading : Reloading Callback Rest)
    (system : System Callback Rest) : Step Callback → System Callback Rest
  | .begin event context =>
      { system with
        calls := system.calls ++ [Progress.start event context system.state.registry] }
  | .run call => system.run host call
  | .tell call => system.tell host call
  | .change change => { system with state := change.apply reloading system.state }

def after (host : Host Callback Rest) (reloading : Reloading Callback Rest)
    (system : System Callback Rest) (steps : List (Step Callback)) : System Callback Rest :=
  steps.foldl (advance host reloading) system

end System

/-- What a subscriber was told, each event with the execution that told it. -/
def stream (id : Nat) (told : List Told) : List (Nat × Execution) :=
  (told.filter fun entry => entry.subscriber == id).map fun entry => (entry.call, entry.execution)

def ofCall (call : Nat) (stream : List (Nat × Execution)) : List Execution :=
  (stream.filter fun entry => entry.1 == call).map Prod.snd

/-! Steps of an execution. -/

theorem announceAll_eq (host : Host Callback Rest) (call : Nat) (context : Context) (hook : Hook)
    (result : Result) (state : State Callback Rest) (told : List Told) :
    announceAll host call (executionOf context (hook, result)) state told =
      (announce host context hook result state,
        told ++ state.executions.ids.map
          fun id => ⟨call, id, executionOf context (hook, result)⟩) := by
  have folded : ∀ (subscribers : List (Nat × Callback)) (state : State Callback Rest)
      (told : List Told),
      subscribers.foldl (fun (so : State Callback Rest × List Told) subscriber =>
          (host.notify subscriber.2 (executionOf context (hook, result)) so.1,
            so.2 ++ [⟨call, subscriber.1, executionOf context (hook, result)⟩])) (state, told) =
        (subscribers.foldl (fun state subscriber =>
            host.notify subscriber.2 (executionOf context (hook, result)) state) state,
          told ++ (subscribers.map Prod.fst).map
            fun id => ⟨call, id, executionOf context (hook, result)⟩) := by
    intro subscribers
    induction subscribers with
    | nil => simp
    | cons subscriber rest ih =>
        intro state told
        rw [List.foldl_cons, ih]
        simp
  exact folded state.executions.subscribers state told

theorem Progress.run_of_stopped (host : Host Callback Rest) {state : State Callback Rest}
    {progress : Progress} (free : progress.untold = none)
    (stopped : progress.waiting = [] ∨ host.isCancelled state = true) :
    progress.run host state = ({ progress with waiting := [] }, state) := by
  obtain ⟨context, waiting, told, untold, invocations, refusal⟩ := progress
  obtain rfl : untold = none := free
  cases waiting with
  | nil => rfl
  | cons hook waiting =>
      obtain noneWaiting | cancelled := stopped
      · contradiction
      · simp only [Progress.run, cancelled, ↓reduceIte]

theorem Progress.context_run (host : Host Callback Rest) (progress : Progress)
    (state : State Callback Rest) :
    (progress.run host state).1.context = progress.context := by
  simp only [Progress.run]
  split
  · split
    · rfl
    · rfl
  · rfl

theorem Progress.told_run (host : Host Callback Rest) (progress : Progress)
    (state : State Callback Rest) :
    (progress.run host state).1.told = progress.told := by
  simp only [Progress.run]
  split
  · split
    · rfl
    · rfl
  · rfl

theorem Progress.run_eq (host : Host Callback Rest) (state : State Callback Rest)
    {progress : Progress} {hook : Hook} {waiting : List Hook} (free : progress.untold = none)
    (next : progress.waiting = hook :: waiting) (calm : host.isCancelled state = false) :
    progress.run host state =
      ({ progress with
          waiting := waiting
          untold := some (hook, (turn host progress.context hook state).result)
          invocations := progress.invocations ++ [Invocation.ofHook hook progress.context] },
        (turn host progress.context hook state).ran) := by
  simp only [Progress.run, free, next, calm, launch_logging]
  rfl

namespace System

variable {host : Host Callback Rest} {system : System Callback Rest} {call : Nat}
  {progress : Progress}

theorem run_of_absent (absent : system.calls[call]? = none) : system.run host call = system := by
  simp only [run, absent]

theorem tell_of_absent (absent : system.calls[call]? = none) :
    system.tell host call = system := by
  simp only [tell, absent]

theorem run_of_found (found : system.calls[call]? = some progress) :
    system.run host call =
      ⟨(progress.run host system.state).2,
        system.calls.set call (progress.run host system.state).1, system.told⟩ := by
  simp only [run, found]

theorem tell_of_free (found : system.calls[call]? = some progress)
    (free : progress.untold = none) : system.tell host call = system := by
  simp only [tell, found, free]

theorem tell_of_untold (found : system.calls[call]? = some progress) {hook : Hook}
    {result : Result} (untold : progress.untold = some (hook, result)) :
    system.tell host call =
      ⟨announce host progress.context hook result system.state,
        system.calls.set call (progress.tell hook result),
        system.told ++ system.state.executions.ids.map
          fun id => ⟨call, id, executionOf progress.context (hook, result)⟩⟩ := by
  simp only [tell, found, untold, announceAll_eq]

theorem getElem?_set_of_found (found : system.calls[call]? = some progress) (next : Progress) :
    (system.calls.set call next)[call]? = some next := by
  obtain ⟨inside, _⟩ := List.getElem?_eq_some_iff.mp found
  exact List.getElem?_set_self inside

/-- The steps of an execution alone, in the order in which it takes them. -/
def ownSteps (call : Nat) : Nat → List (Step Callback)
  | 0 => []
  | count + 1 => .run call :: .tell call :: ownSteps call count

theorem round_of_stopped (found : system.calls[call]? = some progress)
    (free : progress.untold = none)
    (stopped : progress.waiting = [] ∨ host.isCancelled system.state = true) :
    (system.run host call).tell host call =
      { system with calls := system.calls.set call { progress with waiting := [] } } := by
  have ran := getElem?_set_of_found found { progress with waiting := [] }
  rw [run_of_found found, Progress.run_of_stopped host free stopped]
  exact tell_of_free ran free

theorem round_of_next (found : system.calls[call]? = some progress)
    (free : progress.untold = none) {hook : Hook} {waiting : List Hook}
    (next : progress.waiting = hook :: waiting)
    (calm : host.isCancelled system.state = false) :
    let taken := turn host progress.context hook system.state
    (system.run host call).tell host call =
      ⟨taken.after,
        system.calls.set call (progress.turned hook taken.result waiting),
        system.told ++ taken.ran.executions.ids.map
          fun id => ⟨call, id, executionOf progress.context (hook, taken.result)⟩⟩ := by
  intro taken
  rw [run_of_found found, Progress.run_eq host system.state free next calm,
    tell_of_untold (getElem?_set_of_found found _) rfl, List.set_set]
  rfl

theorem runHooks_cons (host : Host Callback Rest) (context : Context) (hook : Hook)
    (hooks : List Hook) (state : State Callback Rest) (calm : host.isCancelled state = false) :
    let taken := turn host context hook state
    let rest := runHooks host context (if aborts hook taken.result then [] else hooks) taken.after
    runHooks host context (hook :: hooks) state = (taken.result :: rest.1, rest.2) := by
  intro taken rest
  by_cases aborting : aborts hook taken.result = true
  · simp [runHooks, calm, launch_eq, announce_eq, aborting, taken, rest]
  · simp [runHooks, calm, launch_eq, announce_eq, aborting, taken, rest]

theorem length_unless_le (stop : Bool) (hooks : List Hook) :
    (if stop then [] else hooks).length ≤ hooks.length := by
  cases stop <;> simp

/-- With steps enough of its own an execution comes to its end; if nobody else takes a step, then as
it does in one go. -/
theorem after_ownSteps (host : Host Callback Rest) (reloading : Reloading Callback Rest)
    (call count : Nat) (system : System Callback Rest) (progress : Progress)
    (found : system.calls[call]? = some progress) (free : progress.untold = none)
    (enough : progress.waiting.length ≤ count) :
    let alone := runHooks host progress.context progress.waiting system.state
    let last := system.after host reloading (ownSteps call count)
    ∃ next, last.calls[call]? = some next ∧ next.Finished ∧ next.refusal = progress.refusal ∧
      next.results = progress.results ++ alone.1 ∧ last.state = alone.2 := by
  induction count generalizing system progress with
  | zero =>
      have noneWaiting : progress.waiting = [] := List.length_eq_zero_iff.mp (Nat.le_zero.mp enough)
      refine ⟨progress, found, ⟨noneWaiting, free⟩, rfl, ?_, ?_⟩
      · rw [noneWaiting, runHooks, List.append_nil]
      · rw [noneWaiting]
        rfl
  | succ count ih =>
      intro alone last
      have steps : last =
          ((system.run host call).tell host call).after host reloading (ownSteps call count) := rfl
      -- Two steps are in vain, or else make up a turn, which leaves the state that the other hooks
      -- are run in.
      by_cases stopped : progress.waiting = [] ∨ host.isCancelled system.state = true
      · have nothing : alone = ([], system.state) := by
          rcases stopped with none | cancelled
          · simp only [alone, none, runHooks]
          · cases waiting : progress.waiting with
            | nil => simp only [alone, waiting, runHooks]
            | cons hook hooks => simp only [alone, waiting, runHooks, cancelled, ↓reduceIte]
        have goesOn := ih
          { system with calls := system.calls.set call { progress with waiting := [] } }
          { progress with waiting := [] } (getElem?_set_of_found found _) free (Nat.zero_le _)
        rw [steps, round_of_stopped found free stopped, nothing]
        exact goesOn
      · obtain ⟨left, calm⟩ := not_or.mp stopped
        obtain ⟨hook, waiting, next⟩ := List.exists_cons_of_ne_nil left
        rw [next, List.length_cons] at enough
        rw [Bool.not_eq_true] at calm
        rw [steps, round_of_next found free next calm]
        obtain ⟨last, ended, finished, same, results, state⟩ := ih ⟨_, _, _⟩
          (progress.turned hook (turn host progress.context hook system.state).result waiting)
          (getElem?_set_of_found found _) rfl
          (Nat.le_trans (length_unless_le _ waiting) (Nat.le_of_succ_le_succ enough))
        have chain : alone = _ :=
          (congrArg (runHooks host progress.context · system.state) next).trans
            (runHooks_cons host progress.context hook waiting system.state calm)
        refine ⟨last, ended, finished, same, ?_, ?_⟩
        · rw [results, chain]
          simp [Progress.results, Progress.ran, Progress.turned, free]
        · rw [state, chain]
          rfl

end System

def reached (host : Host Callback Rest) (reloading : Reloading Callback Rest)
    (state : State Callback Rest) (steps : List (Step Callback)) : System Callback Rest :=
  (System.start state).after host reloading steps

/-- An execution whose steps are the only ones gives and leaves what it does in one go. -/
theorem reached_alone (host : Host Callback Rest) (reloading : Reloading Callback Rest)
    (state : State Callback Rest) (event : EventType) (context : Context) (count : Nat)
    (enough : (state.registry.list event).length ≤ count) :
    let last := reached host reloading state (.begin event context :: System.ownSteps 0 count)
    ∃ progress, last.calls[0]? = some progress ∧ progress.Finished ∧
      (progress.answer, last.state) = execute host event context state := by
  intro last
  by_cases same : context.eventType = event
  · have begun : Progress.start event context state.registry =
        ⟨context, state.registry.list event, [], none, [], none⟩ := if_pos same
    obtain ⟨next, found, finished, refusal, results, left⟩ := System.after_ownSteps host reloading
      0 count ⟨state, [Progress.start event context state.registry], []⟩ _ rfl
      (by rw [begun]) (by rw [begun]; exact enough)
    change last.state = _ at left
    rw [begun] at refusal results left
    refine ⟨next, found, finished, ?_⟩
    rw [execute, if_pos same, Progress.answer, refusal]
    exact Prod.ext (congrArg Except.ok results) left
  · have begun : Progress.start event context state.registry =
        ⟨context, [], [], none, [], some ⟨event, context.eventType⟩⟩ := if_neg same
    obtain ⟨next, found, finished, refusal, _, left⟩ := System.after_ownSteps host reloading
      0 count ⟨state, [Progress.start event context state.registry], []⟩ _ rfl
      (by rw [begun]) (by rw [begun]; exact Nat.zero_le count)
    change last.state = _ at left
    rw [begun] at refusal left
    refine ⟨next, found, finished, ?_⟩
    rw [execute, if_neg same, Progress.answer, refusal]
    exact Prod.ext rfl left

end LifecycleHooks.Engine
