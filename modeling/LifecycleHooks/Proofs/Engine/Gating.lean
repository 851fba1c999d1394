import LifecycleHooks.Engine.Program
import LifecycleHooks.Proofs.Decision
import LifecycleHooks.Proofs.Engine.Turns

/-!
What the decision on an execution depends on. The flags that let a hook end the chain never change
it. For a gating event it lets the action go on only if every hook that was run succeeded, and a
hook that was not run was kept from it by a cancellation.
-/

namespace LifecycleHooks.Engine

variable {Callback Rest : Type}

/-! Why an execution stops. -/

theorem before_getElem? (host : Host Callback Rest) (context : Context) (hooks : List Hook)
    (state : State Callback Rest) (count : Nat) (next : Turn Callback Rest)
    (found : (turns host context hooks state)[count]? = some next) :
    next.before = left state ((turns host context hooks state).take count) := by
  induction hooks generalizing state count with
  | nil => simp [turns] at found
  | cons hook hooks ih =>
      cases count with
      | zero =>
          obtain rfl : turn host context hook state = next := by simpa [turns] using found
          rfl
      | succ count => exact ih _ count (by simpa [turns] using found)

/-- Unless every turn is taken, the last one that is taken failed and asked for the end, or the
execution was cancelled when the next one was due. -/
theorem taken_cases (host : Host Callback Rest) (all : List (Turn Callback Rest)) :
    taken host all = all ∨
    (∃ turn ∈ taken host all, turn.result.success = false) ∨
    (∃ next, all[(taken host all).length]? = some next ∧ host.isCancelled next.before = true) := by
  rcases (isLeast_length_taken host all).1 with
    complete | cancelled | ⟨turn, last, behind, found, failed, _⟩
  · exact Or.inl ((taken_isPrefix host all).eq_of_length complete)
  · exact Or.inr (Or.inr cancelled)
  · refine Or.inr (Or.inl ⟨turn, ?_, failed⟩)
    have inside : (taken host all)[last]? = some turn := by
      rw [taken_eq_take, List.getElem?_take, if_pos (by omega)]
      exact found
    exact List.mem_of_getElem? inside

/-! Hooks that end the same way whenever they are run. -/

/-- The result of a hook whose ending depends on its invocation alone. -/
def answered (ending : Invocation → Except RunFailure Output) (context : Context) (hook : Hook) :
    Result :=
  (Outcome.mk (ending (Invocation.ofHook hook context)) 0).result

theorem untimed_result (outcome : Outcome) :
    outcome.result.untimed = (Outcome.mk outcome.ending 0).result := by
  obtain ⟨ending, elapsed⟩ := outcome
  cases ending <;> simp [Outcome.result, Result.completed, Result.failed, Result.untimed]

theorem map_untimed_turns (host : Host Callback Rest)
    (ending : Invocation → Except RunFailure Output)
    (answers : ∀ invocation state, (host.run invocation state).1.ending = ending invocation)
    (context : Context) (hooks : List Hook) (state : State Callback Rest) :
    (turns host context hooks state).map (fun turn => turn.result.untimed) =
      hooks.map (answered ending context) := by
  induction hooks generalizing state with
  | nil => rfl
  | cons hook hooks ih =>
      simp only [turns, List.map_cons, ih, List.cons.injEq, and_true]
      rw [Turn.result, untimed_result]
      simp only [turn, answers, answered]

theorem ofResults_execute (host : Host Callback Rest)
    (ending : Invocation → Except RunFailure Output)
    (answers : ∀ invocation state, (host.run invocation state).1.ending = ending invocation)
    (context : Context) (state : State Callback Rest)
    (calm : host.isCancelled (execute host context.eventType context state).2 = false) :
    ∃ results, (execute host context.eventType context state).1 = .ok results ∧
      Decision.ofResults context.eventType results =
        Decision.ofResults context.eventType
          ((state.registry.list context.eventType).map (answered ending context)) := by
  let all := turns host context (state.registry.list context.eventType) state
  rw [execute_eq] at calm ⊢
  refine ⟨(taken host all).map Turn.result, rfl, ?_⟩
  rw [← map_untimed_turns host ending answers context _ state,
    ← Decision.ofResults_map_untimed, List.map_map, Function.comp_def]
  rcases taken_cases host all with complete | failure | ⟨next, found, cancelled⟩
  · rw [complete]
  · obtain ⟨rest, parts⟩ := taken_isPrefix host all
    have whole : all.map (fun turn => turn.result.untimed) =
        (taken host all).map (fun turn => turn.result.untimed) ++
          rest.map (fun turn => turn.result.untimed) := by
      rw [← List.map_append, parts]
    rw [whole, Decision.ofResults_append_of_failure]
    obtain ⟨turn, member, failed⟩ := failure
    exact ⟨turn.result.untimed, List.mem_map.mpr ⟨turn, member, rfl⟩, failed⟩
  · -- The execution ended in the state in which the next hook was due, and that is a calm one.
    have atEnd := before_getElem? host context _ state _ next found
    rw [← taken_eq_take] at atEnd
    rw [← atEnd, cancelled] at calm
    contradiction

/-- Two executions of hooks that are the same apart from the flags that end the chain lead to the
same decision, though one of them may run fewer hooks. -/
theorem decision_eq_of_same_hooks (host : Host Callback Rest)
    (ending : Invocation → Except RunFailure Output)
    (answers : ∀ invocation state, (host.run invocation state).1.ending = ending invocation)
    (context : Context) (first second : State Callback Rest)
    (same : (first.registry.list context.eventType).map (·.withAbortOnFailure false) =
      (second.registry.list context.eventType).map (·.withAbortOnFailure false))
    (calmFirst : host.isCancelled (execute host context.eventType context first).2 = false)
    (calmSecond : host.isCancelled (execute host context.eventType context second).2 = false) :
    ∃ firstResults secondResults,
      (execute host context.eventType context first).1 = .ok firstResults ∧
      (execute host context.eventType context second).1 = .ok secondResults ∧
      Decision.ofResults context.eventType firstResults =
        Decision.ofResults context.eventType secondResults := by
  have flagless : ∀ hooks : List Hook, hooks.map (answered ending context) =
      (hooks.map (·.withAbortOnFailure false)).map (answered ending context) := by
    intro hooks
    rw [List.map_map]
    rfl
  obtain ⟨firstResults, firstGiven, firstDecision⟩ :=
    ofResults_execute host ending answers context first calmFirst
  obtain ⟨secondResults, secondGiven, secondDecision⟩ :=
    ofResults_execute host ending answers context second calmSecond
  refine ⟨firstResults, secondResults, firstGiven, secondGiven, ?_⟩
  rw [firstDecision, secondDecision, flagless, same, ← flagless]

/-- A host whose runner goes by the invocation alone and which changes nothing. -/
def steadyHost (ending : Invocation → Except RunFailure Output) : Host Unit Unit where
  run invocation state := (⟨ending invocation, 0⟩, state)
  isCancelled _ := false
  notify _ _ state := state

def plainCommand (command : String) : Hook :=
  ⟨.command command [], Hook.defaultTimeout, false, false, none, []⟩

def stateOf {Rest : Type} (event : EventType) (hooks : List Hook) (rest : Rest) : State Unit Rest :=
  ⟨hooks.foldl (fun registry hook => (registry.register event hook).2) Registry.empty,
    Bus.empty, Bus.empty, [], rest⟩

def lintFails (invocation : Invocation) : Except RunFailure Output :=
  if invocation.program = .command "lint" [] then .ok ⟨1, "", "style"⟩ else .ok ⟨0, "built", ""⟩

theorem decision_eq_of_same_hooks_lint :
    let context := Context.bare .prePrompt
    let first := stateOf .prePrompt
      [(plainCommand "lint").withAbortOnFailure true, plainCommand "build"] ()
    let second := stateOf .prePrompt [plainCommand "lint", plainCommand "build"] ()
    (first.registry.list .prePrompt).map (·.withAbortOnFailure false) =
        (second.registry.list .prePrompt).map (·.withAbortOnFailure false) ∧
      ∃ firstResults secondResults,
        (execute (steadyHost lintFails) .prePrompt context first).1 = .ok firstResults ∧
        (execute (steadyHost lintFails) .prePrompt context second).1 = .ok secondResults ∧
        Decision.ofResults .prePrompt firstResults = Decision.ofResults .prePrompt secondResults :=
  ⟨rfl, decision_eq_of_same_hooks (steadyHost lintFails) lintFails (fun _ _ => rfl)
    (Context.bare .prePrompt) _ _ rfl rfl rfl⟩

/-! The gate. -/

/-- For a gating event an execution takes the first turns of its hooks. Its action is allowed
exactly if every hook that was run succeeded and either all hooks were run or the execution was
cancelled when the next one was due. -/
theorem isAllowed_execute_iff (host : Host Callback Rest) (context : Context)
    (state : State Callback Rest) (gating : context.eventType.isGating = true) :
    let hooks := state.registry.list context.eventType
    let all := turns host context hooks state
    ∃ run, run <+: all ∧
      execute host context.eventType context state = (.ok (run.map Turn.result), left state run) ∧
      ((Decision.ofResults context.eventType (run.map Turn.result)).isAllowed = true ↔
        (∀ turn ∈ run, turn.result.success = true) ∧
        (run.map Turn.hook = hooks ∨
          ∃ next, all[run.length]? = some next ∧ host.isCancelled next.before = true)) := by
  intro hooks all
  refine ⟨taken host all, taken_isPrefix host all, execute_eq host context state, ?_⟩
  rw [Decision.isAllowed_ofResults_iff _ gating, List.forall_mem_map]
  constructor
  · intro succeeded
    refine ⟨succeeded, ?_⟩
    rcases taken_cases host all with complete | ⟨turn, member, failed⟩ | cancelled
    · exact Or.inl (by rw [complete, map_hook_turns])
    · rw [succeeded turn member] at failed
      contradiction
    · exact Or.inr cancelled
  · exact And.left

/-- Of two hooks the first one cancels the execution and succeeds; the second one would fail. -/
def interrupted : Machine :=
  let sources : Sources := ⟨fun _ => none, fun path => .error (.notFound path), none⟩
  let outcomes : List (String × Scripted) :=
    [("build", .mk [.cancel] false (.exit ⟨0, "", ""⟩) 0),
      ("lint", .mk [] false (.exit ⟨1, "", "style"⟩) 0)]
  (Machine.start sources outcomes).actAll
    [.register .preCommit "a" (plainCommand "build"),
      .register .preCommit "b" (plainCommand "lint")]

theorem isAllowed_execute_iff_interrupted :
    let context := Context.bare .preCommit
    let hooks := interrupted.registry.list .preCommit
    let all := turns Machine.host context hooks interrupted
    EventType.isGating .preCommit = true ∧
    ∃ run, run <+: all ∧
      execute Machine.host .preCommit context interrupted =
        (.ok (run.map Turn.result), left interrupted run) ∧
      ((Decision.ofResults .preCommit (run.map Turn.result)).isAllowed = true ↔
        (∀ turn ∈ run, turn.result.success = true) ∧
        (run.map Turn.hook = hooks ∨
          ∃ next, all[run.length]? = some next ∧ Machine.host.isCancelled next.before = true)) :=
  ⟨rfl, isAllowed_execute_iff Machine.host (Context.bare .preCommit) interrupted rfl⟩

/-- A cancellation opens the gate: an action may be allowed without all of its hooks having run. -/
theorem not_all_run_of_isAllowed :
    ¬ ∀ (host : Host Listener Desk) (context : Context) (state : Machine) (results : List Result),
      context.eventType.isGating = true →
      (execute host context.eventType context state).1 = .ok results →
      (Decision.ofResults context.eventType results).isAllowed = true →
      results.length = (state.registry.list context.eventType).length ∧
        ∀ result ∈ results, result.success = true := by
  intro allRun
  have bothRun := allRun Machine.host (Context.bare .preCommit) interrupted
    [Result.completed 0 "" "" 0] rfl rfl rfl
  exact absurd bothRun.1 (by decide)

end LifecycleHooks.Engine
